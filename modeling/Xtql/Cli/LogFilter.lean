import Xtql.Log
import Xtql.Regex.Syntax
import Xtql.Text.Utf8
import Xtql.Unicode.Numeric
import Xtql.Unicode.WhiteSpace

/-!
Log filters: comma-separated directives `target[span{field}]=level`, read by a machine over the
characters of each trimmed directive. Directives that name no span and match no field value
are rules for events, tried most specific first.
-/

namespace Xtql.Cli

open Xtql.Unicode Xtql.Regex Xtql.Text

inductive DirectiveError where
  /-- the directive breaks the grammar -/
  | malformed
  /-- the level is no level word and no number 0 to 5 -/
  | badLevel
  /-- a field value is no boolean, no number and no pattern that builds -/
  | badField (problem : PatternProblem)
deriving DecidableEq, Repr

def DirectiveError.message : DirectiveError → String
  | .malformed => "invalid filter directive"
  | .badLevel =>
    "error parsing level filter: expected one of \"off\", \"error\", \"warn\", \"info\", " ++
      "\"debug\", \"trace\", or a number 0-5"
  | .badField .malformed => "invalid field filter: error building NFA"
  | .badField .wordBoundary =>
    "invalid field filter: unsupported regex feature for DFAs: cannot build DFAs for " ++
      "regexes with Unicode word boundaries; switch to ASCII word boundaries, or " ++
      "heuristically enable Unicode word boundaries or use a different regex engine"

/-- The rank of a level word or number: `off` is 0, `error` 1 up to `trace` 5, and the empty
word is `error`. A number may carry a `+` and leading zeros. -/
def levelRank? (s : String) : Option Nat :=
  let digits := match s.toList with
    | '+' :: ds => ds
    | ds => ds
  let number : Option Nat :=
    if !digits.isEmpty && digits.all Char.isDigit then
      let n := digits.foldl (fun n c => n * 10 + (c.toNat - '0'.toNat)) 0
      if n ≤ 5 then some n else none
    else none
  match number with
  | some n => some n
  | none =>
    match s.toLower with
    | "" => some 1
    | "error" => some 1
    | "warn" => some 2
    | "info" => some 3
    | "debug" => some 4
    | "trace" => some 5
    | "off" => some 0
    | _ => none

def levelAfterEquals (s : String) : Except DirectiveError Nat :=
  if s.isEmpty then .ok 5
  else match levelRank? s with
    | some l => .ok l
    | none => .error .badLevel

/-- Whether text is a decimal number as floating-point reading takes one: a sign, digits with
at most one point and at least one digit, and an exponent `e` with a sign and digits; or one of
`inf`, `infinity` and `nan` in any case. -/
def isFloatText (s : String) : Bool :=
  let cs := match s.toList with
    | '+' :: r => r
    | '-' :: r => r
    | r => r
  if ["inf", "infinity", "nan"].contains (String.ofList cs).toLower then true
  else
    let (whole, rest) := cs.span Char.isDigit
    let (fraction, rest) := match rest with
      | '.' :: r => r.span Char.isDigit
      | r => ([], r)
    let exponentOk := match rest with
      | [] => true
      | e :: r =>
        (e == 'e' || e == 'E') &&
          let ds := match r with
            | '+' :: d => d
            | '-' :: d => d
            | d => d
          !ds.isEmpty && ds.all Char.isDigit
    (!whole.isEmpty || !fraction.isEmpty) && exponentOk

structure FieldMatch where
  name : String
  hasValue : Bool
deriving DecidableEq, Repr

/-- Reads a field `name` or `name=value`; text after a second `=` is not looked at. A value is
a boolean, a number, or else a pattern, which must build into a byte automaton. -/
def FieldMatch.parse (s : String) : Except DirectiveError FieldMatch :=
  match s.splitOn "=" with
  | name :: value :: _ =>
    if value = "true" || value = "false" || isFloatText value then .ok ⟨name, true⟩
    else match problem? value with
      | some p => .error (.badField p)
      | none => .ok ⟨name, true⟩
  | parts => .ok ⟨parts.headD "", false⟩

structure Directive where
  target : Option String
  inSpan : Option String
  fields : List FieldMatch
  limit : Nat
deriving DecidableEq, Repr

/-- Where the directive reader stands; each part carries the offset where it began. -/
inductive ReadState where
  /-- Before anything. -/
  | start
  /-- In a word that is a target unless it stands alone. -/
  | levelOrTarget (begin : Nat)
  /-- In a span name, after `[`. -/
  | span (begin : Nat)
  /-- In a field, after `{`. -/
  | field (begin : Nat)
  /-- After the `}` of the fields, before the `]`. -/
  | fields
  /-- After the `]` of a span part. -/
  | afterSpan
  /-- In the level, after `=`. -/
  | level (begin : Nat)
  /-- After a `,` that ends the directive. -/
  | complete
deriving DecidableEq, Repr

structure Reading where
  state : ReadState
  target : Option String
  inSpan : Option String
  fields : List FieldMatch
  limit : Nat

def withOffsets : Nat → List Char → List (Nat × Char)
  | _, [] => []
  | p, c :: cs => (p, c) :: withOffsets (p + c.utf8Size) cs

def byteSlice (cs : List Char) (a b : Nat) : Option String :=
  let placed := withOffsets 0 cs
  let between (n : Nat) : Bool := n == utf8Length cs || placed.any (·.1 == n)
  if a ≤ b && between a && between b then
    some (String.ofList ((placed.filter fun (p, _) => a ≤ p && p < b).map (·.2)))
  else none

def cut (written : List Char) (a b : Nat) : Except DirectiveError String :=
  match byteSlice written a b with
  | some s => .ok s
  | none => .error .malformed

def isTargetStart (c : Char) : Bool :=
  isAlphanumeric c || c = '-' || c = ':' || c = '_'

/-- One step of the reader: the character at byte offset `i` of the trimmed directive. -/
def step (written : List Char) (r : Reading) (i : Nat) (c : Char) :
    Except DirectiveError Reading :=
  match r.state, c with
  | .start, '[' => .ok { r with state := .span (i + 1) }
  | .start, _ =>
    if isTargetStart c then .ok { r with state := .levelOrTarget i } else .error .malformed
  | .levelOrTarget b, '=' => do
    let t ← cut written b i
    .ok { r with state := .level (i + 1), target := some t }
  | .levelOrTarget b, '[' => do
    let t ← cut written b i
    .ok { r with state := .span (i + 1), target := some t }
  | .levelOrTarget b, ',' => do
    let t ← cut written b i
    .ok { r with state := .complete, target := some t }
  | .levelOrTarget _, _ => .ok r
  | .afterSpan, '=' => .ok { r with state := .level (i + 1) }
  | .afterSpan, _ => .error .malformed
  | .span b, ']' => do
    let s ← cut written b i
    .ok { r with state := .afterSpan, inSpan := some s }
  | .span b, '\x7b' => do
    let s ← cut written b i
    .ok { r with state := .field (i + 1), inSpan := if s.isEmpty then none else some s }
  | .span _, _ => .ok r
  | .field b, '\x7d' => do
    let f ← cut written b i
    if f.isEmpty then .error .malformed
    else do
      let m ← FieldMatch.parse f
      .ok { r with state := .fields, fields := r.fields ++ [m] }
  | .field b, ',' => do
    let f ← cut written b i
    if f.isEmpty then .error .malformed
    else do
      let m ← FieldMatch.parse f
      .ok { r with state := .field (i + 1), fields := r.fields ++ [m] }
  | .field _, _ => .ok r
  | .fields, ']' => .ok { r with state := .afterSpan }
  | .fields, _ => .error .malformed
  | .level b, ',' => do
    let l ← cut written b i
    let n ← levelAfterEquals l
    .ok { r with state := .complete, limit := n }
  | .level _, _ => .ok r
  | .complete, _ => .error .malformed

def run (written : List Char) : Reading → Nat → List Char → Except DirectiveError Reading
  | r, _, [] => .ok r
  | r, i, c :: cs =>
    match step written r i c with
    | .ok r' => run written r' (i + c.utf8Size) cs
    | .error e => .error e

/-- Ends the reading at byte offset `stop`: a word or level still open runs to the end of the
directive as written. A word that ends the directive is a level when it reads as one (so a
level alone concerns every target), else a target. -/
def finish (written : List Char) (stop : Nat) (r : Reading) : Except DirectiveError Directive :=
  let done (r : Reading) : Directive := ⟨r.target, r.inSpan, r.fields, r.limit⟩
  match r.state with
  | .levelOrTarget b => do
    let t ← cut written b stop
    match levelRank? t with
    | some l => .ok (done { r with limit := l })
    | none => .ok (done { r with target := some t })
  | .level b => do
    let l ← cut written b stop
    let n ← levelAfterEquals l
    .ok (done { r with limit := n })
  | .afterSpan => .ok (done r)
  | .complete => .ok (done r)
  | _ => .error .malformed

def trimBlanks (cs : List Char) : List Char :=
  ((cs.dropWhile isWhiteSpace).reverse.dropWhile isWhiteSpace).reverse

def Directive.parse (d : String) : Except DirectiveError Directive :=
  let written := d.toList
  match run written ⟨.start, none, none, [], 5⟩ 0 (trimBlanks written) with
  | .ok r => finish written d.utf8ByteSize r
  | .error e => .error e

structure EventRule where
  target : Option String
  fieldNames : List String
  limit : Nat
deriving DecidableEq, Repr

/-- The rule a directive gives for events, when it names no span and matches no value. -/
def Directive.eventRule? (d : Directive) : Option EventRule :=
  if d.inSpan.isNone && d.fields.all (!·.hasValue) then
    some ⟨d.target, d.fields.map (·.name), d.limit⟩
  else none

def namesCompare : List String → List String → Ordering
  | [], [] => .eq
  | [], _ :: _ => .lt
  | _ :: _, [] => .gt
  | a :: as, b :: bs => (compare a b).then (namesCompare as bs)

def optionCompare {α : Type} (cmp : α → α → Ordering) : Option α → Option α → Ordering
  | none, none => .eq
  | none, some _ => .lt
  | some _, none => .gt
  | some a, some b => cmp a b

/-- Rules in the order they are tried: a longer target first (no target last), then more
fields; rules as specific as each other are ordered by target and names, from the greatest. -/
def EventRule.order (r s : EventRule) : Ordering :=
  let size (e : EventRule) : Option Nat := e.target.map String.utf8ByteSize
  ((optionCompare compare (size r) (size s)).then
    ((compare r.fieldNames.length s.fieldNames.length).then
      ((optionCompare compare r.target s.target).then
        (namesCompare r.fieldNames s.fieldNames)))).swap

def insertRule (r : EventRule) : List EventRule → List EventRule
  | [] => [r]
  | s :: rest =>
    match r.order s with
    | .lt => r :: s :: rest
    | .eq => r :: rest
    | .gt => s :: insertRule r rest

structure LogFilter where
  rules : List EventRule
deriving Repr

def LogFilter.add (f : LogFilter) (d : Directive) : LogFilter :=
  match d.eventRule? with
  | some r => ⟨insertRule r f.rules⟩
  | none => f

def directivePieces (s : String) : List String :=
  (s.splitOn ",").filter (· != "")

def LogFilter.parse? (s : String) : Option LogFilter :=
  (directivePieces s).foldlM (fun f piece =>
    match Directive.parse piece with
    | .ok d => some (f.add d)
    | .error _ => none) ⟨[]⟩

def LogFilter.parseLossy (s : String) : LogFilter × List String :=
  (directivePieces s).foldl (fun (f, notices) piece =>
    match Directive.parse piece with
    | .ok d => (f.add d, notices)
    | .error e => (f, notices ++ ["ignoring `" ++ piece ++ "`: " ++ e.message]))
    (⟨[]⟩, [])

def EventRule.covers (r : EventRule) (e : LogEvent) : Bool :=
  (match r.target with
    | some t => t.isPrefixOf e.target
    | none => true) &&
    r.fieldNames.all (e.fieldNames.contains ·)

/-- Whether the filter keeps an event: the first rule that covers it allows its level. -/
def LogFilter.keeps (f : LogFilter) (e : LogEvent) : Bool :=
  match f.rules.find? (·.covers e) with
  | some r => e.level.rank ≤ r.limit
  | none => false

/-- The filter of a run: the environment's filter when set and readable, else the given
directives read leniently, with their notices. -/
def LogFilter.choose (environment : Option String) (fallback : String) :
    LogFilter × List String :=
  match environment.bind LogFilter.parse? with
  | some f => (f, [])
  | none => LogFilter.parseLossy fallback

end Xtql.Cli
