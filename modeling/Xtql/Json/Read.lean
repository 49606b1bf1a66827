import Xtql.Json.Value
import Xtql.Text.Hex

/-!
Reading JSON text strictly, one byte of lookahead at a time, with the failure texts and places
of a streaming reader. Nesting stops at 128 levels.
-/

namespace Xtql

open Xtql.Number Xtql.Text

-- Powers of naturals and integers are `Nat.pow` and `Int.pow` whatever algebra is in scope;
-- literal exponents carry their type, so that no default instance picks another power.
attribute [local instance (high)] instPowNat

inductive JsonProblem where
  | eofInList
  | eofInObject
  | eofInString
  | eofInValue
  | expectedColon
  | expectedListCommaOrEnd
  | expectedObjectCommaOrEnd
  | expectedIdent
  | expectedValue
  | invalidEscape
  | invalidNumber
  | numberOutOfRange
  | controlCharacter
  | keyNotString
  | loneSurrogate
  | trailingComma
  | trailingCharacters
  | unexpectedEndOfHexEscape
  | recursionLimit
  /-- the text is JSON, but not a value of the kind asked for -/
  | data (message : String)
deriving DecidableEq, Repr

def JsonProblem.message : JsonProblem → String
  | .eofInList => "EOF while parsing a list"
  | .eofInObject => "EOF while parsing an object"
  | .eofInString => "EOF while parsing a string"
  | .eofInValue => "EOF while parsing a value"
  | .expectedColon => "expected `:`"
  | .expectedListCommaOrEnd => "expected `,` or `]`"
  | .expectedObjectCommaOrEnd => "expected `,` or `\x7d`"
  | .expectedIdent => "expected ident"
  | .expectedValue => "expected value"
  | .invalidEscape => "invalid escape"
  | .invalidNumber => "invalid number"
  | .numberOutOfRange => "number out of range"
  | .controlCharacter => "control character (\\u0000-\\u001F) found while parsing a string"
  | .keyNotString => "key must be a string"
  | .loneSurrogate => "lone leading surrogate in hex escape"
  | .trailingComma => "trailing comma"
  | .trailingCharacters => "trailing characters"
  | .unexpectedEndOfHexEscape => "unexpected end of hex escape"
  | .recursionLimit => "recursion limit exceeded"
  | .data m => m

/-- A failure to read JSON: the cause, and the line and byte column where it arose when the
failure comes from text. -/
structure JsonError where
  problem : JsonProblem
  place : Option (Nat × Nat)
deriving DecidableEq, Repr

def JsonError.render (e : JsonError) : String :=
  match e.place with
  | some (l, c) => e.problem.message ++ " at line " ++ toString l ++ " column " ++ toString c
  | none => e.problem.message

/-- The line (from 1) and byte column (bytes since the last `\n`) of a byte index. -/
def lineColumn (source : List Char) (index : Nat) : Nat × Nat :=
  go source 0 1 0
where
  go : List Char → Nat → Nat → Nat → Nat × Nat
    | c :: cs, b, line, lineStart =>
      if b < index then
        if c = '\n' then go cs (b + 1) (line + 1) (b + 1)
        else go cs (b + c.utf8Size) line lineStart
      else (line, index - lineStart)
    | [], _, line, lineStart => (line, index - lineStart)

/-- Where a reader stands: the whole text, its size in bytes, what is left and the byte index
of what is left. -/
structure JsonCursor where
  source : List Char
  size : Nat
  rest : List Char
  index : Nat

def JsonCursor.start (s : String) : JsonCursor :=
  { source := s.toList, size := s.utf8ByteSize, rest := s.toList, index := 0 }

abbrev JsonReader := StateT JsonCursor (Except JsonError)

namespace JsonReader

def failAt {α : Type} (p : JsonProblem) (i : Nat) : JsonReader α := do
  throw ⟨p, some (lineColumn (← get).source i)⟩

def fail {α : Type} (p : JsonProblem) : JsonReader α := do
  failAt p (← get).index

/-- Fails one byte past where the reader stands (not past the end): about the byte it looked
at, or after taking one byte of the next character. -/
def failAhead {α : Type} (p : JsonProblem) : JsonReader α := do
  let c ← get
  failAt p (min (c.index + 1) c.size)

def peek? : JsonReader (Option Char) := do
  return (← get).rest.head?

def bump : JsonReader Unit :=
  modify fun c => match c.rest with
    | [] => c
    | x :: r => { c with rest := r, index := c.index + x.utf8Size }

def skipAscii (n : Nat) : JsonReader Unit :=
  modify fun c => { c with rest := c.rest.drop n, index := c.index + n }

def isBlank (c : Char) : Bool := c = ' ' || c = '\n' || c = '\t' || c = '\r'

/-- Takes blanks, then looks at the next character. Blanks are one byte each. -/
def peekToken? : JsonReader (Option Char) := do
  let c ← get
  let n := (c.rest.takeWhile isBlank).length
  let r := c.rest.drop n
  set { c with rest := r, index := c.index + n }
  return r.head?

def expectWord : List Char → JsonReader Unit
  | [] => pure ()
  | w :: ws => do
    match ← peek? with
    | none => fail .eofInValue
    | some ch => if ch = w then do bump; expectWord ws else failAhead .expectedIdent

def digitValue (c : Char) : Nat := c.toNat - '0'.toNat

/-- Runs of digits onto an accumulator while it stays at most `bound`: the value, how many
digits were taken, and whether the run stopped at a digit that would pass the bound. -/
def takeDigits (bound : Nat) : Nat → List Char → Nat × Nat × Bool
  | acc, c :: cs =>
    if c.isDigit then
      let next := acc * 10 + digitValue c
      if next > bound then (acc, 0, true)
      else
        let (v, n, overflowed) := takeDigits bound next cs
        (v, n + 1, overflowed)
    else (acc, 0, false)
  | acc, [] => (acc, 0, false)

def u64Max : Nat := 2 ^ (64 : Nat) - 1

def i32Max : Nat := 2 ^ (31 : Nat) - 1

def clampI32 (n : Int) : Int := max (-(2 ^ (31 : Nat))) (min (2 ^ (31 : Nat) - 1) n)

def digitRun : JsonReader Nat := do
  return ((← get).rest.takeWhile Char.isDigit).length

end JsonReader

def pow10 (i : Nat) : Binary64 := Binary64.ofNat (10 ^ i)

/-- `f × 10^e` by one rounded multiplication or division by `pow10 |e|`; while `|e|` is past
308, a nonzero value is first divided by `pow10 308`. `none` when the result overflows. -/
def scaleByTen (f : Binary64) (e : Int) : Option Binary64 :=
  if e.natAbs ≤ 308 then
    if 0 ≤ e then
      let g := f.mul (pow10 e.toNat)
      if g.isFinite then some g else none
    else some (f.div (pow10 e.natAbs))
  else if f.isZero then some f
  else if 0 ≤ e then none
  else scaleByTen (f.div (pow10 308)) (e + 308)
termination_by e.natAbs
decreasing_by omega

inductive ReadNumber where
  | unsigned (n : Nat)
  | negative (n : Int)
  | float (x : Binary64)
deriving DecidableEq, Repr

def ReadNumber.toJson : ReadNumber → Json
  | .unsigned n => .num (.int n)
  | .negative n => .num (.int n)
  | .float x => .num (.float x)

namespace JsonReader

def fromParts (positive : Bool) (sig : Nat) (exp : Int) : JsonReader Binary64 := do
  match scaleByTen (Binary64.ofNat sig) exp with
  | some f => pure (if positive then f else f.neg)
  | none => fail .numberOutOfRange

/-- An exponent after `e` or `E`, added to `start`. An exponent too large for 32 bits makes
zero, unless it is positive and the significand is not zero. -/
def readExponent (positive : Bool) (sig : Nat) (start : Int) : JsonReader Binary64 := do
  bump
  let positiveExp ← match ← peek? with
    | some '+' => do bump; pure true
    | some '-' => do bump; pure false
    | _ => pure true
  match ← peek? with
  | none => fail .eofInValue
  | some c =>
    if c.isDigit then
      bump
      let (v, n, overflowed) := takeDigits i32Max (digitValue c) (← get).rest
      if overflowed then
        skipAscii (n + 1)
        if sig ≠ 0 && positiveExp then fail .numberOutOfRange
        else
          skipAscii (← digitRun)
          pure (if positive then Binary64.zero false else Binary64.zero true)
      else
        skipAscii n
        let e := if positiveExp then clampI32 (start + v) else clampI32 (start - v)
        fromParts positive sig e
    else failAhead .invalidNumber

/-- Digits after a decimal point; `before` is the exponent so far. Digits that no longer fit
64 bits are dropped. -/
def readFraction (positive : Bool) (sig : Nat) (before : Int) : JsonReader Binary64 := do
  bump
  let (v, n, overflowed) := takeDigits u64Max sig (← get).rest
  skipAscii n
  if overflowed then skipAscii (← digitRun)
  if n = 0 && !overflowed then
    match ← peek? with
    | some _ => failAhead .invalidNumber
    | none => failAhead .eofInValue
  else
    match ← peek? with
    | some 'e' | some 'E' => readExponent positive v (before - n)
    | _ => fromParts positive v (before - n)

def finishNumber (positive : Bool) (sig : Nat) : JsonReader ReadNumber := do
  match ← peek? with
  | some '.' => return .float (← readFraction positive sig 0)
  | some 'e' | some 'E' => return .float (← readExponent positive sig 0)
  | _ =>
    if positive then return .unsigned sig
    else if 1 ≤ sig ∧ sig ≤ 2 ^ (63 : Nat) then return .negative (-(sig : Int))
    else return .float (Binary64.ofNat sig).neg

/-- A number, its sign already taken: one leading `0` or a run of digits, then a fraction
and an exponent. An integer too long for 64 bits keeps its leading digits and counts the rest
into the exponent. -/
def readNumber (positive : Bool) : JsonReader ReadNumber := do
  match ← peek? with
  | none => fail .eofInValue
  | some '0' =>
    bump
    match ← peek? with
    | some c => if c.isDigit then failAhead .invalidNumber else finishNumber positive 0
    | none => finishNumber positive 0
  | some c =>
    if c.isDigit then
      bump
      let (v, n, overflowed) := takeDigits u64Max (digitValue c) (← get).rest
      skipAscii n
      if overflowed then
        let extra ← digitRun
        skipAscii extra
        match ← peek? with
        | some '.' => return .float (← readFraction positive v extra)
        | some 'e' | some 'E' => return .float (← readExponent positive v extra)
        | _ => return .float (← fromParts positive v extra)
      else finishNumber positive v
    else failAhead .invalidNumber

end JsonReader

def isHighHalf (n : Nat) : Bool := 0xD800 ≤ n && n ≤ 0xDBFF

def isLowHalf (n : Nat) : Bool := 0xDC00 ≤ n && n ≤ 0xDFFF

def hexQuad (size : Nat) (cs : List Char) (i : Nat) : Except (JsonProblem × Nat) Nat :=
  if size - i < 4 then .error (.eofInString, size)
  else match hex4Value (cs.take 4) with
    | some n => .ok n
    | none => .error (.invalidEscape, i + 4)

/-- The character of a `\u` escape whose hex digits start `cs` at byte index `i`: a surrogate
pair is read as one character, and a half alone is a failure. The result is the character,
how many characters were taken and the byte index after them. -/
def unicodeEscape (size : Nat) (cs : List Char) (i : Nat) :
    Except (JsonProblem × Nat) (Char × Nat × Nat) := do
  let n ← hexQuad size cs i
  if isLowHalf n then .error (.loneSurrogate, i + 4)
  else if !isHighHalf n then .ok (Char.ofNat n, 4, i + 4)
  else
    match cs.drop 4 with
    | [] => .error (.eofInString, i + 4)
    | '\\' :: r =>
      match r with
      | [] => .error (.eofInString, i + 5)
      | 'u' :: r' =>
        let m ← hexQuad size r' (i + 6)
        if isLowHalf m then
          .ok (Char.ofNat (0x10000 + (n - 0xD800) * 0x400 + (m - 0xDC00)), 10, i + 10)
        else .error (.loneSurrogate, i + 10)
      | _ :: _ => .error (.unexpectedEndOfHexEscape, i + 6)
    | _ :: _ => .error (.unexpectedEndOfHexEscape, i + 5)

def stringEscape (size : Nat) (cs : List Char) (i : Nat) :
    Except (JsonProblem × Nat) (List Char × Nat × Nat) :=
  match cs with
  | [] => .error (.eofInString, i)
  | c :: r =>
    match c with
    | '"' => .ok (['"'], 1, i + 1)
    | '\\' => .ok (['\\'], 1, i + 1)
    | '/' => .ok (['/'], 1, i + 1)
    | 'b' => .ok ([Char.ofNat 8], 1, i + 1)
    | 'f' => .ok ([Char.ofNat 12], 1, i + 1)
    | 'n' => .ok (['\n'], 1, i + 1)
    | 'r' => .ok (['\r'], 1, i + 1)
    | 't' => .ok (['\t'], 1, i + 1)
    | 'u' => do
      let (ch, n, j) ← unicodeEscape size r (i + 1)
      .ok ([ch], n + 1, j)
    | _ => .error (.invalidEscape, i + 1)

/-- The body of a string after its opening quote at byte index `i`, up to and with the closing
quote: the characters read (reversed onto `acc`), what is left and its byte index. A raw
control character fails after it. -/
def stringBody (size : Nat) (acc : List Char) (cs : List Char) (i : Nat) :
    Except (JsonProblem × Nat) (List Char × List Char × Nat) :=
  match cs with
  | [] => .error (.eofInString, size)
  | c :: r =>
    if c = '"' then .ok (acc.reverse, r, i + 1)
    else if c = '\\' then
      match stringEscape size r (i + 1) with
      | .error e => .error e
      | .ok (out, n, j) => stringBody size (out.reverse ++ acc) (r.drop n) j
    else if c.toNat < 0x20 then .error (.controlCharacter, i + 1)
    else stringBody size (c :: acc) r (i + c.utf8Size)
termination_by cs.length
decreasing_by all_goals simp only [List.length_cons, List.length_drop]; omega

def skipEscape (size : Nat) (cs : List Char) (i : Nat) : Except (JsonProblem × Nat) (Nat × Nat) :=
  match cs with
  | [] => .error (.eofInString, i)
  | c :: r =>
    if c = 'u' then do
      let _ ← hexQuad size r (i + 1)
      .ok (5, i + 5)
    else if c = '"' ∨ c = '\\' ∨ c = '/' ∨ c = 'b' ∨ c = 'f' ∨ c = 'n' ∨ c = 'r' ∨ c = 't' then
      .ok (1, i + 1)
    else .error (.invalidEscape, i + 1)

/-- A string that is only checked, after its opening quote: what is left after the closing
quote and its byte index. A raw control character fails before it. -/
def skipStringBody (size : Nat) (cs : List Char) (i : Nat) :
    Except (JsonProblem × Nat) (List Char × Nat) :=
  match cs with
  | [] => .error (.eofInString, size)
  | c :: r =>
    if c = '"' then .ok (r, i + 1)
    else if c = '\\' then
      match skipEscape size r (i + 1) with
      | .error e => .error e
      | .ok (n, j) => skipStringBody size (r.drop n) j
    else if c.toNat < 0x20 then .error (.controlCharacter, i)
    else skipStringBody size r (i + c.utf8Size)
termination_by cs.length
decreasing_by all_goals simp only [List.length_cons, List.length_drop]; omega

namespace JsonReader

def readString : JsonReader String := do
  let c ← get
  match stringBody c.size [] c.rest c.index with
  | .ok (out, r, j) => do set { c with rest := r, index := j }; pure (String.ofList out)
  | .error (p, j) => failAt p j

def skipString : JsonReader Unit := do
  let c ← get
  match skipStringBody c.size c.rest c.index with
  | .ok (r, j) => set { c with rest := r, index := j }
  | .error (p, j) => failAt p j

def expectColon : JsonReader Unit := do
  match ← peekToken? with
  | some ':' => bump
  | some _ => failAhead .expectedColon
  | none => failAhead .eofInObject

def nextElement (first : Bool) : JsonReader Bool := do
  match ← peekToken? with
  | none => failAhead .eofInList
  | some ']' => pure false
  | some c =>
    if first then pure true
    else if c = ',' then
      bump
      match ← peekToken? with
      | some ']' => failAhead .trailingComma
      | some _ => pure true
      | none => failAhead .eofInValue
    else failAhead .expectedListCommaOrEnd

/-- Whether an object has another field, taking the `,` before it and the quote that opens its
key; `first` is set before the first field. -/
def nextKey (first : Bool) : JsonReader Bool := do
  match ← peekToken? with
  | none => failAhead .eofInObject
  | some '}' => pure false
  | some c =>
    if first then
      if c = '"' then do bump; pure true else failAhead .keyNotString
    else if c = ',' then
      bump
      match ← peekToken? with
      | some '"' => do bump; pure true
      | some '}' => failAhead .trailingComma
      | some _ => failAhead .keyNotString
      | none => failAhead .eofInValue
    else failAhead .expectedObjectCommaOrEnd

def expectEnd : JsonReader Unit := do
  match ← peekToken? with
  | some _ => failAhead .trailingCharacters
  | none => pure ()

mutual

/-- A value, with `depth` levels of nesting left; `fuel` bounds the steps. -/
def readValue : Nat → Nat → JsonReader Json
  | 0, _ => fail .recursionLimit
  | fuel + 1, depth => do
    match ← peekToken? with
    | none => failAhead .eofInValue
    | some 'n' => do bump; expectWord ['u', 'l', 'l']; pure .null
    | some 't' => do bump; expectWord ['r', 'u', 'e']; pure (.bool true)
    | some 'f' => do bump; expectWord ['a', 'l', 's', 'e']; pure (.bool false)
    | some '-' => do bump; return (← readNumber false).toJson
    | some '"' => do bump; return .str (← readString)
    | some '[' =>
      if depth ≤ 1 then failAhead .recursionLimit
      else do
        bump
        let items ← readItems fuel (depth - 1) true []
        bump
        pure (.arr items)
    | some '{' =>
      if depth ≤ 1 then failAhead .recursionLimit
      else do
        bump
        let fields ← readFields fuel (depth - 1) true []
        bump
        pure (.obj fields)
    | some c =>
      if c.isDigit then return (← readNumber true).toJson
      else failAhead .expectedValue

def readItems : Nat → Nat → Bool → List Json → JsonReader (List Json)
  | 0, _, _, _ => fail .recursionLimit
  | fuel + 1, depth, first, acc => do
    if ← nextElement first then
      let v ← readValue fuel depth
      readItems fuel depth false (v :: acc)
    else pure acc.reverse

/-- The fields of an object up to its `}`, sorted by key, a later key replacing an earlier. -/
def readFields : Nat → Nat → Bool → List (String × Json) → JsonReader (List (String × Json))
  | 0, _, _, _ => fail .recursionLimit
  | fuel + 1, depth, first, acc => do
    if ← nextKey first then
      let k ← readString
      expectColon
      let v ← readValue fuel depth
      readFields fuel depth false (Json.insertField k v acc)
    else pure acc

end

def skipNumber : JsonReader Unit := do
  match ← peek? with
  | some '0' =>
    bump
    match ← peek? with
    | some c => if c.isDigit then failAhead .invalidNumber else pure ()
    | none => pure ()
  | some c =>
    if c.isDigit then do bump; skipAscii (← digitRun)
    else failAhead .invalidNumber
  | none => fail .invalidNumber
  let exponent : JsonReader Unit := do
    bump
    match ← peek? with
    | some '+' | some '-' => bump
    | _ => pure ()
    match ← peek? with
    | some c => if c.isDigit then do bump; skipAscii (← digitRun) else failAhead .invalidNumber
    | none => fail .invalidNumber
  match ← peek? with
  | some '.' =>
    bump
    let n ← digitRun
    if n = 0 then failAhead .invalidNumber
    else
      skipAscii n
      match ← peek? with
      | some 'e' | some 'E' => exponent
      | _ => pure ()
  | some 'e' | some 'E' => exponent
  | _ => pure ()

mutual

/-- Checks a value without keeping it, at any depth; `fuel` bounds the steps. -/
def skipValue : Nat → JsonReader Unit
  | 0 => fail .recursionLimit
  | fuel + 1 => do
    match ← peekToken? with
    | none => failAhead .eofInValue
    | some 'n' => do bump; expectWord ['u', 'l', 'l']
    | some 't' => do bump; expectWord ['r', 'u', 'e']
    | some 'f' => do bump; expectWord ['a', 'l', 's', 'e']
    | some '-' => do bump; skipNumber
    | some '"' => do bump; skipString
    | some '[' => do bump; skipItems fuel true
    | some '{' => do bump; skipFields fuel true
    | some c => if c.isDigit then skipNumber else failAhead .expectedValue

def skipItems : Nat → Bool → JsonReader Unit
  | 0, _ => fail .recursionLimit
  | fuel + 1, first => do
    match ← peekToken? with
    | none => failAhead .eofInList
    | some ']' => bump
    | some c =>
      if first then do skipValue fuel; skipItems fuel false
      else if c = ',' then do bump; skipValue fuel; skipItems fuel false
      else failAhead .expectedListCommaOrEnd

def skipFields : Nat → Bool → JsonReader Unit
  | 0, _ => fail .recursionLimit
  | fuel + 1, first => do
    match ← peekToken? with
    | none => failAhead .eofInObject
    | some '}' => bump
    | some c =>
      if first || c = ',' then do
        if !first then bump
        match ← peekToken? with
        | some '"' => bump
        | some _ => failAhead .keyNotString
        | none => failAhead .eofInObject
        skipString
        match ← peekToken? with
        | some ':' => bump
        | some _ => failAhead .expectedColon
        | none => failAhead .eofInObject
        skipValue fuel
        skipFields fuel false
      else failAhead .expectedObjectCommaOrEnd

end

def fuelFor (c : JsonCursor) : Nat := 2 * c.rest.length + 4

end JsonReader

def Json.parse (s : String) : Except JsonError Json :=
  let c := JsonCursor.start s
  (do
    let v ← JsonReader.readValue (JsonReader.fuelFor c) 128
    JsonReader.expectEnd
    pure v : JsonReader Json).run' c

end Xtql
