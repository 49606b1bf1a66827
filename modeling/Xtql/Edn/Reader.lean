import Xtql.Edn.Lexer
import Xtql.Edn.Escape
import Xtql.Number.Binary64

/-!
The reader: the tokens of a text become exactly one form. `#_` discards the next form; a
collection or tagged literal at depth `d` fails when `d` reaches the limit.
-/

namespace Xtql.Edn

open Xtql.Text Xtql.Number

-- Powers of naturals and integers are `Nat.pow` and `Int.pow` whatever algebra is in scope;
-- literal exponents carry their type, so that no default instance picks another power.
attribute [local instance (high)] instPowNat

/-- What reading needs besides the tokens: the input (for positions), its size in bytes and
the nesting limit. -/
structure ReadContext where
  input : String
  size : Nat
  maxDepth : Nat

def ReadContext.fail (cx : ReadContext) (p : Problem) (offset : Nat) : ParseError :=
  ⟨p, Position.ofOffset cx.input offset⟩

/-- The kind of the next token; past the last token the stream stays at its end. -/
def peekKind : List Token → TokenKind
  | t :: _ => t.kind
  | [] => .eof

def digitsValue (cs : List Char) : Nat :=
  cs.foldl (fun n c => n * 10 + (c.toNat - '0'.toNat)) 0

def fitsInt64 (n : Int) : Bool := -(2 ^ (63 : Nat) : Int) ≤ n && n < 2 ^ (63 : Nat)

def integerValue (text : List Char) : Int :=
  match text with
  | '-' :: r => -(digitsValue r : Int)
  | '+' :: r => digitsValue r
  | r => digitsValue r

def floatValue (text : List Char) : Binary64 :=
  let (neg, body) := match text with
    | '-' :: r => (true, r)
    | '+' :: r => (false, r)
    | r => (false, r)
  let (mantissa, exponent) := splitAtFirst (fun c => c == 'e' || c == 'E') body
  let (whole, fraction) := splitAtFirst (· == '.') mantissa
  let fraction := fraction.getD []
  let exp : Int := match exponent with
    | none => 0
    | some e => integerValue e
  Binary64.ofDecimal neg (digitsValue (whole ++ fraction)) (exp - fraction.length)

def looksNumeric (text : List Char) : Bool :=
  match text.dropWhile (fun c => c == '-' || c == '+') with
  | c :: _ => c.isDigit
  | [] => false

def atom (cx : ReadContext) (t : Token) : Except ParseError Form :=
  let span : Span := ⟨t.offset, t.stop⟩
  match t.kind with
  | .symbol => .ok (.symbol t.text span)
  | .keyword => .ok (.keyword t.text span)
  | .param => .ok (.param t.text span)
  | .trueLit => .ok (.bool true span)
  | .falseLit => .ok (.bool false span)
  | .nilLit => .ok (.nil span)
  | .string =>
    match unescape t.text with
    | .ok s => .ok (.str s span)
    -- the raw text starts one byte after the opening quote
    | .error (rel, e) => .error (cx.fail (.escape e) (t.offset + 1 + rel))
  | .integer =>
    let n := integerValue t.text.toList
    if fitsInt64 n then .ok (.int n span)
    else .error (cx.fail (.integerOutOfRange t.text) t.offset)
  | .float =>
    let x := floatValue t.text.toList
    if x.isFinite then .ok (.float x span)
    else .error (cx.fail (.floatOutOfRange t.text) t.offset)
  | .rparen | .rbracket | .rbrace => .error (cx.fail (.nothingToClose t.kind) t.offset)
  | .discard => .error (cx.fail .strayDiscard t.offset)
  | .unterminatedString => .error (cx.fail .unterminatedString t.offset)
  | .unknown =>
    if looksNumeric t.text.toList then .error (cx.fail (.invalidNumber t.text) t.offset)
    else .error (cx.fail (.unexpectedText t.text) t.offset)
  | _ => .error (cx.fail .unexpectedEnd t.offset)

def pairUp : List Form → Option (List (Form × Form))
  | [] => some []
  | k :: v :: rest => ((k, v) :: ·) <$> pairUp rest
  | [_] => none

def collection (cx : ReadContext) (opener : Token) (items : List Form) (span : Span) :
    Except ParseError Form :=
  match opener.kind with
  | .lparen => .ok (.list items span)
  | .lbracket => .ok (.vector items span)
  | .setOpen => .ok (.set items span)
  | .lbrace =>
    match pairUp items with
    | some pairs => .ok (.map pairs span)
    | none => .error (cx.fail .oddMap span.start)
  | _ =>
    match pairUp items with
    | some pairs => .ok (.nsMap opener.text pairs span)
    | none => .error (cx.fail .oddMap span.start)

mutual

/-- Reads one form at `depth` from tokens that start with no discard marker. -/
def readForm (cx : ReadContext) (depth : Nat) (ts : List Token) :
    Except ParseError (Form × {r : List Token // r.length < ts.length}) :=
  match ts with
  | [] => .error (cx.fail .unexpectedEnd cx.size)
  | t :: rest =>
    if t.kind.isOpen then
      if cx.maxDepth ≤ depth then .error (cx.fail (.tooDeep cx.maxDepth) t.offset)
      else
        match readItems cx t depth [] rest with
        | .ok (f, ⟨r, h⟩) => .ok (f, ⟨r, by simp only [List.length_cons]; omega⟩)
        | .error e => .error e
    else if t.kind = .tag then
      if cx.maxDepth ≤ depth then .error (cx.fail (.tooDeep cx.maxDepth) t.offset)
      else
        match skipDiscarded cx (depth + 1) 0 0 rest with
        | .error e => .error e
        | .ok ⟨rest1, h1⟩ =>
          if peekKind rest1 = .eof then .error (cx.fail (.tagWithoutValue t.text) cx.size)
          else
            match readForm cx (depth + 1) rest1 with
            | .error e => .error e
            | .ok (value, ⟨rest2, h2⟩) =>
              .ok (.tagged t.text value ⟨t.offset, value.span.stop⟩,
                ⟨rest2, by simp only [List.length_cons]; omega⟩)
    else
      match atom cx t with
      | .ok f => .ok (f, ⟨rest, by simp⟩)
      | .error e => .error e
termination_by 3 * ts.length
decreasing_by all_goals ((try simp only [List.length_cons] at *); omega)

/-- Reads the items of the collection that `opener` starts, up to its closer; `acc` holds
the items read so far, last first. -/
def readItems (cx : ReadContext) (opener : Token) (depth : Nat) (acc : List Form)
    (ts : List Token) : Except ParseError (Form × {r : List Token // r.length < ts.length}) :=
  let closer := opener.kind.closer.getD .rparen
  match skipDiscarded cx (depth + 1) 0 0 ts with
  | .error e => .error e
  | .ok ⟨ts1, h1⟩ =>
    match ts1 with
    | [] =>
      .error (cx.fail (.unclosed opener.kind (Position.ofOffset cx.input opener.offset)) cx.size)
    | t :: rest =>
      if t.kind = closer then
        match collection cx opener acc.reverse ⟨opener.offset, t.stop⟩ with
        | .ok f => .ok (f, ⟨rest, by simp only [List.length_cons] at h1; omega⟩)
        | .error e => .error e
      else if t.kind = .eof then
        .error (cx.fail (.unclosed opener.kind (Position.ofOffset cx.input opener.offset)) cx.size)
      else if t.kind.isClose then
        .error (cx.fail (.mismatched closer opener.kind t.kind
          (Position.ofOffset cx.input opener.offset)) t.offset)
      else
        match readForm cx (depth + 1) (t :: rest) with
        | .error e => .error e
        | .ok (f, ⟨ts2, h2⟩) =>
          match readItems cx opener depth (f :: acc) ts2 with
          | .error e => .error e
          | .ok (form, ⟨r, h3⟩) => .ok (form, ⟨r, by omega⟩)
termination_by 3 * ts.length + 2
decreasing_by all_goals ((try simp only [List.length_cons] at *); omega)

/-- Consumes discard markers and the forms they discard. `pending` counts markers whose form
is still to come; `marker` is the offset of the last one. -/
def skipDiscarded (cx : ReadContext) (depth pending marker : Nat) (ts : List Token) :
    Except ParseError {r : List Token // r.length ≤ ts.length} :=
  match ts with
  | t :: rest =>
    if t.kind = .discard then
      match skipDiscarded cx depth (pending + 1) t.offset rest with
      | .ok ⟨r, h⟩ => .ok ⟨r, by simp only [List.length_cons]; omega⟩
      | .error e => .error e
    else if pending = 0 then .ok ⟨t :: rest, Nat.le_refl _⟩
    else if t.kind = .eof then .error (cx.fail .discardAtEnd cx.size)
    else if t.kind.isClose then .error (cx.fail (.discardBeforeCloser t.kind) marker)
    else
      match readForm cx depth (t :: rest) with
      | .error e => .error e
      | .ok (_, ⟨r1, h1⟩) =>
        match skipDiscarded cx depth (pending - 1) marker r1 with
        | .ok ⟨r2, h2⟩ => .ok ⟨r2, by omega⟩
        | .error e => .error e
  | [] =>
    if pending = 0 then .ok ⟨[], Nat.le_refl _⟩
    else .error (cx.fail .discardAtEnd cx.size)
termination_by 3 * ts.length + 1
decreasing_by all_goals ((try simp only [List.length_cons] at *); omega)

end

/-- Reads the one form of a text, with nesting limit `maxDepth`. -/
def read (input : String) (maxDepth : Nat) : Except ParseError Form :=
  let cx : ReadContext := ⟨input, input.utf8ByteSize, maxDepth⟩
  match skipDiscarded cx 0 0 0 (tokenize input) with
  | .error e => .error e
  | .ok ⟨ts1, _⟩ =>
    if peekKind ts1 = .eof then .error (cx.fail .emptyQuery 0)
    else
      match readForm cx 0 ts1 with
      | .error e => .error e
      | .ok (form, ⟨ts2, _⟩) =>
        match skipDiscarded cx 0 0 0 ts2 with
        | .error e => .error e
        | .ok ⟨t :: _, _⟩ =>
          if t.kind = .eof then .ok form else .error (cx.fail (.trailing t.kind) t.offset)
        | .ok ⟨[], _⟩ => .ok form

end Xtql.Edn
