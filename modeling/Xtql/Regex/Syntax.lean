import Xtql.Text.Hex
import Xtql.Unicode.Numeric
import Xtql.Unicode.WhiteSpace

/-!
Whether a field pattern builds into a byte automaton with no Unicode tables: it must read, fit
the automaton and nest at most 250 deep.
-/

namespace Xtql.Regex

open Xtql.Text Xtql.Unicode

-- Powers of naturals and integers are `Nat.pow` and `Int.pow` whatever algebra is in scope;
-- literal exponents carry their type, so that no default instance picks another power.
attribute [local instance (high)] instPowNat

/-- The flags that decide how a pattern reads and whether it builds: case-insensitive `i`,
Unicode mode `u`, and the spaced syntax `x`. -/
structure Flags where
  caseless : Bool
  unicode : Bool
  spaced : Bool
deriving DecidableEq, Repr

def Flags.initial : Flags := ⟨false, true, false⟩

def Flags.apply (f : Flags) : List (Char × Bool) → Flags
  | [] => f
  | (c, on) :: rest =>
    let f :=
      if c = 'i' then { f with caseless := on }
      else if c = 'u' then { f with unicode := on }
      else if c = 'x' then { f with spaced := on }
      else f
    f.apply rest

def skipBlanks (inComment : Bool) : List Char → List Char
  | [] => []
  | c :: cs =>
    if inComment then skipBlanks (c != '\n') cs
    else if isWhiteSpace c then skipBlanks false cs
    else if c = '#' then skipBlanks true cs
    else c :: cs

def skipSpace (spaced : Bool) (cs : List Char) : List Char :=
  if spaced then skipBlanks false cs else cs

theorem skipBlanks_length_le (b : Bool) (cs : List Char) :
    (skipBlanks b cs).length ≤ cs.length := by
  induction cs generalizing b with
  | nil => simp [skipBlanks]
  | cons c cs ih =>
    simp only [skipBlanks]
    split
    · have := ih (c != '\n'); simp; omega
    · split
      · have := ih false; simp; omega
      · split
        · have := ih true; simp; omega
        · simp

theorem skipSpace_length_le (spaced : Bool) (cs : List Char) :
    (skipSpace spaced cs).length ≤ cs.length := by
  unfold skipSpace
  split
  · exact skipBlanks_length_le false cs
  · exact Nat.le_refl _

def hexValue? (ds : List Char) : Option Nat :=
  if ds.isEmpty then none
  else ds.foldlM (fun acc d => (hexDigitValue d).map (acc * 16 + ·)) 0

def isScalar (n : Nat) : Bool := n ≤ 0x10FFFF && !(0xD800 ≤ n && n ≤ 0xDFFF)

def hexRun (spaced : Bool) : Nat → List Char → Option (List Char × List Char)
  | 0, cs => some ([], cs)
  | _ + 1, [] => none
  | n + 1, c :: cs =>
    if (hexDigitValue c).isSome then
      (hexRun spaced n (skipSpace spaced cs)).map fun (ds, r) => (c :: ds, r)
    else none

def hexBrace (spaced : Bool) (cs : List Char) : Option (List Char × List Char) :=
  match _h : skipSpace spaced cs with
  | [] => none
  | c :: rest =>
    if c = '\x7d' then some ([], skipSpace spaced rest)
    else if (hexDigitValue c).isSome then
      (hexBrace spaced rest).map fun (ds, r) => (c :: ds, r)
    else none
termination_by cs.length
decreasing_by
  have := skipSpace_length_le spaced cs
  rw [_h] at this
  simp at this
  omega

/-- A code point after `\x`, `\u` or `\U`: hex digits in braces, or exactly `width` digits.
Also gives whether it is written `\xHH`, the one form that names a byte. -/
def hexEscape (spaced : Bool) (width : Nat) (cs : List Char) : Option (Char × Bool × List Char) :=
  let scalar (ds : List Char) (byteForm : Bool) (r : List Char) :=
    (hexValue? ds).bind fun v =>
      if isScalar v then some (Char.ofNat v, byteForm, r) else none
  match skipSpace spaced cs with
  | [] => none
  | '\x7b' :: rest => (hexBrace spaced rest).bind fun (ds, r) => scalar ds false r
  | rest => (hexRun spaced width rest).bind fun (ds, r) => scalar ds (width = 2) r

def isBoundaryNameChar (c : Char) : Bool := c.isAlpha || c = '-'

def boundaryName (spaced : Bool) (cs : List Char) : List Char × List Char :=
  match cs with
  | c :: rest =>
    if isBoundaryNameChar c then
      let (name, r) := boundaryName spaced (skipSpace spaced rest)
      (c :: name, r)
    else ([], cs)
  | [] => ([], [])
termination_by cs.length
decreasing_by
  have := skipSpace_length_le spaced rest
  simp
  omega

/-- After `\b`: a special boundary `{start}`, `{end}`, `{start-half}` or `{end-half}` when
a brace opens a name, else the text unchanged (the brace then counts a repetition). -/
def boundaryTail (spaced : Bool) (cs : List Char) : Option (List Char) :=
  match cs with
  | '\x7b' :: rest =>
    match skipSpace spaced rest with
    | [] => none
    | c :: more =>
      if isBoundaryNameChar c then
        match boundaryName spaced (c :: more) with
        | (name, '\x7d' :: after) =>
          if ["start", "end", "start-half", "end-half"].contains (String.ofList name) then
            some after
          else none
        | _ => none
      else some cs
  | _ => some cs

inductive Escaped where
  /-- a character; `byteForm` when written `\xHH` -/
  | literal (c : Char) (byteForm : Bool)
  /-- `\d`, `\s` or `\w`, or (negated) `\D`, `\S` or `\W` -/
  | perl (negated : Bool)
  /-- a word boundary: `\b`, `\B`, `\<`, `\>` or a special one -/
  | wordBoundary
  /-- the start or end of the text, `\A` or `\z` -/
  | anchor

/-- Whether a character stands for itself after a backslash: ASCII other than letters,
digits, `<` and `>`. -/
def isEscapable (c : Char) : Bool :=
  c.toNat < 0x80 && !c.isAlphanum && c != '<' && c != '>'

/-- An escape after its backslash, and what follows it. Digits (backreferences) and `\p`,
`\P` are refused, as are letters the syntax does not name. -/
def escape (spaced : Bool) : List Char → Option (Escaped × List Char)
  | [] => none
  | c :: cs =>
    let lit (x : Char) : Option (Escaped × List Char) := some (.literal x false, cs)
    match c with
    | 'x' => (hexEscape spaced 2 cs).map fun (x, b, r) => (.literal x b, r)
    | 'u' => (hexEscape spaced 4 cs).map fun (x, b, r) => (.literal x b, r)
    | 'U' => (hexEscape spaced 8 cs).map fun (x, b, r) => (.literal x b, r)
    | 'd' | 's' | 'w' => some (.perl false, cs)
    | 'D' | 'S' | 'W' => some (.perl true, cs)
    | 'a' => lit '\x07'
    | 'f' => lit '\x0c'
    | 't' => lit '\t'
    | 'n' => lit '\n'
    | 'r' => lit '\r'
    | 'v' => lit '\x0b'
    | 'A' | 'z' => some (.anchor, cs)
    | 'b' => (boundaryTail spaced cs).map (.wordBoundary, ·)
    | 'B' | '<' | '>' => some (.wordBoundary, cs)
    | _ => if isEscapable c then lit c else none

/-- Whether a literal character builds: in Unicode mode only without `i`; with `u` off, a
`\xHH` byte must be ASCII, while a character stands for its UTF-8 bytes and is not folded. -/
def literalBuilds (f : Flags) (c : Char) (byteForm : Bool) : Bool :=
  if f.unicode then !f.caseless
  else !(byteForm && c.toNat ≥ 0x80)

/-- Whether an escape outside a class builds; word boundaries always read, though in Unicode
mode they stay a problem of their own. -/
def escapeBuilds (f : Flags) : Escaped → Bool
  | .literal c byteForm => literalBuilds f c byteForm
  | .perl negated => !f.unicode && !negated
  | .wordBoundary => true
  | .anchor => true

structure ClassPart where
  depth : Nat
deriving DecidableEq, Repr

def ClassPart.flat : ClassPart := ⟨0⟩

def unionPart : List ClassPart → ClassPart
  | [] => .flat
  | [p] => p
  | ps => ⟨1 + (ps.map (·.depth)).foldl max 0⟩

def setOperation (l r : ClassPart) : ClassPart :=
  ⟨1 + max l.depth r.depth⟩

def setSoFar (pending : Option ClassPart) (items : List ClassPart) : ClassPart :=
  match pending with
  | some lhs => setOperation lhs (unionPart items)
  | none => unionPart items

def classPrimitive (spaced : Bool) : List Char → Option (Escaped × List Char)
  | '\\' :: cs => escape spaced cs
  | c :: cs => some (.literal c false, cs)
  | [] => none

/-- A class item on its own: with `u` off a character must be ASCII and `\d \s \w` may not be
negated; in Unicode mode these classes are refused; assertions are no class items. -/
def classItem (f : Flags) : Escaped → Option ClassPart
  | .literal c _ => if f.unicode || c.toNat < 0x80 then some .flat else none
  | .perl negated => if !f.unicode && !negated then some .flat else none
  | _ => none

def classRange (f : Flags) : Escaped → Escaped → Option ClassPart
  | .literal a _, .literal b _ =>
    if a.toNat ≤ b.toNat && (f.unicode || b.toNat < 0x80) then some .flat else none
  | _, _ => none

/-- An item of a class, or a range when `-` and a further item follow (a `-` before `]` or
before another `-` starts no range). -/
def classRangeItem (f : Flags) (cs : List Char) : Option (ClassPart × List Char) := do
  let (p1, r1) ← classPrimitive f.spaced cs
  let r1 := skipSpace f.spaced r1
  match r1 with
  | [] => none
  | '-' :: r2 =>
    let after := skipSpace f.spaced r2
    match after with
    | ']' :: _ | '-' :: _ => (classItem f p1).map (·, r1)
    | [] => none
    | _ => do
      let (p2, r3) ← classPrimitive f.spaced after
      let part ← classRange f p1 p2
      pure (part, r3)
  | _ => (classItem f p1).map (·, r1)

def asciiClassNames : List String :=
  ["alnum", "alpha", "ascii", "blank", "cntrl", "digit", "graph", "lower", "print", "punct",
   "space", "upper", "word", "xdigit"]

def asciiClass? : List Char → Option (Bool × List Char)
  | ':' :: cs =>
    let (negated, cs) := match cs with
      | '^' :: r => (true, r)
      | r => (false, r)
    match cs.span (· != ':') with
    | (name, ':' :: ']' :: rest) =>
      if asciiClassNames.contains (String.ofList name) then some (negated, rest) else none
    | _ => none
  | _ => none

def leadingDashes (spaced : Bool) (cs : List Char) : Option (Nat × List Char) :=
  match cs with
  | '-' :: rest =>
    match _h : skipSpace spaced rest with
    | [] => none
    | c :: more => (leadingDashes spaced (c :: more)).map fun (n, r) => (n + 1, r)
  | _ => some (0, cs)
termination_by cs.length
decreasing_by
  have := skipSpace_length_le spaced rest
  rw [_h] at this
  simp at this ⊢
  omega

/-- Closes a bracketed class: its set is folded under `i` (which needs Unicode tables in
Unicode mode) and negated under `^`. With `u` off every item is ASCII, so the set is too and
its negation takes in the bytes above 0x7F: a negated class is refused there. -/
def closeClass (f : Flags) (negated : Bool) (set : ClassPart) : Option ClassPart :=
  if (f.unicode && f.caseless) || (!f.unicode && negated) then none
  else some ⟨set.depth + 1⟩

mutual

def classBody (f : Flags) (negated : Bool) : Nat → Option ClassPart →
    List ClassPart → List Char → Option (ClassPart × List Char)
  | 0, _, _, _ => none
  | fuel + 1, pending, items, cs =>
    let op (r : List Char) := classBody f negated fuel (some (setSoFar pending items)) [] r
    match skipSpace f.spaced cs with
    | [] => none
    | '[' :: r =>
      match asciiClass? r with
      | some (neg, rest) =>
        if !f.unicode && neg then none
        else classBody f negated fuel pending (items ++ [.flat]) rest
      | none =>
        match bracket f fuel r with
        | some (part, rest) => classBody f negated fuel pending (items ++ [part]) rest
        | none => none
    | ']' :: r => (closeClass f negated (setSoFar pending items)).map (·, r)
    | '&' :: '&' :: r => op r
    | '-' :: '-' :: r => op r
    | '~' :: '~' :: r => op r
    | cs' =>
      match classRangeItem f cs' with
      | some (part, rest) => classBody f negated fuel pending (items ++ [part]) rest
      | none => none

/-- A bracketed class after its `[`: an optional `^`, then any `-` and a `]` right at the start
stand for themselves. Gives the class and what follows its `]`. -/
def bracket (f : Flags) : Nat → List Char → Option (ClassPart × List Char)
  | 0, _ => none
  | fuel + 1, cs =>
    let opened : Option (Bool × List Char) :=
      match skipSpace f.spaced cs with
      | [] => none
      | '^' :: r =>
        match skipSpace f.spaced r with
        | [] => none
        | r' => some (true, r')
      | r => some (false, r)
    match opened with
    | none => none
    | some (negated, r) =>
      match leadingDashes f.spaced r with
      | none => none
      | some (0, ']' :: rest) =>
        match skipSpace f.spaced rest with
        | [] => none
        | rest' => classBody f negated fuel none [.flat] rest'
      | some (n, rest) => classBody f negated fuel none (List.replicate n .flat) rest

end

def digitRun (spaced : Bool) (cs : List Char) : List Char × List Char :=
  match cs with
  | c :: rest =>
    if c.isDigit then
      let (ds, r) := digitRun spaced (skipSpace spaced rest)
      (c :: ds, r)
    else ([], cs)
  | [] => ([], [])
termination_by cs.length
decreasing_by
  have := skipSpace_length_le spaced rest
  simp
  omega

def countLimit : Nat := 2 ^ (32 : Nat) - 1

def count (spaced : Bool) (cs : List Char) : Option (Nat × List Char) :=
  let (ds, rest) := digitRun spaced (cs.dropWhile isWhiteSpace)
  let n := ds.foldl (fun n d => n * 10 + (d.toNat - '0'.toNat)) 0
  if ds.isEmpty || n > countLimit then none else some (n, rest.dropWhile isWhiteSpace)

def lazyTail : List Char → List Char
  | '?' :: rest => rest
  | cs => cs

/-- A counted repetition after its `{`: `m}`, `m,}` or `m,n}` with `m ≤ n`, then an optional
lazy `?`. Also gives whether it allows at most zero copies, which drops what it repeats. -/
def counted (spaced : Bool) (cs : List Char) : Option (Bool × List Char) := do
  let (lo, rest) ← match skipSpace spaced cs with
    | [] => none
    | cs' => count spaced cs'
  let close (empty : Bool) (r : List Char) : Option (Bool × List Char) :=
    match r with
    | '\x7d' :: after => some (empty, lazyTail (skipSpace spaced after))
    | _ => none
  match rest with
  | ',' :: more =>
    match skipSpace spaced more with
    | [] => none
    | '\x7d' :: after => some (false, lazyTail (skipSpace spaced after))
    | more' => do
      let (hi, after) ← count spaced more'
      if lo > hi then none else close (hi = 0) after
  | _ => close (lo = 0) rest

def flagLetters : List Char := ['i', 'm', 's', 'U', 'u', 'R', 'x']

/-- Flags up to `:` or `)`: letters, each at most once, with at most one `-`, which must be
followed by a letter. Gives each letter with whether it is switched on, the closing
character, and what follows it. -/
def flagList (seen : List (Char × Bool)) (negated dangling : Bool) :
    List Char → Option (List (Char × Bool) × Char × List Char)
  | [] => none
  | c :: cs =>
    if c = ':' || c = ')' then
      if dangling then none else some (seen.reverse, c, cs)
    else if c = '-' then
      if negated then none else flagList seen true true cs
    else if flagLetters.contains c && !seen.any (·.1 == c) then
      flagList ((c, !negated) :: seen) negated false cs
    else none

def isGroupName (name : List Char) : Bool :=
  match name with
  | [] => false
  | c :: cs =>
    (isAlphabetic c || c == '_') &&
      cs.all fun d => isAlphanumeric d || d == '_' || d == '.' || d == '[' || d == ']'

def groupName (cs : List Char) : Option (String × List Char) :=
  match cs.span (· != '>') with
  | (name, _ :: rest) => if isGroupName name then some (String.ofList name, rest) else none
  | (_, []) => none

inductive Opening where
  /-- a group, with its name if it has one and the flags it sets inside -/
  | group (name : Option String) (flags : List (Char × Bool))
  /-- a setting of flags for the rest of the enclosing group -/
  | setting (flags : List (Char × Bool))

/-- What follows `(`: look-around is refused; then a named group, flags, or a plain group. -/
def opening (spaced : Bool) (cs : List Char) : Option (Opening × List Char) :=
  match skipSpace spaced cs with
  | '?' :: '=' :: _ | '?' :: '!' :: _ | '?' :: '<' :: '=' :: _ | '?' :: '<' :: '!' :: _ => none
  | '?' :: 'P' :: '<' :: rest | '?' :: '<' :: rest =>
    (groupName rest).map fun (n, r) => (.group (some n) [], r)
  | '?' :: rest =>
    match flagList [] false false rest with
    | some (fl, ')', r) => if fl.isEmpty then none else some (.setting fl, r)
    | some (fl, _, r) => some (.group none fl, r)
    | none => none
  | rest => some (.group none [], rest)

structure Piece where
  depth : Nat
  boundary : Bool
deriving DecidableEq, Repr

def Piece.flat : Piece := ⟨0, false⟩

def seqPiece : List Piece → Piece
  | [] => .flat
  | [p] => p
  | ps => ⟨1 + (ps.map (·.depth)).foldl max 0, ps.any (·.boundary)⟩

def altPiece (done : List Piece) (last : Piece) : Piece :=
  if done.isEmpty then last
  else
    let ps := done ++ [last]
    ⟨1 + (ps.map (·.depth)).foldl max 0, ps.any (·.boundary)⟩

structure Scan where
  piece : Piece
  names : List String
  rest : List Char

/-- Reads alternatives up to the end or a `)`: the flags in force, the names taken, the
finished alternatives, the pieces of the current one (last first), and whether its last piece
is a flag setting (which cannot be repeated). A repetition nests what it repeats one deeper;
one that allows at most zero copies drops it, word boundaries included. -/
def seq : Nat → Flags → List String → List Piece → List Piece → Bool → List Char → Option Scan
  | 0, _, _, _, _, _, _ => none
  | fuel + 1, f, names, done, items, afterFlags, cs =>
    let next (p : Piece) (r : List Char) := seq fuel f names done (p :: items) false r
    let repeated (dropped : Bool) (r : List Char) :=
      match items with
      | p :: ps =>
        if afterFlags then none
        else seq fuel f names done (⟨p.depth + 1, p.boundary && !dropped⟩ :: ps) false r
      | [] => none
    match skipSpace f.spaced cs with
    | [] => some ⟨altPiece done (seqPiece items), names, []⟩
    | ')' :: r => some ⟨altPiece done (seqPiece items), names, ')' :: r⟩
    | '|' :: r => seq fuel f names (done ++ [seqPiece items]) [] false r
    | '(' :: r =>
      match opening f.spaced r with
      | none => none
      | some (.setting fl, r') => seq fuel (f.apply fl) names done (.flat :: items) true r'
      | some (.group name fl, r') =>
        let taken := match name with
          | some n => n :: names
          | none => names
        if name.any names.contains then none
        else
          match seq fuel (f.apply fl) taken [] [] false r' with
          | some ⟨p, names', ')' :: after⟩ =>
            seq fuel f names' done (⟨p.depth + 1, p.boundary⟩ :: items) false after
          | _ => none
    | '*' :: r | '+' :: r | '?' :: r => repeated false (lazyTail r)
    | '\x7b' :: r => (counted f.spaced r).bind fun (dropped, r') => repeated dropped r'
    | '[' :: r =>
      match bracket f (2 * r.length + 2) r with
      | some (part, rest) => next ⟨part.depth, false⟩ rest
      | none => none
    | '\\' :: r =>
      match escape f.spaced r with
      | some (.wordBoundary, rest) => next ⟨0, f.unicode⟩ rest
      | some (e, rest) => if escapeBuilds f e then next .flat rest else none
      | none => none
    | '.' :: r => if f.unicode then next .flat r else none
    | '^' :: r | '$' :: r => next .flat r
    | c :: r => if literalBuilds f c false then next .flat r else none

def nestLimit : Nat := 250

inductive PatternProblem where
  /-- it does not read, does not fit the automaton, or nests too deep -/
  | malformed
  /-- it reads and fits, but keeps a Unicode word boundary, which a byte automaton cannot
  decide -/
  | wordBoundary
deriving DecidableEq, Repr

/-- What stops a pattern from building into a byte automaton, if anything: it must read to its
end, fit the automaton and nest at most `nestLimit` deep; then it may keep no Unicode word
boundary. -/
def problem? (s : String) : Option PatternProblem :=
  let cs := s.toList
  match seq (cs.length + 1) .initial [] [] [] false cs with
  | some r =>
    if !r.rest.isEmpty || r.piece.depth > nestLimit then some .malformed
    else if r.piece.boundary then some .wordBoundary
    else none
  | none => some .malformed

end Xtql.Regex
