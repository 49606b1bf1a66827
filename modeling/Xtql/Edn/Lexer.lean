import Xtql.Edn.Token
import Xtql.Text.Utf8
import Xtql.Unicode.Numeric
import Xtql.Unicode.WhiteSpace

/-!
The scanner of EDN text. It never fails: text that is no token becomes an `unknown` or
`unterminatedString` token. Blanks and comments are skipped before each token, never after one.
-/

namespace Xtql.Edn

open Xtql.Unicode Xtql.Text

def nameMarks : List Char := "*+!-_'?<>=/.&%:".toList

def isSymbolChar (c : Char) : Bool :=
  isAlphanumeric c || nameMarks.contains c

/-- A character that may begin a symbol or a tag: no digit and no colon. -/
def isSymbolStart (c : Char) : Bool :=
  isAlphabetic c || (c != ':' && nameMarks.contains c)

def isBlank (c : Char) : Bool :=
  isWhiteSpace c || c == ','

theorem length_dropWhile_le (p : α → Bool) :
    ∀ l : List α, (l.dropWhile p).length ≤ l.length
  | [] => Nat.le_refl _
  | c :: cs => by
    rw [List.dropWhile_cons]
    split
    · exact Nat.le_succ_of_le (length_dropWhile_le p cs)
    · exact Nat.le_refl _

/-- Drops blanks and comments, returning what is left. -/
def skipTrivia : List Char → List Char
  | [] => []
  | c :: cs =>
    if isBlank c then skipTrivia cs
    else if c = ';' then skipTrivia (cs.dropWhile (· != '\n'))
    else c :: cs
termination_by cs => cs.length
decreasing_by
  · simp
  · have := length_dropWhile_le (· != '\n') cs
    simp only [List.length_cons]
    omega

theorem length_skipTrivia_le (cs : List Char) : (skipTrivia cs).length ≤ cs.length := by
  fun_induction skipTrivia cs with
  | case1 => simp
  | case2 c cs _ ih => simp only [List.length_cons]; omega
  | case3 cs _ ih =>
    have := length_dropWhile_le (· != '\n') cs
    simp only [List.length_cons]; omega
  | case4 => simp

theorem skipTrivia_suffix (cs : List Char) : skipTrivia cs <:+ cs := by
  fun_induction skipTrivia cs with
  | case1 => exact List.suffix_refl _
  | case2 c cs _ ih => exact ih.trans (List.suffix_cons c cs)
  | case3 cs _ ih =>
    exact ih.trans ((List.dropWhile_suffix _).trans (List.suffix_cons ';' cs))
  | case4 => exact List.suffix_refl _

/-- The UTF-8 bytes of the blanks and comments at the front: what `skipTrivia` drops. -/
def triviaBytes : List Char → Nat
  | [] => 0
  | c :: cs =>
    if isBlank c then c.utf8Size + triviaBytes cs
    else if c = ';' then
      c.utf8Size + utf8Length (cs.takeWhile (· != '\n')) + triviaBytes (cs.dropWhile (· != '\n'))
    else 0
termination_by cs => cs.length
decreasing_by
  · simp
  · have := length_dropWhile_le (· != '\n') cs
    simp only [List.length_cons]
    omega

theorem triviaBytes_add_utf8Length (cs : List Char) :
    triviaBytes cs + utf8Length (skipTrivia cs) = utf8Length cs := by
  fun_induction skipTrivia cs with
  | case1 => simp [triviaBytes]
  | case2 c cs h ih =>
    rw [triviaBytes, if_pos h, utf8Length_cons]
    omega
  | case3 cs h ih =>
    have hb : isBlank ';' = false := by decide
    rw [triviaBytes, if_neg (by simp [hb]), if_pos rfl, utf8Length_cons]
    have hs := utf8Length_append (cs.takeWhile (· != '\n')) (cs.dropWhile (· != '\n'))
    rw [List.takeWhile_append_dropWhile] at hs
    omega
  | case4 c cs h1 h2 =>
    rw [triviaBytes, if_neg h1, if_neg h2]
    simp

def spanName (cs : List Char) : List Char × List Char :=
  (cs.takeWhile isSymbolChar, cs.dropWhile isSymbolChar)

theorem spanName_append (cs : List Char) : (spanName cs).1 ++ (spanName cs).2 = cs :=
  List.takeWhile_append_dropWhile

theorem length_spanName_le (cs : List Char) : (spanName cs).2.length ≤ cs.length :=
  length_dropWhile_le _ cs

/-- The body of a string literal up to its closing quote. A backslash takes the next
character with it. Gives the raw body, whether a closing quote was found, and the rest. -/
def scanStringBody : List Char → List Char × Bool × List Char
  | [] => ([], false, [])
  | '"' :: cs => ([], true, cs)
  | '\\' :: [] => (['\\'], false, [])
  | '\\' :: c :: cs =>
    let (body, closed, rest) := scanStringBody cs
    ('\\' :: c :: body, closed, rest)
  | c :: cs =>
    let (body, closed, rest) := scanStringBody cs
    (c :: body, closed, rest)

theorem length_scanStringBody_le (cs : List Char) : (scanStringBody cs).2.2.length ≤ cs.length := by
  fun_induction scanStringBody cs <;> simp_all <;> omega

def dropSign : List Char → List Char
  | '-' :: r => r
  | '+' :: r => r
  | r => r

def allDigits (s : List Char) : Bool :=
  !s.isEmpty && s.all Char.isDigit

/-- Splits at the first character that satisfies `p`, dropping that character. -/
def splitAtFirst (p : Char → Bool) : List Char → List Char × Option (List Char)
  | [] => ([], none)
  | c :: cs =>
    if p c then ([], some cs)
    else
      let (pre, post) := splitAtFirst p cs
      (c :: pre, post)

/-- How number-like text reads: `[+-]digits` is an integer; `[+-]digits[.digits*][(e|E)[+-]digits]`
with a point or an exponent is a float; anything else is no number. -/
def numberKind (text : List Char) : TokenKind :=
  let unsigned := dropSign text
  if allDigits unsigned then .integer
  else
    let (mantissa, exponent) := splitAtFirst (fun c => c == 'e' || c == 'E') unsigned
    let (whole, fraction) := splitAtFirst (· == '.') mantissa
    let fractionOk := match fraction with
      | none => true
      | some f => f.isEmpty || allDigits f
    let exponentOk := match exponent with
      | none => true
      | some e => allDigits (dropSign e)
    if allDigits whole && fractionOk && exponentOk && (fraction.isSome || exponent.isSome) then
      .float
    else .unknown

def nameKind (text : List Char) : TokenKind :=
  if text = "true".toList then .trueLit
  else if text = "false".toList then .falseLit
  else if text = "nil".toList then .nilLit
  else .symbol

def mkToken (kind : TokenKind) (text written : List Char) (pos : Nat) : Token :=
  { kind, text := String.ofList text, offset := pos, stop := pos + utf8Length written }

/-- The token after `#`: a set, a namespaced map, the discard marker, a tag, or unknown. -/
def scanDispatch (pos : Nat) : List Char → Token × List Char
  | '{' :: r => (mkToken .setOpen ['#', '{'] ['#', '{'] pos, r)
  | ':' :: r =>
    let ns := (spanName r).1
    match ns, (spanName r).2 with
    | _ :: _, '{' :: r' => (mkToken .nsMapOpen ns ('#' :: ':' :: ns ++ ['{']) pos, r')
    | _, r' => (mkToken .unknown ('#' :: ':' :: ns) ('#' :: ':' :: ns) pos, r')
  | '_' :: r => (mkToken .discard ['#', '_'] ['#', '_'] pos, r)
  | c :: r =>
    if isSymbolStart c then
      -- `c` is a name character, so the tag runs on from it
      (mkToken .tag (c :: (spanName r).1) ('#' :: c :: (spanName r).1) pos, (spanName r).2)
    else (mkToken .unknown ['#'] ['#'] pos, c :: r)
  | [] => (mkToken .unknown ['#'] ['#'] pos, [])

/-- A keyword or parameter after its sigil; a lone sigil is unknown. -/
def scanPrefixed (kind : TokenKind) (sigil : Char) (pos : Nat) (cs : List Char) :
    Token × List Char :=
  let name := (spanName cs).1
  if name.isEmpty then (mkToken .unknown [sigil] [sigil] pos, cs)
  else (mkToken kind name (sigil :: name) pos, (spanName cs).2)

def startsNumber (c : Char) (cs : List Char) : Bool :=
  c.isDigit || ((c == '-' || c == '+') && match cs with
    | d :: _ => d.isDigit
    | [] => false)

def scanToken (pos : Nat) (c : Char) (cs : List Char) : Token × List Char :=
  match c with
  | '(' => (mkToken .lparen [c] [c] pos, cs)
  | ')' => (mkToken .rparen [c] [c] pos, cs)
  | '[' => (mkToken .lbracket [c] [c] pos, cs)
  | ']' => (mkToken .rbracket [c] [c] pos, cs)
  | '{' => (mkToken .lbrace [c] [c] pos, cs)
  | '}' => (mkToken .rbrace [c] [c] pos, cs)
  | '"' =>
    let (body, closed, rest) := scanStringBody cs
    if closed then (mkToken .string body ('"' :: body ++ ['"']) pos, rest)
    else (mkToken .unterminatedString body ('"' :: body) pos, rest)
  | '#' => scanDispatch pos cs
  | ':' => scanPrefixed .keyword ':' pos cs
  | '$' => scanPrefixed .param '$' pos cs
  | _ =>
    -- a number or a name runs on over name characters; `c` is one in both cases
    if startsNumber c cs || isSymbolStart c then
      let text := c :: (spanName cs).1
      let kind := if startsNumber c cs then numberKind text else nameKind text
      (mkToken kind text text pos, (spanName cs).2)
    else (mkToken .unknown [c] [c] pos, cs)

theorem length_scanDispatch_le (pos : Nat) (cs : List Char) :
    (scanDispatch pos cs).2.length ≤ cs.length := by
  unfold scanDispatch
  split
  · simp
  · rename_i r
    have h := length_spanName_le r
    dsimp only
    split
    · rename_i heq; rw [heq] at h; simp only [List.length_cons] at h ⊢; omega
    · simp only [List.length_cons]; omega
  · simp
  · rename_i r _ _ _
    have h := length_spanName_le r
    split
    · simp only [List.length_cons]; omega
    · simp
  · simp

theorem length_scanPrefixed_le (kind : TokenKind) (sigil : Char) (pos : Nat) (cs : List Char) :
    (scanPrefixed kind sigil pos cs).2.length ≤ cs.length := by
  have := length_spanName_le cs
  unfold scanPrefixed
  dsimp only
  split <;> simp_all

theorem length_scanToken_le (pos : Nat) (c : Char) (cs : List Char) :
    (scanToken pos c cs).2.length ≤ cs.length := by
  unfold scanToken
  split
  any_goals simp
  · have := length_scanStringBody_le cs
    split <;> simp_all
  · exact length_scanDispatch_le pos cs
  · exact length_scanPrefixed_le _ _ pos cs
  · exact length_scanPrefixed_le _ _ pos cs
  · have := length_spanName_le cs
    split <;> simp_all

/-- Where the scanner stands: the unread characters, their byte offset in the input, and
whether the end token has been given. -/
structure Lexer where
  rest : List Char
  pos : Nat
  finished : Bool := false
deriving DecidableEq, Repr

namespace Lexer

def start (s : String) : Lexer := { rest := s.toList, pos := 0 }

def remaining (l : Lexer) : String := String.ofList l.rest

/-- The next token and the state after it, or `none` once the end token has been given.
Blanks and comments before the token are skipped; the end token stands where they end. -/
def step (l : Lexer) : Option (Token × Lexer) :=
  let rest := skipTrivia l.rest
  let pos := l.pos + triviaBytes l.rest
  match rest with
  | [] =>
    if l.finished then none
    else some (mkToken .eof [] [] pos, { rest := [], pos, finished := true })
  | c :: cs =>
    let (tok, rest') := scanToken pos c cs
    some (tok, { rest := rest', pos := tok.stop })

/-- What every step shrinks: twice the unread characters, plus one until the end token. -/
def measure (l : Lexer) : Nat := 2 * l.rest.length + if l.finished then 0 else 1

theorem measure_step {l l' : Lexer} {t : Token} (h : l.step = some (t, l')) :
    l'.measure < l.measure := by
  have hs := length_skipTrivia_le l.rest
  simp only [step] at h
  split at h
  · rename_i heq
    split at h
    · simp at h
    · simp only [Option.some.injEq, Prod.mk.injEq] at h
      obtain ⟨-, rfl⟩ := h
      simp_all [measure]
  · rename_i c cs heq
    simp only [Option.some.injEq, Prod.mk.injEq] at h
    obtain ⟨-, rfl⟩ := h
    have := length_scanToken_le (l.pos + triviaBytes l.rest) c cs
    rw [heq] at hs
    simp only [measure, List.length_cons] at *
    split <;> omega

/-- Every token from this state on, each with the state right after it. The last one is
the end token. -/
def tokensFrom (l : Lexer) : List (Token × Lexer) :=
  match _h : l.step with
  | none => []
  | some (t, l') => (t, l') :: tokensFrom l'
termination_by l.measure
decreasing_by exact measure_step _h

end Lexer

def tokenize (s : String) : List Token :=
  (Lexer.start s).tokensFrom.map Prod.fst

end Xtql.Edn
