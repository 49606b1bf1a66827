import Xtql.Edn.Reader
import Xtql.Number.Shortest

/-!
The canonical printer of EDN forms, its token view, and the forms whose printed text reads
back (`Form.printable`).
-/

namespace Xtql.Edn

open Xtql.Number

/-- The body of a string literal: `"` and `\` take a backslash, all else stands as it is. -/
def escapeBody : List Char → List Char
  | [] => []
  | c :: cs => if c = '"' ∨ c = '\\' then '\\' :: c :: escapeBody cs else c :: escapeBody cs

def floatSpelling (x : Binary64) : List Char :=
  (if x.negative then ['-'] else []) ++ Nat.toDigits 10 x.exactDecimal.digits ++
    'e' :: (toString x.exactDecimal.exp).toList

mutual

/-- The text the printer writes for a form. -/
def Form.printed : Form → List Char
  | .list items _ => '(' :: Form.spaced items ++ [')']
  | .vector items _ => '[' :: Form.spaced items ++ [']']
  | .map pairs _ => '{' :: Form.spacedPairs pairs ++ ['}']
  | .set items _ => '#' :: '{' :: Form.spaced items ++ ['}']
  | .nsMap ns pairs _ => '#' :: ':' :: ns.toList ++ '{' :: Form.spacedPairs pairs ++ ['}']
  | .tagged tag v _ => '#' :: tag.toList ++ ' ' :: v.printed
  | .symbol n _ => n.toList
  | .keyword n _ => ':' :: n.toList
  | .param n _ => '$' :: n.toList
  | .str s _ => '"' :: escapeBody s.toList ++ ['"']
  | .int n _ => (toString n).toList
  | .float x _ => floatSpelling x
  | .bool b _ => (toString b).toList
  | .nil _ => "nil".toList

def Form.spaced : List Form → List Char
  | [] => []
  | [f] => f.printed
  | f :: g :: fs => f.printed ++ ' ' :: Form.spaced (g :: fs)

def Form.spacedPairs : List (Form × Form) → List Char
  | [] => []
  | [(k, v)] => k.printed ++ ' ' :: v.printed
  | (k, v) :: p :: ps => k.printed ++ ' ' :: v.printed ++ ' ' :: Form.spacedPairs (p :: ps)

end

def Form.print (f : Form) : String := String.ofList f.printed

def Token.shape (t : Token) : TokenKind × String := (t.kind, t.text)

mutual

/-- The kinds and texts of the tokens of a printed form. -/
def Form.shapes : Form → List (TokenKind × String)
  | .list items _ => (.lparen, "(") :: Form.listShapes items ++ [(.rparen, ")")]
  | .vector items _ => (.lbracket, "[") :: Form.listShapes items ++ [(.rbracket, "]")]
  | .map pairs _ => (.lbrace, "\x7b") :: Form.pairShapes pairs ++ [(.rbrace, "\x7d")]
  | .set items _ => (.setOpen, "#\x7b") :: Form.listShapes items ++ [(.rbrace, "\x7d")]
  | .nsMap ns pairs _ => (.nsMapOpen, ns) :: Form.pairShapes pairs ++ [(.rbrace, "\x7d")]
  | .tagged tag v _ => (.tag, tag) :: v.shapes
  | .symbol n _ => [(.symbol, n)]
  | .keyword n _ => [(.keyword, n)]
  | .param n _ => [(.param, n)]
  | .str s _ => [(.string, String.ofList (escapeBody s.toList))]
  | .int n _ => [(.integer, toString n)]
  | .float x _ => [(.float, String.ofList (floatSpelling x))]
  | .bool b _ => [(if b then .trueLit else .falseLit, toString b)]
  | .nil _ => [(.nilLit, "nil")]

def Form.listShapes : List Form → List (TokenKind × String)
  | [] => []
  | f :: fs => f.shapes ++ Form.listShapes fs

def Form.pairShapes : List (Form × Form) → List (TokenKind × String)
  | [] => []
  | (k, v) :: ps => k.shapes ++ v.shapes ++ Form.pairShapes ps

end

mutual

/-- How deep collections and tagged literals nest in a form. -/
def Form.depth : Form → Nat
  | .list items _ | .vector items _ | .set items _ => Form.listDepth items + 1
  | .map pairs _ | .nsMap _ pairs _ => Form.pairDepth pairs + 1
  | .tagged _ v _ => v.depth + 1
  | _ => 0

def Form.listDepth : List Form → Nat
  | [] => 0
  | f :: fs => max f.depth (Form.listDepth fs)

def Form.pairDepth : List (Form × Form) → Nat
  | [] => 0
  | (k, v) :: ps => max (max k.depth v.depth) (Form.pairDepth ps)

end

def isNameText (n : String) : Bool := !n.isEmpty && n.toList.all isSymbolChar

def signThenDigit : List Char → Bool
  | c :: d :: _ => (c == '-' || c == '+') && d.isDigit
  | _ => false

/-- A symbol name: symbol characters opening with a symbol start, no literal and no signed
number. -/
def isSymbolName (n : String) : Bool :=
  match n.toList with
  | [] => false
  | c :: cs =>
    isSymbolStart c && cs.all isSymbolChar && !(n == "true" || n == "false" || n == "nil") &&
      !signThenDigit (c :: cs)

/-- A tag name: symbol characters opening with a symbol start other than `_`. -/
def isTagName (t : String) : Bool :=
  match t.toList with
  | [] => false
  | c :: cs => isSymbolStart c && c != '_' && cs.all isSymbolChar

mutual

/-- Whether the printed text of a form reads back as the form. -/
def Form.printable : Form → Bool
  | .list items _ | .vector items _ | .set items _ => Form.allPrintable items
  | .map pairs _ => Form.pairsPrintable pairs
  | .nsMap ns pairs _ => isNameText ns && Form.pairsPrintable pairs
  | .tagged tag v _ => isTagName tag && v.printable
  | .symbol n _ => isSymbolName n
  | .keyword n _ | .param n _ => isNameText n
  | .int n _ => fitsInt64 n
  | .float x _ => x.isFinite
  | .str .. | .bool .. | .nil _ => true

def Form.allPrintable : List Form → Bool
  | [] => true
  | f :: fs => f.printable && Form.allPrintable fs

def Form.pairsPrintable : List (Form × Form) → Bool
  | [] => true
  | (k, v) :: ps => k.printable && v.printable && Form.pairsPrintable ps

end

mutual

/-- The form with every span set to zero. -/
def Form.bare : Form → Form
  | .list items _ => .list (Form.bareAll items) ⟨0, 0⟩
  | .vector items _ => .vector (Form.bareAll items) ⟨0, 0⟩
  | .map pairs _ => .map (Form.barePairs pairs) ⟨0, 0⟩
  | .set items _ => .set (Form.bareAll items) ⟨0, 0⟩
  | .nsMap ns pairs _ => .nsMap ns (Form.barePairs pairs) ⟨0, 0⟩
  | .tagged tag v _ => .tagged tag v.bare ⟨0, 0⟩
  | .symbol n _ => .symbol n ⟨0, 0⟩
  | .keyword n _ => .keyword n ⟨0, 0⟩
  | .param n _ => .param n ⟨0, 0⟩
  | .str s _ => .str s ⟨0, 0⟩
  | .int n _ => .int n ⟨0, 0⟩
  | .float x _ => .float x ⟨0, 0⟩
  | .bool b _ => .bool b ⟨0, 0⟩
  | .nil _ => .nil ⟨0, 0⟩

def Form.bareAll : List Form → List Form
  | [] => []
  | f :: fs => f.bare :: Form.bareAll fs

def Form.barePairs : List (Form × Form) → List (Form × Form)
  | [] => []
  | (k, v) :: ps => (k.bare, v.bare) :: Form.barePairs ps

end

def flatPairs : List (Form × Form) → List Form
  | [] => []
  | (k, v) :: ps => k :: v :: flatPairs ps

theorem spacedPairs_eq (ps : List (Form × Form)) :
    Form.spacedPairs ps = Form.spaced (flatPairs ps) := by
  induction ps with
  | nil => rfl
  | cons p ps ih =>
    obtain ⟨k, v⟩ := p
    cases ps with
    | nil => simp [Form.spacedPairs, flatPairs, Form.spaced]
    | cons q qs => simp [Form.spacedPairs, flatPairs, Form.spaced, ih]

theorem sizeOf_flatPairs (ps : List (Form × Form)) : sizeOf (flatPairs ps) = sizeOf ps := by
  induction ps with
  | nil => rfl
  | cons p ps ih => obtain ⟨k, v⟩ := p; simp only [flatPairs, List.cons.sizeOf_spec,
      Prod.mk.sizeOf_spec, ih]; omega

theorem pairShapes_eq (ps : List (Form × Form)) :
    Form.pairShapes ps = Form.listShapes (flatPairs ps) := by
  induction ps with
  | nil => rfl
  | cons p ps ih => obtain ⟨k, v⟩ := p; simp [Form.pairShapes, flatPairs, Form.listShapes, ih]

theorem pairDepth_eq (ps : List (Form × Form)) :
    Form.pairDepth ps = Form.listDepth (flatPairs ps) := by
  induction ps with
  | nil => rfl
  | cons p ps ih =>
    obtain ⟨k, v⟩ := p; simp [Form.pairDepth, flatPairs, Form.listDepth, ih, Nat.max_assoc]

theorem pairsPrintable_eq (ps : List (Form × Form)) :
    Form.pairsPrintable ps = Form.allPrintable (flatPairs ps) := by
  induction ps with
  | nil => rfl
  | cons p ps ih =>
    obtain ⟨k, v⟩ := p
    simp [Form.pairsPrintable, flatPairs, Form.allPrintable, ih, Bool.and_assoc]

theorem flatPairs_of_pairUp {items : List Form} {ps : List (Form × Form)}
    (h : pairUp items = some ps) : flatPairs ps = items := by
  induction items using pairUp.induct generalizing ps with
  | case1 => cases h; rfl
  | case2 k v rest ih =>
    rw [pairUp] at h
    cases hp : pairUp rest with
    | none => simp [hp] at h
    | some qs =>
      simp only [hp, Option.map_eq_map, Option.map_some, Option.some.injEq] at h
      subst h
      rw [flatPairs, ih hp]
  | case3 => cases h

theorem pairUp_of_bareAll {gs : List Form} {ps : List (Form × Form)}
    (h : Form.bareAll gs = Form.bareAll (flatPairs ps)) :
    ∃ qs, pairUp gs = some qs ∧ Form.barePairs qs = Form.barePairs ps := by
  induction ps generalizing gs with
  | nil =>
    cases gs with
    | nil => exact ⟨[], rfl, rfl⟩
    | cons g gs => simp [flatPairs, Form.bareAll] at h
  | cons p ps ih =>
    obtain ⟨k, v⟩ := p
    rcases gs with _ | ⟨a, _ | ⟨b, gs⟩⟩
    · simp [flatPairs, Form.bareAll] at h
    · simp [flatPairs, Form.bareAll] at h
    · simp only [flatPairs, Form.bareAll, List.cons.injEq] at h
      obtain ⟨qs, hq, hb⟩ := ih h.2.2
      exact ⟨(a, b) :: qs, by simp [pairUp, hq], by simp [Form.barePairs, hb, h.1, h.2.1]⟩

end Xtql.Edn
