import Xtql.ParseError
import Xtql.Text.Utf8
import Xtql.Text.Hex

/-!
Escapes in string literals: the one-letter escapes and `\u` with four hex digits, a surrogate
pair standing for one character. Decoding fails at the backslash of the first bad escape.
-/

namespace Xtql.Edn

open Xtql.Text

def simpleEscape : Char → Option Char
  | '"' => some '"'
  | '\\' => some '\\'
  | '/' => some '/'
  | 'n' => some '\n'
  | 't' => some '\t'
  | 'r' => some '\r'
  | 'b' => some (Char.ofNat 8)
  | 'f' => some (Char.ofNat 12)
  | _ => none

def isHighSurrogate (n : Nat) : Bool := 0xD800 ≤ n && n ≤ 0xDBFF

def isLowSurrogate (n : Nat) : Bool := 0xDC00 ≤ n && n ≤ 0xDFFF

/-- The low half of a surrogate pair: `\u` and four hex digits in `DC00..DFFF`. -/
def lowHalf : List Char → Option (Nat × List Char)
  | '\\' :: 'u' :: r =>
    match hex4Value (r.take 4) with
    | some low => if isLowSurrogate low then some (low, r.drop 4) else none
    | none => none
  | _ => none

theorem lowHalf_length {cs r : List Char} {low : Nat} (h : lowHalf cs = some (low, r)) :
    r.length < cs.length := by
  unfold lowHalf at h
  split at h
  · rename_i r'
    split at h
    · split at h
      · simp only [Option.some.injEq, Prod.mk.injEq] at h
        obtain ⟨-, rfl⟩ := h
        simp only [List.length_drop, List.length_cons]; omega
      · simp at h
    · simp at h
  · simp at h

/-- Decodes the escapes of raw string text whose first character is at byte `offset`. -/
def unescapeFrom (offset : Nat) : List Char → Except (Nat × EscapeProblem) (List Char)
  | [] => .ok []
  | '\\' :: rest =>
    match rest with
    | [] => .error (offset, .dangling)
    | 'u' :: r =>
      match hex4Value (r.take 4) with
      | none => .error (offset, .badUnicode (r.take 4))
      | some high =>
        if isHighSurrogate high then
          match h : lowHalf (r.drop 4) with
          | some (low, r') =>
            let code := 0x10000 + (high - 0xD800) * 1024 + (low - 0xDC00)
            (Char.ofNat code :: ·) <$> unescapeFrom (offset + 12) r'
          | none => .error (offset, .unpairedSurrogate high)
        else if isLowSurrogate high then .error (offset, .unpairedSurrogate high)
        else (Char.ofNat high :: ·) <$> unescapeFrom (offset + 6) (r.drop 4)
    | c :: r =>
      match simpleEscape c with
      | some d => (d :: ·) <$> unescapeFrom (offset + 1 + c.utf8Size) r
      | none => .error (offset, .badEscape c)
  | c :: rest => (c :: ·) <$> unescapeFrom (offset + c.utf8Size) rest
termination_by cs => cs.length
decreasing_by
  · have := lowHalf_length h
    simp only [List.length_drop, List.length_cons] at *; omega
  · simp only [List.length_drop, List.length_cons]; omega
  · simp only [List.length_cons]; omega
  · simp only [List.length_cons]; omega

def unescape (raw : String) : Except (Nat × EscapeProblem) String :=
  String.ofList <$> unescapeFrom 0 raw.toList

end Xtql.Edn
