import Xtql.Unicode.GraphemeExtend
import Xtql.Unicode.Printable

/-!
Text between double quotes as diagnostics show it.
-/

namespace Xtql.Text

open Xtql.Unicode

def hexLower (n : Nat) : String := String.ofList (Nat.toDigits 16 n)

/-- The Hangul fillers U+115F, U+1160, U+3164 and U+FFA0: letters that show nothing. -/
def isHangulFiller (c : Char) : Bool :=
  c.toNat = 0x115F || c.toNat = 0x1160 || c.toNat = 0x3164 || c.toNat = 0xFFA0

/-- The halfwidth katakana voiced and semi-voiced sound marks U+FF9E and U+FF9F: letters that
extend a grapheme. -/
def isHalfwidthSoundMark (c : Char) : Bool :=
  c.toNat = 0xFF9E || c.toNat = 0xFF9F

/-- Whether a character is written as a code point between double quotes. -/
def hiddenInQuotes (c : Char) : Bool :=
  (isGraphemeExtend c && !isHalfwidthSoundMark c) || !isPrintable c || isHangulFiller c

def quotedChar (c : Char) : String :=
  match c with
  | '\x00' => "\\0"
  | '\t' => "\\t"
  | '\r' => "\\r"
  | '\n' => "\\n"
  | '\\' => "\\\\"
  | '"' => "\\\""
  | _ =>
    if hiddenInQuotes c then "\\u\x7b" ++ hexLower c.toNat ++ "\x7d"
    else String.singleton c

def quotedBody (cs : List Char) : String :=
  String.join (cs.map quotedChar)

def quotedText (s : String) : String :=
  "\"" ++ quotedBody s.toList ++ "\""

theorem quotedBody_append (xs ys : List Char) :
    quotedBody (xs ++ ys) = quotedBody xs ++ quotedBody ys := by
  simp [quotedBody, List.map_append, String.join_append]

end Xtql.Text
