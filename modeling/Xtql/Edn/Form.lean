import Xtql.Number.Binary64

/-!
EDN forms: the values the reader builds, each with the byte span of the text it came from.
-/

namespace Xtql.Edn

open Xtql.Number

/-- The byte range `[start, stop)` of a form in the input. -/
structure Span where
  start : Nat
  stop : Nat
deriving DecidableEq, Repr, Inhabited

/-- An EDN value with the span it was read from. -/
inductive Form where
  | list (items : List Form) (span : Span)
  | vector (items : List Form) (span : Span)
  | map (pairs : List (Form × Form)) (span : Span)
  | set (items : List Form) (span : Span)
  | nsMap (ns : String) (pairs : List (Form × Form)) (span : Span)
  | tagged (tag : String) (value : Form) (span : Span)
  | symbol (name : String) (span : Span)
  | keyword (name : String) (span : Span)
  | param (name : String) (span : Span)
  | str (value : String) (span : Span)
  | int (value : Int) (span : Span)
  | float (value : Binary64) (span : Span)
  | bool (value : Bool) (span : Span)
  | nil (span : Span)
deriving Repr, Inhabited

/-- The sort of a form, as messages name it. Both map forms are maps. -/
inductive FormSort where
  | list
  | vector
  | map
  | set
  | tagged
  | symbol
  | keyword
  | param
  | string
  | integer
  | float
  | boolean
  | nil
deriving DecidableEq, Repr

def FormSort.describe : FormSort → String
  | .list => "list"
  | .vector => "vector"
  | .map => "map"
  | .set => "set"
  | .tagged => "tagged literal"
  | .symbol => "symbol"
  | .keyword => "keyword"
  | .param => "parameter"
  | .string => "string"
  | .integer => "integer"
  | .float => "float"
  | .boolean => "boolean"
  | .nil => "nil"

namespace Form

def span : Form → Span
  | list _ s | vector _ s | map _ s | set _ s | nsMap _ _ s | tagged _ _ s
  | symbol _ s | keyword _ s | param _ s | str _ s | int _ s | float _ s | bool _ s | nil s => s

def sort : Form → FormSort
  | list .. => .list
  | vector .. => .vector
  | map .. | nsMap .. => .map
  | set .. => .set
  | tagged .. => .tagged
  | symbol .. => .symbol
  | keyword .. => .keyword
  | param .. => .param
  | str .. => .string
  | int .. => .integer
  | float .. => .float
  | bool .. => .boolean
  | nil .. => .nil

def describe (f : Form) : String := f.sort.describe

end Form

end Xtql.Edn
