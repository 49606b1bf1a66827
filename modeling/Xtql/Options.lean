import Xtql.Json.Read
import Xtql.Number.Layout
import Xtql.Text.Quoted

/-!
Compile limits, read from JSON text or from a JSON value. Missing fields keep their defaults and
unknown fields are skipped.
-/

namespace Xtql

open Xtql.Number Xtql.Text

structure CompileOptions where
  maxInputBytes : Nat := 67108864
  maxDepth : Nat := 128
deriving DecidableEq, Repr

inductive Unexpected where
  | null
  | bool (b : Bool)
  | unsigned (n : Nat)
  | signed (n : Int)
  | float (x : Binary64)
  | str (s : String)
  | seq
  | map

def Unexpected.describe : Unexpected → String
  | .null => "null"
  | .bool b => "boolean `" ++ toString b ++ "`"
  | .unsigned n => "integer `" ++ toString n ++ "`"
  | .signed n => "integer `" ++ toString n ++ "`"
  | .float x => "floating point `" ++ Layout.document.write x ++ "`"
  | .str s => "string " ++ quotedText s
  | .seq => "sequence"
  | .map => "map"

def invalidType (u : Unexpected) (expected : String) : String :=
  "invalid type: " ++ u.describe ++ ", expected " ++ expected

def invalidValue (u : Unexpected) (expected : String) : String :=
  "invalid value: " ++ u.describe ++ ", expected " ++ expected

def ReadNumber.unexpected : ReadNumber → Unexpected
  | .unsigned n => .unsigned n
  | .negative n => .signed n
  | .float x => .float x

def Json.unexpected : Json → Unexpected
  | .null => .null
  | .bool b => .bool b
  | .num (.int n) => if n < 0 then .signed n else .unsigned n.toNat
  | .num (.float x) => .float x
  | .str s => .str s
  | .arr _ => .seq
  | .obj _ => .map

namespace CompileOptions

def countOfJson : Json → Except String Nat
  | .num (.int n) =>
    if n < 0 then .error (invalidValue (.signed n) "usize") else .ok n.toNat
  | j => .error (invalidType j.unexpected "usize")

def setField (o : CompileOptions) (k : String) (v : Json) : Except String CompileOptions :=
  if k = "max_input_bytes" then do
    let n ← countOfJson v
    pure { o with maxInputBytes := n }
  else if k = "max_depth" then do
    let n ← countOfJson v
    pure { o with maxDepth := n }
  else pure o

/-- The limits of a JSON value: an object of fields, taken in key order, or a list of at most
two counts in field order. -/
def ofJson : Json → Except String CompileOptions
  | .arr items => do
    let d : CompileOptions := {}
    let a ← match items[0]? with
      | some j => countOfJson j
      | none => pure d.maxInputBytes
    let b ← match items[1]? with
      | some j => countOfJson j
      | none => pure d.maxDepth
    if items.length > 2 then
      .error ("invalid length " ++ toString items.length ++ ", expected fewer elements in array")
    else pure { maxInputBytes := a, maxDepth := b }
  | .obj fields => fields.foldlM (fun o kv => o.setField kv.1 kv.2) {}
  | j => .error (invalidType j.unexpected "struct CompileOptions")

end CompileOptions

namespace JsonReader

/-- Refuses the value that comes next, after reading it, as not of the `expected` kind. -/
def rejectValue {α : Type} (expected : String) : JsonReader α := do
  let refuse (u : Unexpected) : JsonReader α := fail (.data (invalidType u expected))
  match ← peek? with
  | some 'n' => do bump; expectWord ['u', 'l', 'l']; refuse .null
  | some 't' => do bump; expectWord ['r', 'u', 'e']; refuse (.bool true)
  | some 'f' => do bump; expectWord ['a', 'l', 's', 'e']; refuse (.bool false)
  | some '-' => do bump; refuse (← readNumber false).unexpected
  | some '"' => do bump; refuse (.str (← readString))
  | some '[' => refuse .seq
  | some '{' => refuse .map
  | some c =>
    if c.isDigit then do refuse (← readNumber true).unexpected
    else failAhead .expectedValue
  | none => failAhead .expectedValue

/-- A size or count: an integer from 0 below `2^64`. -/
def readCount : JsonReader Nat := do
  match ← peekToken? with
  | none => failAhead .eofInValue
  | some c =>
    if c = '-' ∨ c.isDigit then do
      let positive : Bool := c != '-'
      if !positive then bump
      match ← readNumber positive with
      | .unsigned n => pure n
      | .negative n => fail (.data (invalidValue (.signed n) "usize"))
      | .float x => fail (.data (invalidType (.float x) "usize"))
    else rejectValue "usize"

def endList : JsonReader Unit := do
  match ← peekToken? with
  | some ']' => bump
  | some ',' => do
    bump
    match ← peekToken? with
    | some ']' => failAhead .trailingComma
    | _ => failAhead .trailingCharacters
  | some _ => failAhead .trailingCharacters
  | none => failAhead .eofInList

/-- Refuses a field given twice; the reader first moves over blanks and a closing brace. -/
def duplicateField {α : Type} (name : String) : JsonReader α := do
  if (← peekToken?) = some '}' then bump
  fail (.data ("duplicate field `" ++ name ++ "`"))

/-- The fields of an object of limits up to its `}`, each field at most once. -/
def readOptionFields : Nat → Bool → Option Nat → Option Nat → JsonReader CompileOptions
  | 0, _, _, _ => fail .recursionLimit
  | fuel + 1, first, bytes, depth => do
    if ← nextKey first then
      let k ← readString
      if k = "max_input_bytes" then
        if bytes.isSome then duplicateField k
        else do
          expectColon
          let n ← readCount
          readOptionFields fuel false (some n) depth
      else if k = "max_depth" then
        if depth.isSome then duplicateField k
        else do
          expectColon
          let n ← readCount
          readOptionFields fuel false bytes (some n)
      else do
        expectColon
        skipValue (fuelFor (← get))
        readOptionFields fuel false bytes depth
    else do
      bump
      let d : CompileOptions := {}
      pure { maxInputBytes := bytes.getD d.maxInputBytes, maxDepth := depth.getD d.maxDepth }

/-- Limits as an object, or as a list of at most two counts in field order. -/
def readOptions : JsonReader CompileOptions := do
  match ← peekToken? with
  | none => failAhead .eofInValue
  | some '[' => do
    bump
    let d : CompileOptions := {}
    let a ← if ← nextElement true then some <$> readCount else pure none
    let b ← match a with
      | some _ => do if ← nextElement false then some <$> readCount else pure none
      | none => pure none
    endList
    pure { maxInputBytes := a.getD d.maxInputBytes, maxDepth := b.getD d.maxDepth }
  | some '{' => do
    bump
    readOptionFields (fuelFor (← get)) true none none
  | some _ => rejectValue "struct CompileOptions"

end JsonReader

def CompileOptions.ofText (s : String) : Except JsonError CompileOptions :=
  (do
    let o ← JsonReader.readOptions
    JsonReader.expectEnd
    pure o : JsonReader CompileOptions).run' (JsonCursor.start s)

end Xtql
