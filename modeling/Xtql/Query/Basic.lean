import Xtql.Number.Binary64

/-!
XTQL queries: `from`, `->` pipelines, `unify` and `rel`, and their expressions.
-/

namespace Xtql

open Xtql.Number

inductive Direction where
  | asc
  | desc
deriving DecidableEq, Repr

inductive NullOrder where
  | first
  | last
deriving DecidableEq, Repr

/-- The forms that embed a whole query in an expression: a scalar value, a test for rows, and
the pulls of one or many rows. -/
inductive SubqueryOp where
  | scalar
  | existence
  | pull
  | pullMany
deriving DecidableEq, Repr

def Direction.name : Direction → String
  | .asc => "asc"
  | .desc => "desc"

def NullOrder.name : NullOrder → String
  | .first => "first"
  | .last => "last"

mutual

inductive Query where
  | scan (s : Scan)
  | pipeline (head : Query) (tails : List Tail)
  | unify (clauses : List Clause)
  | rel (r : Rel)

/-- A table scan: the table, its column bindings and the optional valid-time and system-time
filters. -/
inductive Scan where
  | mk (table : String) (bind : List Binding) (validTime systemTime : Option TemporalFilter)

inductive Rel where
  | mk (rows : Expr) (bind : List Binding)

inductive TemporalFilter where
  | asOf (t : Expr)
  | fromTime (t : Expr)
  | toTime (t : Expr)
  | between (start stop : Expr)
  | allTime

/-- A stage of a pipeline. -/
inductive Tail where
  | filter (conds : List Expr)
  | extend (items : List Binding)
  | drop (columns : List String)
  | project (items : List Binding)
  | aggregate (items : List Binding)
  | orderBy (specs : List OrderSpec)
  | limit (n : Nat)
  | offset (n : Nat)
  | unnest (b : Binding)

inductive Clause where
  | scan (s : Scan)
  | rel (r : Rel)
  | filter (conds : List Expr)
  | extend (items : List Binding)
  | join (j : Join)
  | leftJoin (j : Join)
  | unnest (b : Binding)

inductive Join where
  | mk (query : Query) (bind : List Binding) (args : Option (List Binding))

/-- One ordering key: the value, and the direction and null placement when given. -/
inductive OrderSpec where
  | mk (val : Expr) (dir : Option Direction) (nulls : Option NullOrder)

inductive Binding where
  | mk (column : String) (expr : Expr)

inductive Expr where
  | var (name : String)
  | param (name : String)
  | keyword (name : String)
  | str (s : String)
  | int (n : Int)
  | float (x : Binary64)
  | bool (b : Bool)
  | nil
  | vector (items : List Expr)
  | map (entries : List (String × Expr))
  | set (items : List Expr)
  | tagged (tag : String) (value : Expr)
  | call (function : String) (args : List Expr)
  | subquery (op : SubqueryOp) (query : Query) (args : Option (List Binding))

end

def Binding.var (name : String) : Binding := .mk name (.var name)

def Query.operator : Query → String
  | .scan _ => "from"
  | .pipeline .. => "->"
  | .unify _ => "unify"
  | .rel _ => "rel"

/-- The ordering keys of every `order-by` tail of a pipeline, in order. -/
def Query.orderSpecs : Query → List OrderSpec
  | .pipeline _ tails => tails.flatMap fun
    | .orderBy specs => specs
    | _ => []
  | _ => []

end Xtql
