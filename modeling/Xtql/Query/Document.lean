import Xtql.Query.Operators
import Xtql.Json.Value

/-!
The JSON document of a query. Object fields are sorted by key.
-/

namespace Xtql

/-- The field `k` when a value is present. -/
def optionalField {α : Type} (k : String) (f : α → Json) : Option α → List (String × Json)
  | some a => [(k, f a)]
  | none => []

mutual

def Query.toJson : Query → Json
  | .scan s => Scan.toJson s
  | .pipeline head tails => .arr (Query.toJson head :: Tail.listToJson tails)
  | .unify clauses => Json.object [("unify", .arr (Clause.listToJson clauses))]
  | .rel r => Rel.toJson r

def Scan.toJson : Scan → Json
  | .mk table bind validTime systemTime =>
    Json.object ([("from", .str table), ("bind", .arr (Binding.items bind))] ++
      TemporalFilter.fieldOf "forValidTime" validTime ++
      TemporalFilter.fieldOf "forSystemTime" systemTime)

def Rel.toJson : Rel → Json
  | .mk rows bind =>
    Json.object [("rel", Expr.toJson rows), ("bind", .arr (Binding.items bind))]

/-- The field `k` of a scan when a temporal filter is given. -/
def TemporalFilter.fieldOf (k : String) : Option TemporalFilter → List (String × Json)
  | some tf => [(k, TemporalFilter.toJson tf)]
  | none => []

def TemporalFilter.toJson : TemporalFilter → Json
  | .asOf t => Json.object [("at", Expr.toJson t)]
  | .fromTime t => Json.object [("from", Expr.toJson t)]
  | .toTime t => Json.object [("to", Expr.toJson t)]
  | .between a b => Json.object [("in", .arr [Expr.toJson a, Expr.toJson b])]
  | .allTime => .str "allTime"

def Tail.listToJson : List Tail → List Json
  | [] => []
  | t :: ts => Tail.toJson t :: Tail.listToJson ts

def Tail.toJson : Tail → Json
  | .filter conds => Json.object [("where", .arr (Expr.listToJson conds))]
  | .extend items => Json.object [("with", .arr (Binding.items items))]
  | .drop columns => Json.object [("without", .arr (columns.map Json.str))]
  | .project items => Json.object [("return", .arr (Binding.items items))]
  | .aggregate items => Json.object [("aggregate", .arr (Binding.items items))]
  | .orderBy specs => Json.object [("orderBy", .arr (OrderSpec.listToJson specs))]
  | .limit n => Json.object [("limit", .num (.int n))]
  | .offset n => Json.object [("offset", .num (.int n))]
  | .unnest b => Json.object [("unnest", Binding.toJson b)]

def Clause.listToJson : List Clause → List Json
  | [] => []
  | c :: cs => Clause.toJson c :: Clause.listToJson cs

def Clause.toJson : Clause → Json
  | .scan s => Scan.toJson s
  | .rel r => Rel.toJson r
  | .filter conds => Json.object [("where", .arr (Expr.listToJson conds))]
  | .extend items => Json.object [("with", .arr (Binding.items items))]
  | .join j => Join.toJson "join" j
  | .leftJoin j => Join.toJson "leftJoin" j
  | .unnest b => Json.object [("unnest", Binding.toJson b)]

/-- The document of a join, its query under `key`. -/
def Join.toJson (key : String) : Join → Json
  | .mk query bind args =>
    Json.object ([(key, Query.toJson query), ("bind", .arr (Binding.items bind))] ++
      Binding.argsField args)

def Binding.argsField : Option (List Binding) → List (String × Json)
  | some bs => [("args", .arr (Binding.items bs))]
  | none => []

def OrderSpec.listToJson : List OrderSpec → List Json
  | [] => []
  | s :: ss => OrderSpec.toJson s :: OrderSpec.listToJson ss

def OrderSpec.toJson : OrderSpec → Json
  | .mk val dir nulls =>
    Json.object ([("val", Expr.toJson val)] ++
      optionalField "dir" (fun d => .str (Direction.name d)) dir ++
      optionalField "nulls" (fun n => .str (NullOrder.name n)) nulls)

def Binding.items : List Binding → List Json
  | [] => []
  | b :: bs => Binding.toJson b :: Binding.items bs

def Binding.toJson : Binding → Json
  | .mk column expr => Json.object [(column, Expr.toJson expr)]

def Expr.listToJson : List Expr → List Json
  | [] => []
  | e :: es => Expr.toJson e :: Expr.listToJson es

def Expr.entriesToJson : List (String × Expr) → List (String × Json)
  | [] => []
  | (k, e) :: rest => (k, Expr.toJson e) :: Expr.entriesToJson rest

def Expr.toJson : Expr → Json
  | .var name => Json.object [("xt:lvar", .str name)]
  | .param name => Json.object [("xt:param", .str ("$" ++ name))]
  | .keyword name => .str name
  | .str s => .str s
  | .int n => .num (.int n)
  -- a non-finite float has no JSON number
  | .float x => if x.isFinite then .num (.float x) else .null
  | .bool b => .bool b
  | .nil => .null
  | .vector items => .arr (Expr.listToJson items)
  | .map entries => Json.object (Expr.entriesToJson entries)
  | .set items => Json.object [("@type", .str "xt:set"), ("@value", .arr (Expr.listToJson items))]
  | .tagged tag value => Json.object [("@type", .str (resolveTag tag)), ("@value", Expr.toJson value)]
  | .call function args =>
    Json.object [("xt:call", .str function), ("args", .arr (Expr.listToJson args))]
  | .subquery op query args =>
    Json.object ([(op.key, Query.toJson query)] ++ Binding.argsField args)

end

end Xtql
