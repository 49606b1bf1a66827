import Xtql.Query.Basic

/-!
The operator words of XTQL and the type names reader tags stand for.
-/

namespace Xtql

inductive QueryOp where
  | scan
  | pipeline
  | unify
  | rel
deriving DecidableEq, Repr

inductive TailOp where
  | filter
  | extend
  | drop
  | project
  | aggregate
  | orderBy
  | limit
  | offset
  | unnest
deriving DecidableEq, Repr

inductive ClauseOp where
  | scan
  | rel
  | filter
  | extend
  | join
  | leftJoin
  | unnest
deriving DecidableEq, Repr

inductive TemporalOp where
  | asOf
  | fromTime
  | toTime
  | between
deriving DecidableEq, Repr

def QueryOp.ofName? : String → Option QueryOp
  | "from" => some .scan
  | "->" => some .pipeline
  | "unify" => some .unify
  | "rel" => some .rel
  | _ => none

def TailOp.ofName? : String → Option TailOp
  | "where" => some .filter
  | "with" => some .extend
  | "without" => some .drop
  | "return" => some .project
  | "aggregate" => some .aggregate
  | "order-by" => some .orderBy
  | "limit" => some .limit
  | "offset" => some .offset
  | "unnest" => some .unnest
  | _ => none

def ClauseOp.ofName? : String → Option ClauseOp
  | "from" => some .scan
  | "rel" => some .rel
  | "where" => some .filter
  | "with" => some .extend
  | "join" => some .join
  | "left-join" => some .leftJoin
  | "unnest" => some .unnest
  | _ => none

def TemporalOp.ofName? : String → Option TemporalOp
  | "at" => some .asOf
  | "from" => some .fromTime
  | "to" => some .toTime
  | "in" => some .between
  | _ => none

def SubqueryOp.ofName? : String → Option SubqueryOp
  | "q" => some .scalar
  | "exists?" => some .existence
  | "pull" => some .pull
  | "pull*" => some .pullMany
  | _ => none

/-- The document key a subquery is written under. -/
def SubqueryOp.key : SubqueryOp → String
  | .scalar => "xt:q"
  | .existence => "xt:exists"
  | .pull => "xt:pull"
  | .pullMany => "xt:pullMany"

/-- The type name a reader tag stands for; other tags stand for themselves. -/
def resolveTag : String → String
  | "inst" => "xt:instant"
  | "time/instant" => "xt:instant"
  | "time/date" => "xt:date"
  | "time/date-time" => "xt:timestamp"
  | "time/duration" => "xt:duration"
  | "uuid" => "xt:uuid"
  | "xt/keyword" => "xt:keyword"
  | tag => tag

theorem resolveTag_of_not_mem (tag : String)
    (h : tag ∉ ["inst", "time/instant", "time/date", "time/date-time", "time/duration", "uuid",
      "xt/keyword"]) : resolveTag tag = tag := by
  simp only [List.mem_cons, List.not_mem_nil, or_false, not_or] at h
  obtain ⟨h1, h2, h3, h4, h5, h6, h7⟩ := h
  unfold resolveTag
  split <;> simp_all

end Xtql
