import Xtql.Proofs.Edn.Print
import Xtql.Query.Parse

/-!
Queries written back as forms in the canonical syntax, and the queries the parser gives back
(`Query.wellFormed`).
-/

namespace Xtql

open Xtql.Edn

def opForm (name : String) (args : List Form) : Form :=
  .list (.symbol name ⟨0, 0⟩ :: args) ⟨0, 0⟩

def kwForm (name : String) : Form := .keyword name ⟨0, 0⟩

def optionsForm (entries : List (String × Form)) : Form :=
  .map (entries.map fun (k, v) => (kwForm k, v)) ⟨0, 0⟩

def SubqueryOp.name : SubqueryOp → String
  | .scalar => "q"
  | .existence => "exists?"
  | .pull => "pull"
  | .pullMany => "pull*"

mutual

def Query.toForm : Query → Form
  | .scan s => opForm "from" s.args
  | .pipeline head tails => opForm "->" (head.toForm :: Tail.formsOf tails)
  | .unify clauses => opForm "unify" (Clause.formsOf clauses)
  | .rel r => opForm "rel" r.args

/-- The arguments of `from`: the table, then `[b..]`, or `{:bind [b..] ..}` with the filters
given. -/
def Scan.args : Scan → List Form
  | .mk table bind vt st =>
    [kwForm table, match vt, st with
      | none, none => .vector (Binding.formsOf bind) ⟨0, 0⟩
      | _, _ => optionsForm (("bind", .vector (Binding.formsOf bind) ⟨0, 0⟩) ::
          (TemporalFilter.entry "for-valid-time" vt ++ TemporalFilter.entry "for-system-time" st))]

def Rel.args : Rel → List Form
  | .mk rows bind => [rows.toForm, .vector (Binding.formsOf bind) ⟨0, 0⟩]

def TemporalFilter.entry (key : String) : Option TemporalFilter → List (String × Form)
  | some tf => [(key, tf.toForm)]
  | none => []

/-- `(at t)`, `(from t)`, `(to t)`, `(in t t)` or `:all-time`. -/
def TemporalFilter.toForm : TemporalFilter → Form
  | .asOf t => opForm "at" [t.toForm]
  | .fromTime t => opForm "from" [t.toForm]
  | .toTime t => opForm "to" [t.toForm]
  | .between a b => opForm "in" [a.toForm, b.toForm]
  | .allTime => kwForm "all-time"

def Tail.toForm : Tail → Form
  | .filter conds => opForm "where" (Expr.formsOf conds)
  | .extend items => opForm "with" (Binding.itemsOf items)
  | .drop columns => opForm "without" (columns.map kwForm)
  | .project items => opForm "return" (Binding.itemsOf items)
  | .aggregate items => opForm "aggregate" (Binding.itemsOf items)
  | .orderBy specs => opForm "order-by" (OrderSpec.formsOf specs)
  | .limit n => opForm "limit" [.int n ⟨0, 0⟩]
  | .offset n => opForm "offset" [.int n ⟨0, 0⟩]
  | .unnest b => opForm "unnest" [b.toForm]

def Tail.formsOf : List Tail → List Form
  | [] => []
  | t :: ts => t.toForm :: Tail.formsOf ts

def Clause.toForm : Clause → Form
  | .scan s => opForm "from" s.args
  | .rel r => opForm "rel" r.args
  | .filter conds => opForm "where" (Expr.formsOf conds)
  | .extend items => opForm "with" (Binding.itemsOf items)
  | .join j => opForm "join" j.args
  | .leftJoin j => opForm "left-join" j.args
  | .unnest b => opForm "unnest" [b.toForm]

def Clause.formsOf : List Clause → List Form
  | [] => []
  | c :: cs => c.toForm :: Clause.formsOf cs

/-- The arguments of a join: the query, then `[b..]`, or `{:bind [b..] :args [a..]}` with
arguments. -/
def Join.args : Join → List Form
  | .mk q bind args =>
    [q.toForm, match args with
      | none => .vector (Binding.formsOf bind) ⟨0, 0⟩
      | some _ => optionsForm
          (("bind", .vector (Binding.formsOf bind) ⟨0, 0⟩) :: Binding.argsEntry args)]

/-- `{:val e :dir d :nulls n}`, the absent options left out. -/
def OrderSpec.toForm : OrderSpec → Form
  | .mk val dir nulls =>
    optionsForm ([("val", val.toForm)] ++ (dir.map fun d => ("dir", kwForm d.name)).toList ++
      (nulls.map fun n => ("nulls", kwForm n.name)).toList)

def OrderSpec.formsOf : List OrderSpec → List Form
  | [] => []
  | s :: ss => s.toForm :: OrderSpec.formsOf ss

def Binding.toForm : Binding → Form
  | .mk column e => .map [(.str column ⟨0, 0⟩, e.toForm)] ⟨0, 0⟩

def Binding.formsOf : List Binding → List Form
  | [] => []
  | b :: bs => b.toForm :: Binding.formsOf bs

def Binding.argsEntry : Option (List Binding) → List (String × Form)
  | some args => [("args", .vector (Binding.formsOf args) ⟨0, 0⟩)]
  | none => []

/-- The items of `with`, `return` or `aggregate`: the bindings, or `{}` for none. -/
def Binding.itemsOf : List Binding → List Form
  | [] => [.map [] ⟨0, 0⟩]
  | b :: bs => b.toForm :: Binding.formsOf bs

def Expr.toForm : Expr → Form
  | .var n => .symbol n ⟨0, 0⟩
  | .param n => .param n ⟨0, 0⟩
  | .keyword n => .keyword n ⟨0, 0⟩
  | .str s => .str s ⟨0, 0⟩
  | .int n => .int n ⟨0, 0⟩
  | .float x => .float x ⟨0, 0⟩
  | .bool b => .bool b ⟨0, 0⟩
  | .nil => .nil ⟨0, 0⟩
  | .vector items => .vector (Expr.formsOf items) ⟨0, 0⟩
  | .map entries => .map (Expr.entriesOf entries) ⟨0, 0⟩
  | .set items => .set (Expr.formsOf items) ⟨0, 0⟩
  | .tagged tag v => .tagged tag v.toForm ⟨0, 0⟩
  | .call f args => opForm f (Expr.formsOf args)
  | .subquery op q args =>
    match args with
    | none => opForm op.name [q.toForm]
    | some _ => opForm op.name [q.toForm, optionsForm (Binding.argsEntry args)]

def Expr.formsOf : List Expr → List Form
  | [] => []
  | e :: es => e.toForm :: Expr.formsOf es

def Expr.entriesOf : List (String × Expr) → List (Form × Form)
  | [] => []
  | (k, e) :: rest => (.str k ⟨0, 0⟩, e.toForm) :: Expr.entriesOf rest

end

mutual

/-- Whether the parser gives a query back from its form. -/
def Query.wellFormed : Query → Bool
  | .scan s => s.wellFormed
  | .pipeline head tails => head.wellFormed && Tail.allWellFormed tails
  | .unify clauses => !clauses.isEmpty && Clause.allWellFormed clauses
  | .rel r => r.wellFormed

def Scan.wellFormed : Scan → Bool
  | .mk _ bind vt st =>
    Binding.allWellFormed bind && TemporalFilter.optWellFormed vt &&
      TemporalFilter.optWellFormed st

def Rel.wellFormed : Rel → Bool
  | .mk rows bind => rows.wellFormed && Binding.allWellFormed bind

def TemporalFilter.optWellFormed : Option TemporalFilter → Bool
  | some tf => tf.wellFormed
  | none => true

def TemporalFilter.wellFormed : TemporalFilter → Bool
  | .asOf t | .fromTime t | .toTime t => t.wellFormed
  | .between a b => a.wellFormed && b.wellFormed
  | .allTime => true

/-- Whether a tail is given back: `where`, `without` and `order-by` need arguments. -/
def Tail.wellFormed : Tail → Bool
  | .filter conds => !conds.isEmpty && Expr.allWellFormed conds
  | .extend items | .project items | .aggregate items => Binding.allWellFormed items
  | .drop columns => !columns.isEmpty
  | .orderBy specs => !specs.isEmpty && OrderSpec.allWellFormed specs
  | .limit _ | .offset _ => true
  | .unnest b => b.wellFormed

def Tail.allWellFormed : List Tail → Bool
  | [] => true
  | t :: ts => t.wellFormed && Tail.allWellFormed ts

/-- Whether a clause is given back: `where` needs arguments. -/
def Clause.wellFormed : Clause → Bool
  | .scan s => s.wellFormed
  | .rel r => r.wellFormed
  | .filter conds => !conds.isEmpty && Expr.allWellFormed conds
  | .extend items => Binding.allWellFormed items
  | .join j | .leftJoin j => j.wellFormed
  | .unnest b => b.wellFormed

def Clause.allWellFormed : List Clause → Bool
  | [] => true
  | c :: cs => c.wellFormed && Clause.allWellFormed cs

def Join.wellFormed : Join → Bool
  | .mk q bind args => q.wellFormed && Binding.allWellFormed bind && Binding.optWellFormed args

def OrderSpec.wellFormed : OrderSpec → Bool
  | .mk val _ _ => val.wellFormed

def OrderSpec.allWellFormed : List OrderSpec → Bool
  | [] => true
  | s :: ss => s.wellFormed && OrderSpec.allWellFormed ss

def Binding.wellFormed : Binding → Bool
  | .mk _ e => e.wellFormed

def Binding.allWellFormed : List Binding → Bool
  | [] => true
  | b :: bs => b.wellFormed && Binding.allWellFormed bs

def Binding.optWellFormed : Option (List Binding) → Bool
  | some bs => Binding.allWellFormed bs
  | none => true

/-- Whether an expression is given back: a call's head is no subquery operator and a map
literal repeats no key. -/
def Expr.wellFormed : Expr → Bool
  | .vector items | .set items => Expr.allWellFormed items
  | .map entries => (entries.map Prod.fst).Nodup && Expr.entriesWellFormed entries
  | .tagged _ v => v.wellFormed
  | .call f args => (SubqueryOp.ofName? f).isNone && Expr.allWellFormed args
  | .subquery _ q args => q.wellFormed && Binding.optWellFormed args
  | _ => true

def Expr.allWellFormed : List Expr → Bool
  | [] => true
  | e :: es => e.wellFormed && Expr.allWellFormed es

def Expr.entriesWellFormed : List (String × Expr) → Bool
  | [] => true
  | (_, e) :: rest => e.wellFormed && Expr.entriesWellFormed rest

end

end Xtql
