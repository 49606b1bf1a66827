import Xtql.Query.Document
import Xtql.Proofs.Json.Object

/-!
The expressions of a query, and those that render without losing an entry or a float.
-/

namespace Xtql

mutual

/-- The expressions of a query, at any depth. -/
@[simp] def Query.exprs : Query → List Expr
  | .scan s => s.exprs
  | .pipeline head tails => head.exprs ++ Tail.listExprs tails
  | .unify clauses => Clause.listExprs clauses
  | .rel r => r.exprs

@[simp] def Scan.exprs : Scan → List Expr
  | .mk _ bind validTime systemTime =>
    Binding.listExprs bind ++ TemporalFilter.optExprs validTime ++
      TemporalFilter.optExprs systemTime

@[simp] def Rel.exprs : Rel → List Expr
  | .mk rows bind => rows.exprs ++ Binding.listExprs bind

@[simp] def TemporalFilter.optExprs : Option TemporalFilter → List Expr
  | some tf => tf.exprs
  | none => []

@[simp] def TemporalFilter.exprs : TemporalFilter → List Expr
  | .asOf t | .fromTime t | .toTime t => t.exprs
  | .between a b => a.exprs ++ b.exprs
  | .allTime => []

@[simp] def Tail.exprs : Tail → List Expr
  | .filter conds => Expr.listExprs conds
  | .extend items | .project items | .aggregate items => Binding.listExprs items
  | .orderBy specs => OrderSpec.listExprs specs
  | .unnest b => b.exprs
  | .drop _ | .limit _ | .offset _ => []

@[simp] def Tail.listExprs : List Tail → List Expr
  | [] => []
  | t :: ts => t.exprs ++ Tail.listExprs ts

@[simp] def Clause.exprs : Clause → List Expr
  | .scan s => s.exprs
  | .rel r => r.exprs
  | .filter conds => Expr.listExprs conds
  | .extend items => Binding.listExprs items
  | .join j | .leftJoin j => j.exprs
  | .unnest b => b.exprs

@[simp] def Clause.listExprs : List Clause → List Expr
  | [] => []
  | c :: cs => c.exprs ++ Clause.listExprs cs

@[simp] def Join.exprs : Join → List Expr
  | .mk query bind args => query.exprs ++ Binding.listExprs bind ++ Binding.optExprs args

@[simp] def OrderSpec.exprs : OrderSpec → List Expr
  | .mk val _ _ => val.exprs

@[simp] def OrderSpec.listExprs : List OrderSpec → List Expr
  | [] => []
  | s :: ss => s.exprs ++ OrderSpec.listExprs ss

@[simp] def Binding.exprs : Binding → List Expr
  | .mk _ e => e.exprs

@[simp] def Binding.listExprs : List Binding → List Expr
  | [] => []
  | b :: bs => b.exprs ++ Binding.listExprs bs

@[simp] def Binding.optExprs : Option (List Binding) → List Expr
  | some bs => Binding.listExprs bs
  | none => []

/-- An expression and every expression inside it. -/
@[simp] def Expr.exprs : Expr → List Expr
  | .vector items => .vector items :: Expr.listExprs items
  | .map entries => .map entries :: Expr.entriesExprs entries
  | .set items => .set items :: Expr.listExprs items
  | .tagged tag value => .tagged tag value :: value.exprs
  | .call function args => .call function args :: Expr.listExprs args
  | .subquery op query args => .subquery op query args :: (query.exprs ++ Binding.optExprs args)
  | e => [e]

@[simp] def Expr.listExprs : List Expr → List Expr
  | [] => []
  | e :: es => e.exprs ++ Expr.listExprs es

@[simp] def Expr.entriesExprs : List (String × Expr) → List Expr
  | [] => []
  | (_, e) :: rest => e.exprs ++ Expr.entriesExprs rest

end

@[simp] theorem Binding.listExprs_append (bs bs' : List Binding) :
    Binding.listExprs (bs ++ bs') = Binding.listExprs bs ++ Binding.listExprs bs' := by
  induction bs with
  | nil => rfl
  | cons b bs ih => simp [ih]

/-- An expression renders without loss: a map literal repeats no key, and a float is finite. -/
@[simp] def Expr.Faithful : Expr → Prop
  | .map entries => (entries.map Prod.fst).Nodup
  | .float x => x.isFinite = true
  | _ => True

theorem Expr.entriesToJson_eq (entries : List (String × Expr)) :
    Expr.entriesToJson entries = entries.map fun kv => (kv.1, kv.2.toJson) := by
  induction entries with
  | nil => rfl
  | cons kv rest ih =>
    obtain ⟨k, e⟩ := kv
    rw [Expr.entriesToJson, ih, List.map_cons]

/-- A map literal that repeats no key renders as an object with one member per entry, each key
carrying the document of its entry's value. -/
theorem Expr.toJson_map (entries : List (String × Expr)) (h : (Expr.map entries).Faithful) :
    ∃ fs, (Expr.map entries).toJson = .obj fs ∧ fs.length = entries.length ∧
      ∀ k e, (k, e) ∈ entries → (Expr.map entries).toJson.field? k = some e.toJson := by
  have hnd : ((Expr.entriesToJson entries).map Prod.fst).Nodup := by
    rw [Expr.entriesToJson_eq, List.map_map]
    exact h
  obtain ⟨fs, hobj, hlen, hfield⟩ := Json.object_members _ hnd
  refine ⟨fs, by rw [Expr.toJson, hobj], ?_, fun k e hm => ?_⟩
  · rw [hlen, Expr.entriesToJson_eq, List.length_map]
  · rw [Expr.toJson]
    apply hfield
    rw [Expr.entriesToJson_eq]
    exact List.mem_map.2 ⟨(k, e), hm, rfl⟩

/-- A finite float renders as a JSON number, not as null. -/
theorem Expr.toJson_float {x : Number.Binary64} (h : (Expr.float x).Faithful) :
    (Expr.float x).toJson = .num (.float x) := by
  have hx : x.isFinite = true := h
  rw [Expr.toJson, if_pos hx]

end Xtql
