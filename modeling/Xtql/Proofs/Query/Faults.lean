import Xtql.Query.Parse

/-!
The parser fails with one of its own two kinds of fault, or where reading the text fails.
-/

namespace Xtql

open Xtql.Edn Xtql.Text

/-! ### Results that satisfy a predicate -/

namespace Except

variable {ε α β : Type} {E : ε → Prop} {P : α → Prop} {Q : β → Prop}

/-- `x` succeeds with a value satisfying `P`, or fails with an error satisfying `E`. -/
def Sat (E : ε → Prop) (P : α → Prop) : Except ε α → Prop
  | .ok a => P a
  | .error e => E e

@[simp] theorem sat_ok {a : α} : Sat E P (.ok a) ↔ P a := Iff.rfl

@[simp] theorem sat_pure {a : α} : Sat E P (pure a : Except ε α) ↔ P a := Iff.rfl

theorem Sat.bind {x : Except ε α} {f : α → Except ε β} (hx : Sat E P x)
    (hf : ∀ a, P a → Sat E Q (f a)) : Sat E Q (x >>= f) := by
  cases x with
  | error e => exact hx
  | ok a => exact hf a hx

theorem Sat.map {x : Except ε α} {f : α → β} (hx : Sat E P x) (hf : ∀ a, P a → Q (f a)) :
    Sat E Q (f <$> x) := by
  cases x with
  | error e => exact hx
  | ok a => exact hf a hx

theorem Sat.imp {P' : α → Prop} {x : Except ε α} (hx : Sat E P x) (h : ∀ a, P a → P' a) :
    Sat E P' x := by
  cases x with
  | error e => exact hx
  | ok a => exact h a hx

theorem Sat.of_error {x : Except ε α} {e : ε} (hx : Sat E P x) (h : x = .error e) : E e := by
  subst h
  exact hx

theorem Sat.of_ok {x : Except ε α} {a : α} (hx : Sat E P x) (h : x = .ok a) : P a := by
  subst h
  exact hx

end Except

/-! ### The kinds the parser reports -/

/-- The kinds of fault the parser reports: a form that is no query, tail or clause, and a form
that is no expression. -/
def ErrorKind.parsing : ErrorKind → Bool
  | .invalidQuery | .invalidExpression => true
  | _ => false

def Fault.Parsing (flt : Fault) : Prop := flt.problem.kind.parsing = true

abbrev ParserFaults {α : Type} (x : Except Fault α) : Prop :=
  Except.Sat Fault.Parsing (fun _ => True) x

section Leaves

variable {α β : Type}

theorem ParserFaults.bind {x : Except Fault α} {f : α → Except Fault β} (hx : ParserFaults x)
    (hf : ∀ a, ParserFaults (f a)) : ParserFaults (x >>= f) :=
  Except.Sat.bind hx fun a _ => hf a

theorem ParserFaults.map {x : Except Fault α} (hx : ParserFaults x) (f : α → β) :
    ParserFaults (f <$> x) :=
  Except.Sat.map hx fun _ _ => trivial

theorem ParserFaults.unlessEmpty {x : Except Fault α} (hx : ParserFaults x) (f : α → β)
    (name : String) (args : List Form) (span : Span) :
    ParserFaults (if args.isEmpty then .error (noArgsFault name span) else f <$> x) := by
  split
  · exact rfl
  · exact hx.map f

theorem operatorForm_faults (role : Role) (f : Form) : ParserFaults (operatorForm role f) := by
  unfold operatorForm
  split
  · exact rfl
  · exact trivial
  · exact rfl
  · exact rfl

theorem resolveKeys_faults (ns : Option String) (pairs : List (Form × Form)) :
    ParserFaults (resolveKeys ns pairs) := by
  -- `go` carries the names seen so far
  suffices h : ∀ seen, ParserFaults (resolveKeys.go ns pairs seen) from h []
  induction pairs with
  | nil => intro seen; exact trivial
  | cons p ps ih =>
    intro seen
    obtain ⟨k, v⟩ := p
    unfold resolveKeys.go
    split
    · exact rfl
    · split
      · exact rfl
      · exact ih _

theorem countOfForm_faults (name : String) (f : Form) : ParserFaults (countOfForm name f) := by
  unfold countOfForm
  split
  · split
    · exact trivial
    · exact rfl
  · exact rfl

theorem columnsOfForms_faults (fs : List Form) : ParserFaults (columnsOfForms fs) := by
  induction fs with
  | nil => exact trivial
  | cons f fs ih =>
    simp only [columnsOfForms, List.mapM_cons] at ih ⊢
    refine ParserFaults.bind ?_ fun _ => ih.bind fun _ => trivial
    -- a keyword is a column, and any other form a fault of its own kind
    cases f
    case keyword => exact trivial
    all_goals exact rfl

end Leaves

/-! ### The readers of the parser -/

mutual

theorem Query.ofForm_faults (f : Form) : ParserFaults (Query.ofForm f) := by
  unfold Query.ofForm
  exact (operatorForm_faults .query f).bind fun ⟨o, _⟩ =>
    Query.ofOperator_faults o.name o.args o.span
termination_by 2 * sizeOf f
decreasing_by all_goals omega

theorem Query.ofOperator_faults (name : String) (args : List Form) (span : Span) :
    ParserFaults (Query.ofOperator name args span) := by
  unfold Query.ofOperator
  split
  · split <;> exact rfl
  · exact (Scan.ofArgs_faults name args span).map _
  · exact (Rel.ofArgs_faults name args span).map _
  · split
    · exact rfl
    next first rest =>
      exact (Query.ofForm_faults first).bind fun _ => (Tail.ofForms_faults rest).bind fun _ => trivial
  · split
    · exact rfl
    next c cs => exact (Clause.ofForms_faults (c :: cs)).map _
termination_by 2 * sizeOf args + 1
decreasing_by all_goals (subst_vars; simp -failIfUnchanged only [List.cons.sizeOf_spec]; omega)

theorem Scan.ofArgs_faults (name : String) (args : List Form) (span : Span) :
    ParserFaults (Scan.ofArgs name args span) := by
  unfold Scan.ofArgs
  split
  next table _ spec =>
    split
    next items _ => exact (Binding.ofItems_faults items).bind fun _ => trivial
    next pairs _ =>
      exact (resolveKeys_faults none pairs).bind fun _ =>
        Scan.ofOptions_faults table pairs [] none none
    next => exact rfl
  · exact rfl
  · exact rfl
termination_by 2 * sizeOf args
decreasing_by
  all_goals (subst_vars; simp only [List.cons.sizeOf_spec, Form.vector.sizeOf_spec,
    Form.map.sizeOf_spec]; omega)

theorem Scan.ofOptions_faults (table : String) (pairs : List (Form × Form)) (bind : List Binding)
    (validTime systemTime : Option TemporalFilter) :
    ParserFaults (Scan.ofOptions table pairs bind validTime systemTime) := by
  unfold Scan.ofOptions
  split
  · exact trivial
  next k v rest =>
    dsimp only
    split
    · exact (Binding.ofVector_faults v).bind fun b =>
        Scan.ofOptions_faults table rest b validTime systemTime
    · split
      · exact (TemporalFilter.ofForm_faults v).bind fun tf =>
          Scan.ofOptions_faults table rest bind (some tf) systemTime
      · split
        · exact (TemporalFilter.ofForm_faults v).bind fun tf =>
            Scan.ofOptions_faults table rest bind validTime (some tf)
        · exact rfl
termination_by 2 * sizeOf pairs
decreasing_by all_goals (subst_vars; simp only [List.cons.sizeOf_spec, Prod.mk.sizeOf_spec]; omega)

theorem Rel.ofArgs_faults (name : String) (args : List Form) (span : Span) :
    ParserFaults (Rel.ofArgs name args span) := by
  unfold Rel.ofArgs
  split
  next rows bind =>
    exact (Expr.ofForm_faults rows).bind fun _ => (Binding.ofVector_faults bind).bind fun _ => trivial
  · exact rfl
termination_by 2 * sizeOf args
decreasing_by all_goals (subst_vars; simp only [List.cons.sizeOf_spec]; omega)

theorem TemporalFilter.ofForm_faults (f : Form) : ParserFaults (TemporalFilter.ofForm f) := by
  unfold TemporalFilter.ofForm
  split
  · exact trivial
  · split
    · exact (operatorForm_faults .temporalFilter f).bind fun ⟨o, _⟩ =>
        TemporalFilter.ofOperator_faults o.name o.args o.span
    · exact rfl
termination_by 2 * sizeOf f
decreasing_by all_goals omega

theorem TemporalFilter.ofOperator_faults (name : String) (args : List Form) (span : Span) :
    ParserFaults (TemporalFilter.ofOperator name args span) := by
  unfold TemporalFilter.ofOperator
  split
  · exact rfl
  all_goals split
  next t => exact (Expr.ofForm_faults t).map _
  · exact rfl
  next t => exact (Expr.ofForm_faults t).map _
  · exact rfl
  next t => exact (Expr.ofForm_faults t).map _
  · exact rfl
  next a b =>
    exact (Expr.ofForm_faults a).bind fun _ => (Expr.ofForm_faults b).bind fun _ => trivial
  · exact rfl
termination_by 2 * sizeOf args
decreasing_by all_goals (subst_vars; simp only [List.cons.sizeOf_spec]; omega)

theorem Tail.ofForms_faults (fs : List Form) : ParserFaults (Tail.ofForms fs) := by
  unfold Tail.ofForms
  split
  · exact trivial
  next f rest =>
    exact (Tail.ofForm_faults f).bind fun _ => (Tail.ofForms_faults rest).bind fun _ => trivial
termination_by 2 * sizeOf fs
decreasing_by all_goals (subst_vars; simp only [List.cons.sizeOf_spec]; omega)

theorem Tail.ofForm_faults (f : Form) : ParserFaults (Tail.ofForm f) := by
  unfold Tail.ofForm
  exact (operatorForm_faults .tail f).bind fun ⟨o, _⟩ =>
    Tail.ofOperator_faults o.name o.args o.span
termination_by 2 * sizeOf f
decreasing_by all_goals omega

theorem Tail.ofOperator_faults (name : String) (args : List Form) (span : Span) :
    ParserFaults (Tail.ofOperator name args span) := by
  unfold Tail.ofOperator
  split
  · split <;> exact rfl
  · exact (Expr.ofForms_faults args).unlessEmpty _ name args span
  · exact (Binding.ofItems_faults args).unlessEmpty _ name args span
  · exact (Binding.ofItems_faults args).unlessEmpty _ name args span
  · exact (Binding.ofItems_faults args).unlessEmpty _ name args span
  · exact (columnsOfForms_faults args).unlessEmpty _ name args span
  · exact (OrderSpec.ofForms_faults args).unlessEmpty _ name args span
  all_goals split
  next n => exact (countOfForm_faults name n).map _
  · exact rfl
  next n => exact (countOfForm_faults name n).map _
  · exact rfl
  next b => exact (Binding.ofUnnest_faults b).map _
  · exact rfl
termination_by 2 * sizeOf args + 1
decreasing_by all_goals (subst_vars; simp -failIfUnchanged only [List.cons.sizeOf_spec]; omega)

theorem OrderSpec.ofForms_faults (fs : List Form) : ParserFaults (OrderSpec.ofForms fs) := by
  unfold OrderSpec.ofForms
  split
  · exact trivial
  next f rest =>
    exact (OrderSpec.ofForm_faults f).bind fun _ =>
      (OrderSpec.ofForms_faults rest).bind fun _ => trivial
termination_by 2 * sizeOf fs
decreasing_by all_goals (subst_vars; simp only [List.cons.sizeOf_spec]; omega)

theorem OrderSpec.ofForm_faults (f : Form) : ParserFaults (OrderSpec.ofForm f) := by
  unfold OrderSpec.ofForm
  split
  next pairs span =>
    exact (resolveKeys_faults none pairs).bind fun _ =>
      OrderSpec.ofOptions_faults pairs span none none none
  · exact (Expr.ofForm_faults f).bind fun _ => trivial
termination_by 2 * sizeOf f + 1
decreasing_by all_goals (subst_vars; simp -failIfUnchanged only [Form.map.sizeOf_spec]; omega)

theorem OrderSpec.ofOptions_faults (pairs : List (Form × Form)) (span : Span) (val : Option Expr)
    (dir : Option Direction) (nulls : Option NullOrder) :
    ParserFaults (OrderSpec.ofOptions pairs span val dir nulls) := by
  unfold OrderSpec.ofOptions
  split
  · split
    · exact trivial
    · exact rfl
  next k v rest =>
    dsimp only
    split
    · exact (Expr.ofForm_faults v).bind fun e =>
        OrderSpec.ofOptions_faults rest span (some e) dir nulls
    · split
      · split
        · exact OrderSpec.ofOptions_faults rest span val (some .asc) nulls
        · exact OrderSpec.ofOptions_faults rest span val (some .desc) nulls
        · exact rfl
      · split
        · split
          · exact OrderSpec.ofOptions_faults rest span val dir (some .first)
          · exact OrderSpec.ofOptions_faults rest span val dir (some .last)
          · exact rfl
        · exact rfl
termination_by 2 * sizeOf pairs
decreasing_by all_goals (subst_vars; simp only [List.cons.sizeOf_spec, Prod.mk.sizeOf_spec]; omega)

theorem Binding.ofUnnest_faults (f : Form) : ParserFaults (Binding.ofUnnest f) := by
  unfold Binding.ofUnnest
  split
  next pairs span =>
    refine (resolveKeys_faults none pairs).bind fun _ => ?_
    split
    next k v => exact (Expr.ofForm_faults v).map _
    · exact rfl
  next ns pairs span =>
    refine (resolveKeys_faults (some ns) pairs).bind fun _ => ?_
    split
    next k v => exact (Expr.ofForm_faults v).map _
    · exact rfl
  · exact rfl
termination_by 2 * sizeOf f
decreasing_by
  all_goals (subst_vars; simp only [List.cons.sizeOf_spec, Prod.mk.sizeOf_spec,
    Form.map.sizeOf_spec, Form.nsMap.sizeOf_spec]; omega)

theorem Clause.ofForms_faults (fs : List Form) : ParserFaults (Clause.ofForms fs) := by
  unfold Clause.ofForms
  split
  · exact trivial
  next f rest =>
    exact (Clause.ofForm_faults f).bind fun _ => (Clause.ofForms_faults rest).bind fun _ => trivial
termination_by 2 * sizeOf fs
decreasing_by all_goals (subst_vars; simp only [List.cons.sizeOf_spec]; omega)

theorem Clause.ofForm_faults (f : Form) : ParserFaults (Clause.ofForm f) := by
  unfold Clause.ofForm
  exact (operatorForm_faults .clause f).bind fun ⟨o, _⟩ =>
    Clause.ofOperator_faults o.name o.args o.span
termination_by 2 * sizeOf f
decreasing_by all_goals omega

theorem Clause.ofOperator_faults (name : String) (args : List Form) (span : Span) :
    ParserFaults (Clause.ofOperator name args span) := by
  unfold Clause.ofOperator
  split
  · split <;> exact rfl
  · exact (Scan.ofArgs_faults name args span).map _
  · exact (Rel.ofArgs_faults name args span).map _
  · exact (Expr.ofForms_faults args).unlessEmpty _ name args span
  · exact (Binding.ofItems_faults args).unlessEmpty _ name args span
  · exact (Join.ofArgs_faults name args span).map _
  · exact (Join.ofArgs_faults name args span).map _
  · split
    next b => exact (Binding.ofUnnest_faults b).map _
    · exact rfl
termination_by 2 * sizeOf args + 1
decreasing_by all_goals (subst_vars; simp -failIfUnchanged only [List.cons.sizeOf_spec]; omega)

theorem Join.ofArgs_faults (name : String) (args : List Form) (span : Span) :
    ParserFaults (Join.ofArgs name args span) := by
  unfold Join.ofArgs
  split
  next q spec =>
    refine (Query.ofForm_faults q).bind fun query => ?_
    split
    next items _ => exact (Binding.ofItems_faults items).bind fun _ => trivial
    next pairs _ =>
      exact (resolveKeys_faults none pairs).bind fun _ =>
        Join.ofOptions_faults name query pairs [] none
    · exact rfl
  · exact rfl
termination_by 2 * sizeOf args
decreasing_by
  all_goals (subst_vars; simp only [List.cons.sizeOf_spec, Form.vector.sizeOf_spec,
    Form.map.sizeOf_spec]; omega)

theorem Join.ofOptions_faults (name : String) (query : Query) (pairs : List (Form × Form))
    (bind : List Binding) (args : Option (List Binding)) :
    ParserFaults (Join.ofOptions name query pairs bind args) := by
  unfold Join.ofOptions
  split
  · exact trivial
  next k v rest =>
    dsimp only
    split
    · exact (Binding.ofVector_faults v).bind fun b => Join.ofOptions_faults name query rest b args
    · split
      · exact (Binding.ofVector_faults v).bind fun a =>
          Join.ofOptions_faults name query rest bind (some a)
      · exact rfl
termination_by 2 * sizeOf pairs
decreasing_by all_goals (subst_vars; simp only [List.cons.sizeOf_spec, Prod.mk.sizeOf_spec]; omega)

theorem Binding.ofVector_faults (f : Form) : ParserFaults (Binding.ofVector f) := by
  unfold Binding.ofVector
  split
  next items _ => exact Binding.ofItems_faults items
  · exact rfl
termination_by 2 * sizeOf f
decreasing_by all_goals (subst_vars; simp only [Form.vector.sizeOf_spec]; omega)

theorem Binding.ofItems_faults (items : List Form) : ParserFaults (Binding.ofItems items) := by
  unfold Binding.ofItems
  split
  · exact trivial
  next name _ rest => exact (Binding.ofItems_faults rest).bind fun _ => trivial
  next pairs _ rest =>
    exact (resolveKeys_faults none pairs).bind fun _ =>
      (Binding.ofEntries_faults none pairs).bind fun _ =>
        (Binding.ofItems_faults rest).bind fun _ => trivial
  next ns pairs _ rest =>
    exact (resolveKeys_faults (some ns) pairs).bind fun _ =>
      (Binding.ofEntries_faults (some ns) pairs).bind fun _ =>
        (Binding.ofItems_faults rest).bind fun _ => trivial
  · exact rfl
termination_by 2 * sizeOf items
decreasing_by
  all_goals (subst_vars; simp only [List.cons.sizeOf_spec, Form.map.sizeOf_spec,
    Form.nsMap.sizeOf_spec]; omega)

theorem Binding.ofEntries_faults (ns : Option String) (pairs : List (Form × Form)) :
    ParserFaults (Binding.ofEntries ns pairs) := by
  unfold Binding.ofEntries
  split
  · exact trivial
  next k v rest =>
    exact (Expr.ofForm_faults v).bind fun _ =>
      (Binding.ofEntries_faults ns rest).bind fun _ => trivial
termination_by 2 * sizeOf pairs
decreasing_by all_goals (subst_vars; simp only [List.cons.sizeOf_spec, Prod.mk.sizeOf_spec]; omega)

theorem Expr.ofForm_faults (f : Form) : ParserFaults (Expr.ofForm f) := by
  unfold Expr.ofForm
  split
  any_goals exact trivial
  next items _ => exact (Expr.ofForms_faults items).map _
  next items _ => exact (Expr.ofForms_faults items).map _
  next pairs _ =>
    exact (resolveKeys_faults none pairs).bind fun _ => (Expr.ofEntries_faults none pairs).map _
  next ns pairs _ =>
    exact (resolveKeys_faults (some ns) pairs).bind fun _ =>
      (Expr.ofEntries_faults (some ns) pairs).map _
  next tag v _ => exact (Expr.ofForm_faults v).map _
  next items span => exact Expr.ofCall_faults items span
termination_by 2 * sizeOf f
decreasing_by
  all_goals (subst_vars; simp only [Form.vector.sizeOf_spec, Form.map.sizeOf_spec,
    Form.nsMap.sizeOf_spec, Form.list.sizeOf_spec, Form.set.sizeOf_spec,
    Form.tagged.sizeOf_spec]; omega)

theorem Expr.ofForms_faults (fs : List Form) : ParserFaults (Expr.ofForms fs) := by
  unfold Expr.ofForms
  split
  · exact trivial
  next f rest =>
    exact (Expr.ofForm_faults f).bind fun _ => (Expr.ofForms_faults rest).bind fun _ => trivial
termination_by 2 * sizeOf fs
decreasing_by all_goals (subst_vars; simp only [List.cons.sizeOf_spec]; omega)

theorem Expr.ofEntries_faults (ns : Option String) (pairs : List (Form × Form)) :
    ParserFaults (Expr.ofEntries ns pairs) := by
  unfold Expr.ofEntries
  split
  · exact trivial
  next k v rest =>
    exact (Expr.ofForm_faults v).bind fun _ =>
      (Expr.ofEntries_faults ns rest).bind fun _ => trivial
termination_by 2 * sizeOf pairs
decreasing_by all_goals (subst_vars; simp only [List.cons.sizeOf_spec, Prod.mk.sizeOf_spec]; omega)

theorem Expr.ofCall_faults (items : List Form) (span : Span) :
    ParserFaults (Expr.ofCall items span) := by
  unfold Expr.ofCall
  split
  · exact rfl
  next function _ rest =>
    split
    · exact (Expr.ofForms_faults rest).map _
    · split
      next q => exact (Query.ofForm_faults q).bind fun _ => trivial
      next q opts =>
        refine (Query.ofForm_faults q).bind fun _ => ?_
        split
        next pairs _ =>
          exact (resolveKeys_faults none pairs).bind fun _ =>
            (Expr.subqueryArgs_faults function pairs none).bind fun _ => trivial
        · exact rfl
      · exact rfl
  · exact rfl
termination_by 2 * sizeOf items
decreasing_by all_goals (subst_vars; simp only [List.cons.sizeOf_spec, Form.map.sizeOf_spec]; omega)

theorem Expr.subqueryArgs_faults (function : String) (pairs : List (Form × Form))
    (args : Option (List Binding)) : ParserFaults (Expr.subqueryArgs function pairs args) := by
  unfold Expr.subqueryArgs
  split
  · exact trivial
  next k v rest =>
    dsimp only
    split
    · exact (Binding.ofVector_faults v).bind fun a =>
        Expr.subqueryArgs_faults function rest (some a)
    · exact rfl
termination_by 2 * sizeOf pairs
decreasing_by all_goals (subst_vars; simp only [List.cons.sizeOf_spec, Prod.mk.sizeOf_spec]; omega)

end

/-- A parse fails where reading the text fails, or else with a fault of a kind the parser
reports. -/
theorem Query.parse_error {s : String} {d : Nat} {e : ParseError}
    (h : Query.parse s d = .error e) : Edn.read s d = .error e ∨ e.kind.parsing = true := by
  unfold Query.parse at h
  cases hr : Edn.read s d with
  | error e' =>
    simp only [hr, Except.error.injEq] at h
    exact .inl (h ▸ rfl)
  | ok f =>
    cases hq : Query.ofForm f with
    | ok q => simp only [hr, hq, reduceCtorEq] at h
    | error flt =>
      simp only [hr, hq, Except.error.injEq] at h
      subst h
      exact .inr ((Query.ofForm_faults f).of_error hq)

end Xtql
