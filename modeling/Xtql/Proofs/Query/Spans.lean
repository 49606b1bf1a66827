import Xtql.Query.Parse
import Xtql.Proofs.Edn.Print

/-!
The parser reads forms up to spans: spans only place the faults it reports.
-/

namespace Xtql

open Xtql.Edn

/-! ### Results without their faults -/

section ToOption

variable {ε α β : Type}

@[simp] theorem Except.toOption_ok (a : α) : (Except.ok a : Except ε α).toOption = some a := rfl

@[simp] theorem Except.toOption_error (e : ε) :
    (Except.error e : Except ε α).toOption = none := rfl

@[simp] theorem Except.toOption_pure (a : α) : (pure a : Except ε α).toOption = some a := rfl

@[simp] theorem Except.toOption_bind (x : Except ε α) (f : α → Except ε β) :
    (x >>= f).toOption = x.toOption.bind fun a => (f a).toOption := by
  cases x <;> rfl

@[simp] theorem Except.toOption_map (x : Except ε α) (f : α → β) :
    (f <$> x).toOption = x.toOption.map f := by
  cases x <;> rfl

@[simp] theorem Except.toOption_ite (c : Prop) [Decidable c] (x y : Except ε α) :
    (if c then x else y).toOption = if c then x.toOption else y.toOption := by
  by_cases hc : c <;> simp only [hc, if_true, if_false]

theorem Except.toOption_eq_some {x : Except ε α} {a : α} :
    x.toOption = some a ↔ x = .ok a := by
  cases x with
  | error e => simp only [Except.toOption_error, reduceCtorEq]
  | ok b => simp only [Except.toOption_ok, Option.some.injEq, Except.ok.injEq]

end ToOption

/-! ### Forms up to spans -/

namespace Edn

theorem Form.sort_bare (f : Form) : f.bare.sort = f.sort := by
  cases f <;> rfl

theorem Form.bareAll_isEmpty (fs : List Form) : (Form.bareAll fs).isEmpty = fs.isEmpty := by
  cases fs <;> rfl

end Edn

theorem keywordOf?_bare (f : Form) : keywordOf? f.bare = keywordOf? f := by
  cases f <;> rfl

theorem keyName_bare (ns : Option String) (k : Form) : keyName ns k.bare = keyName ns k := by
  cases k <;> rfl

theorem keyText_bare (ns : Option String) (k : Form) : keyText ns k.bare = keyText ns k := by
  simp only [keyText, keyName_bare]

theorem resolveKeys_bare (ns : Option String) (ps : List (Form × Form)) :
    (resolveKeys ns (Form.barePairs ps)).toOption = (resolveKeys ns ps).toOption := by
  -- `go` carries the names seen so far
  suffices h : ∀ seen, (resolveKeys.go ns (Form.barePairs ps) seen).toOption =
      (resolveKeys.go ns ps seen).toOption from h []
  induction ps with
  | nil => intro seen; rfl
  | cons p ps ih =>
    intro seen
    obtain ⟨k, v⟩ := p
    simp only [Form.barePairs, resolveKeys.go, keyName_bare]
    cases keyName ns k with
    | none => rfl
    | some name =>
      by_cases hmem : name ∈ seen
      · simp only [hmem, if_true, Except.toOption_error]
      · simp only [hmem, if_false, ih]

theorem countOfForm_bare (name : String) (f : Form) :
    (countOfForm name f.bare).toOption = (countOfForm name f).toOption := by
  cases f
  case int n s =>
    by_cases hn : 0 ≤ n
    · simp only [Form.bare, countOfForm, hn, if_true]
    · simp only [Form.bare, countOfForm, hn, if_false, Except.toOption_error]
  all_goals rfl

theorem columnsOfForms_bare (fs : List Form) :
    (columnsOfForms (Form.bareAll fs)).toOption = (columnsOfForms fs).toOption := by
  induction fs with
  | nil => rfl
  | cons f fs ih =>
    simp only [columnsOfForms, Form.bareAll, List.mapM_cons] at ih ⊢
    cases f
    case keyword k s => simp only [Form.bare, Except.toOption_bind, ih]
    all_goals rfl

/-- An operator form splits alike whatever its spans; the arguments of the bare form are the
bare arguments. -/
theorem operatorForm_bind_bare {α : Type} (role : Role) (f : Form)
    (c : {o : OpForm // sizeOf o.args < sizeOf f.bare} → Except Fault α)
    (c' : {o : OpForm // sizeOf o.args < sizeOf f} → Except Fault α)
    (h : ∀ o ho ho', (c ⟨⟨o.name, Form.bareAll o.args, ⟨0, 0⟩⟩, ho⟩).toOption =
      (c' ⟨o, ho'⟩).toOption) :
    (operatorForm role f.bare >>= c).toOption = (operatorForm role f >>= c').toOption := by
  cases f
  case list items sp =>
    cases items with
    | nil => rfl
    | cons g args =>
      cases g
      case symbol name s => exact h ⟨name, args, sp⟩ _ _
      all_goals rfl
  all_goals rfl

/-! ### The readers of the parser

The theorems recurse with the readers' own measure. -/

mutual

theorem Query.ofForm_bare (f : Form) :
    (Query.ofForm f.bare).toOption = (Query.ofForm f).toOption := by
  rw [Query.ofForm, Query.ofForm]
  exact operatorForm_bind_bare .query f _ _ fun o _ _ => Query.ofOperator_bare o.name o.args o.span
termination_by 2 * sizeOf f
decreasing_by all_goals omega

theorem Query.ofOperator_bare (name : String) (args : List Form) (span : Span) :
    (Query.ofOperator name (Form.bareAll args) ⟨0, 0⟩).toOption =
      (Query.ofOperator name args span).toOption := by
  unfold Query.ofOperator
  cases QueryOp.ofName? name with
  | none => rfl
  | some op =>
    cases op
    case scan => simp only [Except.toOption_map, Scan.ofArgs_bare name args span]
    case rel => simp only [Except.toOption_map, Rel.ofArgs_bare name args span]
    case pipeline =>
      cases args with
      | nil => rfl
      | cons first rest =>
        simp only [Form.bareAll, Except.toOption_bind, Except.toOption_pure,
          Query.ofForm_bare first, Tail.ofForms_bare rest]
    case unify =>
      cases args with
      | nil => rfl
      | cons c cs =>
        have ih := Clause.ofForms_bare (c :: cs)
        simp only [Form.bareAll] at ih ⊢
        simp only [Except.toOption_map, ih]
termination_by 2 * sizeOf args + 1
decreasing_by all_goals (simp -failIfUnchanged only [List.cons.sizeOf_spec]; omega)

theorem Scan.ofArgs_bare (name : String) (args : List Form) (span : Span) :
    (Scan.ofArgs name (Form.bareAll args) ⟨0, 0⟩).toOption =
      (Scan.ofArgs name args span).toOption := by
  match args with
  | [table, spec] =>
    cases table
    case keyword table s =>
      cases spec
      case vector items sp =>
        simp only [Form.bareAll, Form.bare, Scan.ofArgs, Except.toOption_bind,
          Except.toOption_pure, Binding.ofItems_bare items]
      case map pairs sp =>
        simp only [Form.bareAll, Form.bare, Scan.ofArgs, Except.toOption_bind,
          resolveKeys_bare, Scan.ofOptions_bare table pairs]
      all_goals simp [Form.bareAll, Form.bare, Scan.ofArgs]
    all_goals simp [Form.bareAll, Form.bare, Scan.ofArgs]
  | [] | [_] | _ :: _ :: _ :: _ => simp [Form.bareAll, Scan.ofArgs]
termination_by 2 * sizeOf args
decreasing_by
  all_goals (simp only [List.cons.sizeOf_spec, Form.vector.sizeOf_spec,
    Form.map.sizeOf_spec]; omega)

theorem Scan.ofOptions_bare (table : String) (pairs : List (Form × Form)) (bind : List Binding)
    (validTime systemTime : Option TemporalFilter) :
    (Scan.ofOptions table (Form.barePairs pairs) bind validTime systemTime).toOption =
      (Scan.ofOptions table pairs bind validTime systemTime).toOption := by
  match pairs with
  | [] => rfl
  | (k, v) :: rest =>
    simp only [Form.barePairs, Scan.ofOptions, keyText_bare, Except.toOption_ite,
      Except.toOption_bind, Except.toOption_error, Binding.ofVector_bare v,
      TemporalFilter.ofForm_bare v,
      Scan.ofOptions_bare table rest]
termination_by 2 * sizeOf pairs
decreasing_by all_goals (simp only [List.cons.sizeOf_spec, Prod.mk.sizeOf_spec]; omega)

theorem Rel.ofArgs_bare (name : String) (args : List Form) (span : Span) :
    (Rel.ofArgs name (Form.bareAll args) ⟨0, 0⟩).toOption =
      (Rel.ofArgs name args span).toOption := by
  match args with
  | [rows, bind] =>
    simp only [Form.bareAll, Rel.ofArgs, Except.toOption_bind, Except.toOption_pure,
      Expr.ofForm_bare rows, Binding.ofVector_bare bind]
  | [] | [_] | _ :: _ :: _ :: _ => simp [Form.bareAll, Rel.ofArgs]
termination_by 2 * sizeOf args
decreasing_by all_goals (simp only [List.cons.sizeOf_spec]; omega)

theorem TemporalFilter.ofForm_bare (f : Form) :
    (TemporalFilter.ofForm f.bare).toOption = (TemporalFilter.ofForm f).toOption := by
  rw [TemporalFilter.ofForm, TemporalFilter.ofForm, keywordOf?_bare, Form.sort_bare]
  by_cases hall : keywordOf? f = some "all-time"
  · simp only [hall, if_true]
  · by_cases hlist : f.sort = .list
    · simp only [hall, hlist, if_false, if_true]
      exact operatorForm_bind_bare .temporalFilter f _ _ fun o _ _ =>
        TemporalFilter.ofOperator_bare o.name o.args o.span
    · simp only [hall, hlist, if_false, Except.toOption_error]
termination_by 2 * sizeOf f
decreasing_by all_goals omega

theorem TemporalFilter.ofOperator_bare (name : String) (args : List Form) (span : Span) :
    (TemporalFilter.ofOperator name (Form.bareAll args) ⟨0, 0⟩).toOption =
      (TemporalFilter.ofOperator name args span).toOption := by
  unfold TemporalFilter.ofOperator
  cases TemporalOp.ofName? name with
  | none => rfl
  | some op =>
    rcases args with _ | ⟨a, _ | ⟨b, _ | ⟨c, rest⟩⟩⟩
    · cases op <;> rfl
    · cases op <;> simp only [Form.bareAll, Except.toOption_map, Except.toOption_error,
        Expr.ofForm_bare a]
    · cases op <;> simp only [Form.bareAll, Except.toOption_bind, Except.toOption_pure,
        Except.toOption_error, Expr.ofForm_bare a, Expr.ofForm_bare b]
    · cases op <;> rfl
termination_by 2 * sizeOf args
decreasing_by all_goals (simp only [List.cons.sizeOf_spec]; omega)

theorem Tail.ofForms_bare (fs : List Form) :
    (Tail.ofForms (Form.bareAll fs)).toOption = (Tail.ofForms fs).toOption := by
  match fs with
  | [] => rfl
  | f :: rest =>
    simp only [Form.bareAll, Tail.ofForms, Except.toOption_bind, Except.toOption_pure,
      Tail.ofForm_bare f, Tail.ofForms_bare rest]
termination_by 2 * sizeOf fs
decreasing_by all_goals (simp only [List.cons.sizeOf_spec]; omega)

theorem Tail.ofForm_bare (f : Form) :
    (Tail.ofForm f.bare).toOption = (Tail.ofForm f).toOption := by
  rw [Tail.ofForm, Tail.ofForm]
  exact operatorForm_bind_bare .tail f _ _ fun o _ _ => Tail.ofOperator_bare o.name o.args o.span
termination_by 2 * sizeOf f
decreasing_by all_goals omega

theorem Tail.ofOperator_bare (name : String) (args : List Form) (span : Span) :
    (Tail.ofOperator name (Form.bareAll args) ⟨0, 0⟩).toOption =
      (Tail.ofOperator name args span).toOption := by
  unfold Tail.ofOperator
  cases TailOp.ofName? name with
  | none => rfl
  | some op =>
    rw [Form.bareAll_isEmpty]
    cases op
    case filter =>
      simp only [Except.toOption_ite, Except.toOption_error, Except.toOption_map,
        Expr.ofForms_bare args]
    case extend | project | aggregate =>
      simp only [Except.toOption_ite, Except.toOption_error, Except.toOption_map,
        Binding.ofItems_bare args]
    case drop =>
      simp only [Except.toOption_ite, Except.toOption_error, Except.toOption_map,
        columnsOfForms_bare args]
    case orderBy =>
      simp only [Except.toOption_ite, Except.toOption_error, Except.toOption_map,
        OrderSpec.ofForms_bare args]
    case limit | offset =>
      rcases args with _ | ⟨n, _ | ⟨m, rest⟩⟩
      · rfl
      · simp only [Form.bareAll, Except.toOption_map, countOfForm_bare]
      · rfl
    case unnest =>
      rcases args with _ | ⟨b, _ | ⟨c, rest⟩⟩
      · rfl
      · simp only [Form.bareAll, Except.toOption_map, Binding.ofUnnest_bare b]
      · rfl
termination_by 2 * sizeOf args + 1
decreasing_by all_goals (simp -failIfUnchanged only [List.cons.sizeOf_spec]; omega)

theorem OrderSpec.ofForms_bare (fs : List Form) :
    (OrderSpec.ofForms (Form.bareAll fs)).toOption = (OrderSpec.ofForms fs).toOption := by
  match fs with
  | [] => rfl
  | f :: rest =>
    simp only [Form.bareAll, OrderSpec.ofForms, Except.toOption_bind, Except.toOption_pure,
      OrderSpec.ofForm_bare f, OrderSpec.ofForms_bare rest]
termination_by 2 * sizeOf fs
decreasing_by all_goals (simp only [List.cons.sizeOf_spec]; omega)

theorem OrderSpec.ofForm_bare (f : Form) :
    (OrderSpec.ofForm f.bare).toOption = (OrderSpec.ofForm f).toOption := by
  -- every form but a map is read as an expression
  have ih := Expr.ofForm_bare f
  cases f
  case map pairs span =>
    simp only [Form.bare, OrderSpec.ofForm, Except.toOption_bind, resolveKeys_bare,
      OrderSpec.ofOptions_bare pairs span]
  all_goals
    simp only [Form.bare] at ih ⊢
    simp only [OrderSpec.ofForm, Except.toOption_bind, Except.toOption_pure, ih]
termination_by 2 * sizeOf f + 1
decreasing_by all_goals (simp -failIfUnchanged only [Form.map.sizeOf_spec]; omega)

theorem OrderSpec.ofOptions_bare (pairs : List (Form × Form)) (span : Span) (val : Option Expr)
    (dir : Option Direction) (nulls : Option NullOrder) :
    (OrderSpec.ofOptions (Form.barePairs pairs) ⟨0, 0⟩ val dir nulls).toOption =
      (OrderSpec.ofOptions pairs span val dir nulls).toOption := by
  match pairs with
  | [] => cases val <;> simp only [Form.barePairs, OrderSpec.ofOptions, Except.toOption_ok,
      Except.toOption_error]
  | (k, v) :: rest =>
    unfold OrderSpec.ofOptions
    simp only [Form.barePairs, keyText_bare, Except.toOption_ite, Except.toOption_bind,
      Except.toOption_error, Expr.ofForm_bare v, OrderSpec.ofOptions_bare rest span]
    have ih := OrderSpec.ofOptions_bare rest span
    cases v
    case keyword n s =>
      -- the keywords that `:dir` and `:nulls` take, then any other
      by_cases hasc : n = "asc"
      · subst hasc; simp [Form.bare, ih]
      by_cases hdesc : n = "desc"
      · subst hdesc; simp [Form.bare, ih]
      by_cases hfirst : n = "first"
      · subst hfirst; simp [Form.bare, ih]
      by_cases hlast : n = "last"
      · subst hlast; simp [Form.bare, ih]
      simp [Form.bare, hasc, hdesc, hfirst, hlast]
    all_goals simp only [Form.bare, Except.toOption_error]
termination_by 2 * sizeOf pairs
decreasing_by all_goals (simp only [List.cons.sizeOf_spec, Prod.mk.sizeOf_spec]; omega)

theorem Binding.ofUnnest_bare (f : Form) :
    (Binding.ofUnnest f.bare).toOption = (Binding.ofUnnest f).toOption := by
  unfold Binding.ofUnnest
  cases f
  case map pairs span | nsMap _ pairs span =>
    simp only [Form.bare, Except.toOption_bind, resolveKeys_bare]
    rcases pairs with _ | ⟨⟨k, v⟩, _ | ⟨p, rest⟩⟩
    · rfl
    · simp only [Form.barePairs, Except.toOption_map, keyText_bare, Expr.ofForm_bare v]
    · rfl
  all_goals rfl
termination_by 2 * sizeOf f
decreasing_by
  all_goals (simp only [List.cons.sizeOf_spec, Prod.mk.sizeOf_spec, Form.map.sizeOf_spec,
    Form.nsMap.sizeOf_spec]; omega)

theorem Clause.ofForms_bare (fs : List Form) :
    (Clause.ofForms (Form.bareAll fs)).toOption = (Clause.ofForms fs).toOption := by
  match fs with
  | [] => rfl
  | f :: rest =>
    simp only [Form.bareAll, Clause.ofForms, Except.toOption_bind, Except.toOption_pure,
      Clause.ofForm_bare f, Clause.ofForms_bare rest]
termination_by 2 * sizeOf fs
decreasing_by all_goals (simp only [List.cons.sizeOf_spec]; omega)

theorem Clause.ofForm_bare (f : Form) :
    (Clause.ofForm f.bare).toOption = (Clause.ofForm f).toOption := by
  rw [Clause.ofForm, Clause.ofForm]
  exact operatorForm_bind_bare .clause f _ _ fun o _ _ =>
    Clause.ofOperator_bare o.name o.args o.span
termination_by 2 * sizeOf f
decreasing_by all_goals omega

theorem Clause.ofOperator_bare (name : String) (args : List Form) (span : Span) :
    (Clause.ofOperator name (Form.bareAll args) ⟨0, 0⟩).toOption =
      (Clause.ofOperator name args span).toOption := by
  unfold Clause.ofOperator
  cases ClauseOp.ofName? name with
  | none => rfl
  | some op =>
    rw [Form.bareAll_isEmpty]
    cases op
    case scan => simp only [Except.toOption_map, Scan.ofArgs_bare name args span]
    case rel => simp only [Except.toOption_map, Rel.ofArgs_bare name args span]
    case filter =>
      simp only [Except.toOption_ite, Except.toOption_error, Except.toOption_map,
        Expr.ofForms_bare args]
    case extend =>
      simp only [Except.toOption_ite, Except.toOption_error, Except.toOption_map,
        Binding.ofItems_bare args]
    case join | leftJoin => simp only [Except.toOption_map, Join.ofArgs_bare name args span]
    case unnest =>
      rcases args with _ | ⟨b, _ | ⟨c, rest⟩⟩
      · rfl
      · simp only [Form.bareAll, Except.toOption_map, Binding.ofUnnest_bare b]
      · rfl
termination_by 2 * sizeOf args + 1
decreasing_by all_goals (simp -failIfUnchanged only [List.cons.sizeOf_spec]; omega)

theorem Join.ofArgs_bare (name : String) (args : List Form) (span : Span) :
    (Join.ofArgs name (Form.bareAll args) ⟨0, 0⟩).toOption =
      (Join.ofArgs name args span).toOption := by
  match args with
  | [q, spec] =>
    simp only [Form.bareAll, Join.ofArgs, Except.toOption_bind, Query.ofForm_bare q]
    cases spec
    case vector items sp =>
      simp only [Form.bare, Except.toOption_bind, Except.toOption_pure,
        Binding.ofItems_bare items]
    case map pairs sp =>
      simp only [Form.bare, Except.toOption_bind, resolveKeys_bare,
        Join.ofOptions_bare name _ pairs]
    all_goals simp only [Form.bare, Except.toOption_error]
  | [] | [_] | _ :: _ :: _ :: _ => simp [Form.bareAll, Join.ofArgs]
termination_by 2 * sizeOf args
decreasing_by
  all_goals (simp only [List.cons.sizeOf_spec, Form.vector.sizeOf_spec,
    Form.map.sizeOf_spec]; omega)

theorem Join.ofOptions_bare (name : String) (query : Query) (pairs : List (Form × Form))
    (bind : List Binding) (args : Option (List Binding)) :
    (Join.ofOptions name query (Form.barePairs pairs) bind args).toOption =
      (Join.ofOptions name query pairs bind args).toOption := by
  match pairs with
  | [] => rfl
  | (k, v) :: rest =>
    simp only [Form.barePairs, Join.ofOptions, keyText_bare, Except.toOption_ite,
      Except.toOption_bind, Except.toOption_error, Binding.ofVector_bare v,
      Join.ofOptions_bare name query rest]
termination_by 2 * sizeOf pairs
decreasing_by all_goals (simp only [List.cons.sizeOf_spec, Prod.mk.sizeOf_spec]; omega)

theorem Binding.ofVector_bare (f : Form) :
    (Binding.ofVector f.bare).toOption = (Binding.ofVector f).toOption := by
  cases f
  case vector items sp => simp only [Form.bare, Binding.ofVector, Binding.ofItems_bare items]
  all_goals simp only [Form.bare, Binding.ofVector, Except.toOption_error]
termination_by 2 * sizeOf f
decreasing_by all_goals (simp only [Form.vector.sizeOf_spec]; omega)

theorem Binding.ofItems_bare (items : List Form) :
    (Binding.ofItems (Form.bareAll items)).toOption = (Binding.ofItems items).toOption := by
  match items with
  | [] => rfl
  | f :: rest =>
    cases f
    case symbol name s =>
      simp only [Form.bareAll, Form.bare, Binding.ofItems, Except.toOption_bind,
        Except.toOption_pure, Binding.ofItems_bare rest]
    case map pairs s =>
      simp only [Form.bareAll, Form.bare, Binding.ofItems, Except.toOption_bind,
        Except.toOption_pure, resolveKeys_bare, Binding.ofEntries_bare none pairs,
        Binding.ofItems_bare rest]
    case nsMap ns pairs s =>
      simp only [Form.bareAll, Form.bare, Binding.ofItems, Except.toOption_bind,
        Except.toOption_pure, resolveKeys_bare, Binding.ofEntries_bare (some ns) pairs,
        Binding.ofItems_bare rest]
    all_goals simp only [Form.bareAll, Form.bare, Binding.ofItems, Except.toOption_error]
termination_by 2 * sizeOf items
decreasing_by
  all_goals (simp only [List.cons.sizeOf_spec, Form.map.sizeOf_spec, Form.nsMap.sizeOf_spec]; omega)

theorem Binding.ofEntries_bare (ns : Option String) (pairs : List (Form × Form)) :
    (Binding.ofEntries ns (Form.barePairs pairs)).toOption =
      (Binding.ofEntries ns pairs).toOption := by
  match pairs with
  | [] => rfl
  | (k, v) :: rest =>
    simp only [Form.barePairs, Binding.ofEntries, Except.toOption_bind, Except.toOption_pure,
      keyText_bare, Expr.ofForm_bare v, Binding.ofEntries_bare ns rest]
termination_by 2 * sizeOf pairs
decreasing_by all_goals (simp only [List.cons.sizeOf_spec, Prod.mk.sizeOf_spec]; omega)

theorem Expr.ofForm_bare (f : Form) :
    (Expr.ofForm f.bare).toOption = (Expr.ofForm f).toOption := by
  cases f
  case vector items sp | set items sp =>
    simp only [Form.bare, Expr.ofForm, Except.toOption_map, Expr.ofForms_bare items]
  case map pairs sp =>
    simp only [Form.bare, Expr.ofForm, Except.toOption_bind, Except.toOption_map,
      resolveKeys_bare, Expr.ofEntries_bare none pairs]
  case nsMap ns pairs sp =>
    simp only [Form.bare, Expr.ofForm, Except.toOption_bind, Except.toOption_map,
      resolveKeys_bare, Expr.ofEntries_bare (some ns) pairs]
  case tagged tag v sp =>
    simp only [Form.bare, Expr.ofForm, Except.toOption_map, Expr.ofForm_bare v]
  case list items sp => simp only [Form.bare, Expr.ofForm, Expr.ofCall_bare items sp]
  all_goals simp only [Form.bare, Expr.ofForm]
termination_by 2 * sizeOf f
decreasing_by
  all_goals (simp only [Form.vector.sizeOf_spec, Form.map.sizeOf_spec, Form.nsMap.sizeOf_spec,
    Form.list.sizeOf_spec, Form.set.sizeOf_spec, Form.tagged.sizeOf_spec]; omega)

theorem Expr.ofForms_bare (fs : List Form) :
    (Expr.ofForms (Form.bareAll fs)).toOption = (Expr.ofForms fs).toOption := by
  match fs with
  | [] => rfl
  | f :: rest =>
    simp only [Form.bareAll, Expr.ofForms, Except.toOption_bind, Except.toOption_pure,
      Expr.ofForm_bare f, Expr.ofForms_bare rest]
termination_by 2 * sizeOf fs
decreasing_by all_goals (simp only [List.cons.sizeOf_spec]; omega)

theorem Expr.ofEntries_bare (ns : Option String) (pairs : List (Form × Form)) :
    (Expr.ofEntries ns (Form.barePairs pairs)).toOption = (Expr.ofEntries ns pairs).toOption := by
  match pairs with
  | [] => rfl
  | (k, v) :: rest =>
    simp only [Form.barePairs, Expr.ofEntries, Except.toOption_bind, Except.toOption_pure,
      keyText_bare, Expr.ofForm_bare v, Expr.ofEntries_bare ns rest]
termination_by 2 * sizeOf pairs
decreasing_by all_goals (simp only [List.cons.sizeOf_spec, Prod.mk.sizeOf_spec]; omega)

theorem Expr.ofCall_bare (items : List Form) (span : Span) :
    (Expr.ofCall (Form.bareAll items) ⟨0, 0⟩).toOption = (Expr.ofCall items span).toOption := by
  match items with
  | [] => simp only [Form.bareAll, Expr.ofCall, Except.toOption_error]
  | g :: rest =>
    cases g
    case symbol function s =>
      simp only [Form.bareAll, Form.bare, Expr.ofCall]
      cases SubqueryOp.ofName? function with
      | none => simp only [Except.toOption_map, Expr.ofForms_bare rest]
      | some op =>
        rcases rest with _ | ⟨q, _ | ⟨opts, _ | ⟨x, rest⟩⟩⟩
        · simp only [Form.bareAll, Except.toOption_error]
        · simp only [Form.bareAll, Except.toOption_bind, Except.toOption_pure,
            Query.ofForm_bare q]
        · simp only [Form.bareAll, Except.toOption_bind, Query.ofForm_bare q]
          cases opts
          case map pairs sp =>
            simp only [Form.bare, Except.toOption_bind, Except.toOption_pure, resolveKeys_bare,
              Expr.subqueryArgs_bare function pairs]
          all_goals simp only [Form.bare, Except.toOption_error]
        · simp only [Form.bareAll, Except.toOption_error]
    all_goals simp only [Form.bareAll, Form.bare, Expr.ofCall, Except.toOption_error]
termination_by 2 * sizeOf items
decreasing_by all_goals (simp only [List.cons.sizeOf_spec, Form.map.sizeOf_spec]; omega)

theorem Expr.subqueryArgs_bare (function : String) (pairs : List (Form × Form))
    (args : Option (List Binding)) :
    (Expr.subqueryArgs function (Form.barePairs pairs) args).toOption =
      (Expr.subqueryArgs function pairs args).toOption := by
  match pairs with
  | [] => rfl
  | (k, v) :: rest =>
    simp only [Form.barePairs, Expr.subqueryArgs, keyText_bare, Except.toOption_ite,
      Except.toOption_bind, Except.toOption_error, Binding.ofVector_bare v,
      Expr.subqueryArgs_bare function rest]
termination_by 2 * sizeOf pairs
decreasing_by all_goals (simp only [List.cons.sizeOf_spec, Prod.mk.sizeOf_spec]; omega)

end

/-- Forms equal up to spans parse to the same query. -/
theorem Query.ofForm_eq_of_bare_eq {f f' : Form} (h : f'.bare = f.bare) {q : Query}
    (hq : Query.ofForm f = .ok q) : Query.ofForm f' = .ok q := by
  have e : (Query.ofForm f').toOption = (Query.ofForm f).toOption := by
    rw [← Query.ofForm_bare f', h, Query.ofForm_bare f]
  rw [hq, Except.toOption_ok] at e
  exact Except.toOption_eq_some.1 e

end Xtql
