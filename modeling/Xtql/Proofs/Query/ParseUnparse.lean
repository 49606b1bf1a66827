import Xtql.Proofs.Edn.ReadPrint
import Xtql.Proofs.Query.Unparse
import Xtql.Proofs.Query.Spans

/-!
The parser reads every well-formed query back from its form, and so from its printed text.
-/

namespace Xtql

open Xtql.Edn

/-! ### Forms up to spans -/

namespace Edn

variable {g : Form} {gs : List Form} {ps : List (Form × Form)}

theorem bare_eq_list {xs : List Form} (h : g.bare = .list xs ⟨0, 0⟩) :
    ∃ ys sp, g = .list ys sp ∧ Form.bareAll ys = xs := by
  cases g <;> simp_all [Form.bare]

theorem bare_eq_vector {xs : List Form} (h : g.bare = .vector xs ⟨0, 0⟩) :
    ∃ ys sp, g = .vector ys sp ∧ Form.bareAll ys = xs := by
  cases g <;> simp_all [Form.bare]

theorem bare_eq_set {xs : List Form} (h : g.bare = .set xs ⟨0, 0⟩) :
    ∃ ys sp, g = .set ys sp ∧ Form.bareAll ys = xs := by
  cases g <;> simp_all [Form.bare]

theorem bare_eq_map {xs : List (Form × Form)} (h : g.bare = .map xs ⟨0, 0⟩) :
    ∃ ys sp, g = .map ys sp ∧ Form.barePairs ys = xs := by
  cases g <;> simp_all [Form.bare]

theorem bare_eq_tagged {tag : String} {x : Form} (h : g.bare = .tagged tag x ⟨0, 0⟩) :
    ∃ v sp, g = .tagged tag v sp ∧ v.bare = x := by
  cases g <;> simp_all [Form.bare]

theorem bare_eq_symbol {n : String} (h : g.bare = .symbol n ⟨0, 0⟩) :
    ∃ sp, g = .symbol n sp := by
  cases g <;> simp_all [Form.bare]

theorem bare_eq_keyword {n : String} (h : g.bare = .keyword n ⟨0, 0⟩) :
    ∃ sp, g = .keyword n sp := by
  cases g <;> simp_all [Form.bare]

theorem bare_eq_int {n : Int} (h : g.bare = .int n ⟨0, 0⟩) : ∃ sp, g = .int n sp := by
  cases g <;> simp_all [Form.bare]

theorem bareAll_eq_nil (h : Form.bareAll gs = []) : gs = [] := by
  cases gs <;> simp_all [Form.bareAll]

theorem bareAll_eq_cons {x : Form} {xs : List Form} (h : Form.bareAll gs = x :: xs) :
    ∃ y ys, gs = y :: ys ∧ y.bare = x ∧ Form.bareAll ys = xs := by
  cases gs with
  | nil => simp [Form.bareAll] at h
  | cons y ys =>
    simp only [Form.bareAll, List.cons.injEq] at h
    exact ⟨y, ys, rfl, h⟩

theorem bareAll_eq_singleton {x : Form} (h : Form.bareAll gs = [x]) :
    ∃ y, gs = [y] ∧ y.bare = x := by
  obtain ⟨y, ys, rfl, hy, hys⟩ := bareAll_eq_cons h
  exact ⟨y, by rw [bareAll_eq_nil hys], hy⟩

theorem bareAll_eq_pair {x x' : Form} (h : Form.bareAll gs = [x, x']) :
    ∃ y y', gs = [y, y'] ∧ y.bare = x ∧ y'.bare = x' := by
  obtain ⟨y, ys, rfl, hy, hys⟩ := bareAll_eq_cons h
  obtain ⟨y', rfl, hy'⟩ := bareAll_eq_singleton hys
  exact ⟨y, y', rfl, hy, hy'⟩

theorem barePairs_eq_nil (h : Form.barePairs ps = []) : ps = [] := by
  cases ps <;> simp_all [Form.barePairs]

theorem barePairs_eq_cons {x y : Form} {xs : List (Form × Form)}
    (h : Form.barePairs ps = (x, y) :: xs) :
    ∃ k v rest, ps = (k, v) :: rest ∧ k.bare = x ∧ v.bare = y ∧
      Form.barePairs rest = xs := by
  rcases ps with _ | ⟨⟨k, v⟩, rest⟩
  · simp [Form.barePairs] at h
  · simp only [Form.barePairs, List.cons.injEq, Prod.mk.injEq] at h
    exact ⟨k, v, rest, rfl, h.1.1, h.1.2, h.2⟩

theorem barePairs_eq_singleton {x y : Form} (h : Form.barePairs ps = [(x, y)]) :
    ∃ k v, ps = [(k, v)] ∧ k.bare = x ∧ v.bare = y := by
  obtain ⟨k, v, rest, rfl, hk, hv, hrest⟩ := barePairs_eq_cons h
  exact ⟨k, v, by rw [barePairs_eq_nil hrest], hk, hv⟩

end Edn

/-! ### Operators and keys -/

/-- A form that is `(name args..)` up to spans splits into that operator and arguments that are
`args` up to spans. -/
theorem operatorForm_of_bare (role : Role) {g : Form} {name : String} {args : List Form}
    (h : g.bare = opForm name args) :
    ∃ ys sp hlt, operatorForm role g = .ok ⟨⟨name, ys, sp⟩, hlt⟩ ∧
      Form.bareAll ys = args := by
  obtain ⟨zs, sp, rfl, hzs⟩ := bare_eq_list h
  obtain ⟨y, ys, rfl, hy, hys⟩ := bareAll_eq_cons hzs
  obtain ⟨s, rfl⟩ := bare_eq_symbol hy
  exact ⟨ys, sp, _, rfl, hys⟩

theorem keyName_of_bare_keyword {k : Form} {name : String} (h : k.bare = kwForm name) :
    keyName none k = some name := by
  rw [← keyName_bare, h]; rfl

theorem keyName_of_bare_str {k : Form} {name : String} (h : k.bare = .str name ⟨0, 0⟩) :
    keyName none k = some name := by
  rw [← keyName_bare, h]; rfl

theorem keyText_of_keyName {ns : Option String} {k : Form} {name : String}
    (h : keyName ns k = some name) : keyText ns k = name := by
  simp [keyText, h]

theorem resolveKeys_eq (ns : Option String) {ps : List (Form × Form)} {names : List String}
    (hkeys : ps.map (fun p => keyName ns p.1) = names.map some) (hnd : names.Nodup) :
    resolveKeys ns ps = .ok names := by
  -- `go` carries the names seen so far, last first
  suffices h : ∀ (ps : List (Form × Form)) (names seen : List String),
      ps.map (fun p => keyName ns p.1) = names.map some → (seen.reverse ++ names).Nodup →
      resolveKeys.go ns ps seen = .ok (seen.reverse ++ names) from h ps names [] hkeys (by simpa)
  intro ps
  induction ps with
  | nil =>
    intro names seen hk _
    cases names with
    | nil => simp [resolveKeys.go]
    | cons _ _ => simp at hk
  | cons p ps ih =>
    intro names seen hk hnd
    cases names with
    | nil => simp at hk
    | cons n names =>
      simp only [List.map_cons, List.cons.injEq] at hk
      have hn : n ∉ seen := by
        intro hmem
        have := (List.nodup_append.1 hnd).2.2
        exact this n (List.mem_reverse.2 hmem) n (List.mem_cons_self) rfl
      have step := ih names (n :: seen) hk.2 (by simpa using hnd)
      simp only [List.reverse_cons, List.append_assoc, List.singleton_append] at step
      simp [resolveKeys.go, hk.1, hn, step]

theorem keyNames_options {ps : List (Form × Form)} {entries : List (String × Form)}
    (h : Form.barePairs ps = Form.barePairs (entries.map fun (k, v) => (kwForm k, v))) :
    ps.map (fun p => keyName none p.1) = (entries.map Prod.fst).map some := by
  induction entries generalizing ps with
  | nil => simp [barePairs_eq_nil h]
  | cons e entries ih =>
    obtain ⟨k', v', rest, rfl, hk, -, hrest⟩ := barePairs_eq_cons h
    simp only [List.map_cons, keyName_of_bare_keyword hk, ih hrest]

theorem options_of_bare {g : Form} {entries : List (String × Form)}
    (h : g.bare = (optionsForm entries).bare) (hnd : (entries.map Prod.fst).Nodup) :
    ∃ ps sp, g = .map ps sp ∧ resolveKeys none ps = .ok (entries.map Prod.fst) ∧
      Form.barePairs ps = Form.barePairs (entries.map fun (k, v) => (kwForm k, v)) := by
  obtain ⟨ps, sp, rfl, hps⟩ := bare_eq_map h
  exact ⟨ps, sp, rfl, resolveKeys_eq none (keyNames_options hps) hnd, hps⟩

theorem keyNames_entries {ps : List (Form × Form)} {entries : List (String × Expr)}
    (h : Form.barePairs ps = Form.barePairs (Expr.entriesOf entries)) :
    ps.map (fun p => keyName none p.1) = (entries.map Prod.fst).map some := by
  induction entries generalizing ps with
  | nil => simp [barePairs_eq_nil h]
  | cons e entries ih =>
    obtain ⟨k, v⟩ := e
    obtain ⟨k', v', rest, rfl, hk, -, hrest⟩ := barePairs_eq_cons h
    simp only [List.map_cons, keyName_of_bare_str hk, ih hrest]

theorem bare_eq_binding {g : Form} {col : String} {e : Expr}
    (h : g.bare = (Binding.mk col e).toForm.bare) :
    ∃ k v sp, g = .map [(k, v)] sp ∧ resolveKeys none [(k, v)] = .ok [col] ∧
      keyText none k = col ∧ v.bare = e.toForm.bare := by
  obtain ⟨ps, sp, rfl, hps⟩ := bare_eq_map h
  obtain ⟨k, v, rest, rfl, hk, hv, hrest⟩ := barePairs_eq_cons hps
  rw [barePairs_eq_nil hrest]
  have hname := keyName_of_bare_str hk
  exact ⟨k, v, sp, rfl, resolveKeys_eq none (by simp [hname]) (by simp),
    keyText_of_keyName hname, hv⟩

theorem SubqueryOp.ofName?_name (op : SubqueryOp) : SubqueryOp.ofName? op.name = some op := by
  cases op <;> rfl

theorem Binding.ofVector_vector (items : List Form) (sp : Span) :
    Binding.ofVector (.vector items sp) = Binding.ofItems items := by
  rw [Binding.ofVector]

theorem Binding.itemsOf_eq_cons (bs : List Binding) : ∃ x xs, Binding.itemsOf bs = x :: xs := by
  cases bs <;> exact ⟨_, _, rfl⟩

theorem columnsOfForms_of_bare {ys : List Form} {columns : List String}
    (h : Form.bareAll ys = Form.bareAll (columns.map kwForm)) :
    columnsOfForms ys = .ok columns := by
  induction columns generalizing ys with
  | nil => rw [bareAll_eq_nil h]; rfl
  | cons c cs ih =>
    obtain ⟨y, ys, rfl, hy, hys⟩ := bareAll_eq_cons h
    obtain ⟨sp, rfl⟩ := bare_eq_keyword hy
    have hrest := ih hys
    simp only [columnsOfForms, List.mapM_cons] at hrest ⊢
    rw [hrest]; rfl

/-! ### Operator forms -/

section OperatorForms

variable {g : Form} {name : String} {args : List Form}

theorem Query.ofForm_of_bare (h : g.bare = opForm name args) :
    ∃ ys sp, Query.ofForm g = Query.ofOperator name ys sp ∧ Form.bareAll ys = args := by
  obtain ⟨ys, sp, _, hop, hys⟩ := operatorForm_of_bare .query h
  exact ⟨ys, sp, by rw [Query.ofForm, hop]; rfl, hys⟩

theorem Tail.ofForm_of_bare (h : g.bare = opForm name args) :
    ∃ ys sp, Tail.ofForm g = Tail.ofOperator name ys sp ∧ Form.bareAll ys = args := by
  obtain ⟨ys, sp, _, hop, hys⟩ := operatorForm_of_bare .tail h
  exact ⟨ys, sp, by rw [Tail.ofForm, hop]; rfl, hys⟩

theorem Clause.ofForm_of_bare (h : g.bare = opForm name args) :
    ∃ ys sp, Clause.ofForm g = Clause.ofOperator name ys sp ∧ Form.bareAll ys = args := by
  obtain ⟨ys, sp, _, hop, hys⟩ := operatorForm_of_bare .clause h
  exact ⟨ys, sp, by rw [Clause.ofForm, hop]; rfl, hys⟩

theorem TemporalFilter.ofForm_of_bare (h : g.bare = opForm name args) :
    ∃ ys sp, TemporalFilter.ofForm g = TemporalFilter.ofOperator name ys sp ∧
      Form.bareAll ys = args := by
  obtain ⟨ys, sp, _, hop, hys⟩ := operatorForm_of_bare .temporalFilter h
  obtain ⟨zs, sp', rfl, -⟩ := bare_eq_list h
  exact ⟨ys, sp, by rw [TemporalFilter.ofForm.eq_def, hop]; rfl, hys⟩

end OperatorForms

theorem OrderSpec.ofOptions_dirNulls {ps : List (Form × Form)} {dir : Option Direction}
    {nulls : Option NullOrder}
    (hps : Form.barePairs ps = Form.barePairs (((dir.map fun d => ("dir", kwForm d.name)).toList ++
      (nulls.map fun n => ("nulls", kwForm n.name)).toList).map fun (k, v) => (kwForm k, v)))
    (span : Span) (val : Expr) :
    OrderSpec.ofOptions ps span (some val) none none = .ok (.mk val dir nulls) := by
  rcases dir with _ | d <;> rcases nulls with _ | n <;>
    simp only [Option.map, Option.toList, List.nil_append, List.cons_append, List.map_cons,
      List.map_nil] at hps
  · rw [barePairs_eq_nil hps, OrderSpec.ofOptions]
  · obtain ⟨k, v, rest, rfl, hk, hv, hrest⟩ := barePairs_eq_cons hps
    obtain ⟨sp, rfl⟩ := bare_eq_keyword hv
    rw [barePairs_eq_nil hrest]
    cases n <;> simp [OrderSpec.ofOptions.eq_def, NullOrder.name,
      keyText_of_keyName (keyName_of_bare_keyword hk)]
  · obtain ⟨k, v, rest, rfl, hk, hv, hrest⟩ := barePairs_eq_cons hps
    obtain ⟨sp, rfl⟩ := bare_eq_keyword hv
    rw [barePairs_eq_nil hrest]
    cases d <;> simp [OrderSpec.ofOptions.eq_def, Direction.name,
      keyText_of_keyName (keyName_of_bare_keyword hk)]
  · obtain ⟨k, v, rest, rfl, hk, hv, hrest⟩ := barePairs_eq_cons hps
    obtain ⟨sp, rfl⟩ := bare_eq_keyword hv
    obtain ⟨k', v', rest', rfl, hk', hv', hrest'⟩ := barePairs_eq_cons hrest
    obtain ⟨sp', rfl⟩ := bare_eq_keyword hv'
    rw [barePairs_eq_nil hrest']
    cases d <;> cases n <;>
      simp [OrderSpec.ofOptions.eq_def, Direction.name, NullOrder.name,
        keyText_of_keyName (keyName_of_bare_keyword hk),
        keyText_of_keyName (keyName_of_bare_keyword hk')]

theorem Scan.args_of_filter {table : String} {bind : List Binding} {vt st : Option TemporalFilter}
    (h : ¬(vt = none ∧ st = none)) :
    (Scan.mk table bind vt st).args = [kwForm table,
      optionsForm (("bind", .vector (Binding.formsOf bind) ⟨0, 0⟩) ::
        (TemporalFilter.entry "for-valid-time" vt ++
          TemporalFilter.entry "for-system-time" st))] := by
  rcases vt with _ | tv <;> rcases st with _ | ts <;> simp_all [Scan.args]

theorem Scan.ofOptions_bind {table : String} {k v : Form} {rest : List (Form × Form)}
    {bind : List Binding} (hk : k.bare = kwForm "bind") (hbind : Binding.ofVector v = .ok bind) :
    Scan.ofOptions table ((k, v) :: rest) [] none none =
      Scan.ofOptions table rest bind none none := by
  simp only [Scan.ofOptions, keyText_of_keyName (keyName_of_bare_keyword hk), hbind]
  rfl

/-! ### Parsing the form of a query

The theorems recurse on twice the size of the syntax they read back, so that
`Binding.ofItems_itemsOf` can rank just above `Binding.ofItems_unparse` on the same list.
-/

mutual

/-- The parser reads a well-formed query back from every form that is its form up to spans. -/
theorem Query.ofForm_unparse (q : Query) (hq : q.wellFormed = true) (g : Form)
    (hg : g.bare = q.toForm.bare) : Query.ofForm g = .ok q := by
  match q with
  | .scan s =>
    obtain ⟨ys, sp, heq, hys⟩ := Query.ofForm_of_bare hg
    rw [heq, Query.ofOperator.eq_def]
    simp only [QueryOp.ofName?, Scan.ofArgs_unparse s hq ys hys]
    rfl
  | .pipeline head tails =>
    simp only [Query.wellFormed, Bool.and_eq_true] at hq
    obtain ⟨ys, sp, heq, hys⟩ := Query.ofForm_of_bare hg
    obtain ⟨y, ys', rfl, hy, hys'⟩ := bareAll_eq_cons hys
    rw [heq, Query.ofOperator.eq_def]
    simp only [QueryOp.ofName?, Query.ofForm_unparse head hq.1 y hy,
      Tail.ofForms_unparse tails hq.2 ys' hys']
    rfl
  | .unify [] => simp [Query.wellFormed] at hq
  | .unify (c :: cs) =>
    obtain ⟨ys, sp, heq, hys⟩ := Query.ofForm_of_bare hg
    obtain ⟨y, ys', rfl, -, -⟩ := bareAll_eq_cons hys
    rw [heq, Query.ofOperator.eq_def]
    simp only [QueryOp.ofName?, Clause.ofForms_unparse (c :: cs) hq _ hys]
    rfl
  | .rel r =>
    obtain ⟨ys, sp, heq, hys⟩ := Query.ofForm_of_bare hg
    rw [heq, Query.ofOperator.eq_def]
    simp only [QueryOp.ofName?, Rel.ofArgs_unparse r hq ys hys]
    rfl
termination_by 2 * sizeOf q
decreasing_by
  all_goals (simp only [Query.scan.sizeOf_spec, Query.pipeline.sizeOf_spec, Query.unify.sizeOf_spec,
    Query.rel.sizeOf_spec, List.cons.sizeOf_spec]; omega)

theorem Scan.ofArgs_unparse (s : Scan) (hs : s.wellFormed = true) (ys : List Form)
    (hys : Form.bareAll ys = Form.bareAll s.args) (name : String) (span : Span) :
    Scan.ofArgs name ys span = .ok s := by
  match s with
  | .mk table bind vt st =>
    simp only [Scan.wellFormed, Bool.and_eq_true] at hs
    by_cases hnone : vt = none ∧ st = none
    · -- no filter: the bind vector alone
      obtain ⟨rfl, rfl⟩ := hnone
      obtain ⟨y, z, rfl, hy, hz⟩ := bareAll_eq_pair hys
      obtain ⟨sp, rfl⟩ := bare_eq_keyword hy
      obtain ⟨ws, sp', rfl, hws⟩ := bare_eq_vector hz
      simp only [Scan.ofArgs, Binding.ofItems_unparse bind hs.1.1 ws hws]
      rfl
    · rw [Scan.args_of_filter hnone] at hys
      obtain ⟨y, z, rfl, hy, hz⟩ := bareAll_eq_pair hys
      obtain ⟨sp, rfl⟩ := bare_eq_keyword hy
      obtain ⟨ps, sp', rfl, hres, hps⟩ := options_of_bare hz
        (by rcases vt with _ | _ <;> rcases st with _ | _ <;> simp [TemporalFilter.entry])
      obtain ⟨k, v, rest, rfl, hk, hv, hrest⟩ := barePairs_eq_cons hps
      obtain ⟨ws, sp'', rfl, hws⟩ := bare_eq_vector hv
      have hbind : Binding.ofVector (.vector ws sp'') = .ok bind := by
        rw [Binding.ofVector_vector, Binding.ofItems_unparse bind hs.1.1 ws hws]
      simp only [Scan.ofArgs, hres, Scan.ofOptions_bind hk hbind]
      exact Scan.ofOptions_unparse table bind vt st hs.1.2 hs.2 rest hrest
termination_by 2 * sizeOf s
decreasing_by all_goals (simp only [Scan.mk.sizeOf_spec]; omega)

theorem Scan.ofOptions_unparse (table : String) (bind : List Binding)
    (vt st : Option TemporalFilter) (hvt : TemporalFilter.optWellFormed vt = true)
    (hst : TemporalFilter.optWellFormed st = true) (ps : List (Form × Form))
    (hps : Form.barePairs ps = Form.barePairs ((TemporalFilter.entry "for-valid-time" vt ++
      TemporalFilter.entry "for-system-time" st).map fun (k, v) => (kwForm k, v))) :
    Scan.ofOptions table ps bind none none = .ok (.mk table bind vt st) := by
  match vt, st with
  | none, none => rw [barePairs_eq_nil hps, Scan.ofOptions.eq_def]
  | some tv, none =>
    obtain ⟨k, v, rfl, hk, hv⟩ := barePairs_eq_singleton hps
    simp only [Scan.ofOptions, keyText_of_keyName (keyName_of_bare_keyword hk),
      TemporalFilter.ofForm_unparse tv hvt v hv]
    rfl
  | none, some ts =>
    obtain ⟨k, v, rfl, hk, hv⟩ := barePairs_eq_singleton hps
    simp only [Scan.ofOptions, keyText_of_keyName (keyName_of_bare_keyword hk),
      TemporalFilter.ofForm_unparse ts hst v hv]
    rfl
  | some tv, some ts =>
    obtain ⟨k, v, rest, rfl, hk, hv, hrest⟩ := barePairs_eq_cons hps
    obtain ⟨k', v', rfl, hk', hv'⟩ := barePairs_eq_singleton hrest
    simp only [Scan.ofOptions, keyText_of_keyName (keyName_of_bare_keyword hk),
      keyText_of_keyName (keyName_of_bare_keyword hk'), TemporalFilter.ofForm_unparse tv hvt v hv,
      TemporalFilter.ofForm_unparse ts hst v' hv']
    rfl
termination_by 2 * (sizeOf vt + sizeOf st)
decreasing_by all_goals (simp only [Option.some.sizeOf_spec]; omega)

theorem Rel.ofArgs_unparse (r : Rel) (hr : r.wellFormed = true) (ys : List Form)
    (hys : Form.bareAll ys = Form.bareAll r.args) (name : String) (span : Span) :
    Rel.ofArgs name ys span = .ok r := by
  match r with
  | .mk rows bind =>
    simp only [Rel.wellFormed, Bool.and_eq_true] at hr
    obtain ⟨y, z, rfl, hy, hz⟩ := bareAll_eq_pair hys
    obtain ⟨ws, sp, rfl, hws⟩ := bare_eq_vector hz
    simp only [Rel.ofArgs, Expr.ofForm_unparse rows hr.1 y hy, Binding.ofVector_vector,
      Binding.ofItems_unparse bind hr.2 ws hws]
    rfl
termination_by 2 * sizeOf r
decreasing_by all_goals (simp only [Rel.mk.sizeOf_spec]; omega)

theorem TemporalFilter.ofForm_unparse (tf : TemporalFilter) (htf : tf.wellFormed = true)
    (g : Form) (hg : g.bare = tf.toForm.bare) : TemporalFilter.ofForm g = .ok tf := by
  match tf with
  | .asOf t | .fromTime t | .toTime t =>
    obtain ⟨ys, sp, heq, hys⟩ := TemporalFilter.ofForm_of_bare hg
    obtain ⟨y, rfl, hy⟩ := bareAll_eq_singleton hys
    rw [heq, TemporalFilter.ofOperator.eq_def]
    simp only [TemporalOp.ofName?, Expr.ofForm_unparse t htf y hy]
    rfl
  | .between a b =>
    simp only [TemporalFilter.wellFormed, Bool.and_eq_true] at htf
    obtain ⟨ys, sp, heq, hys⟩ := TemporalFilter.ofForm_of_bare hg
    obtain ⟨y, z, rfl, hy, hz⟩ := bareAll_eq_pair hys
    rw [heq, TemporalFilter.ofOperator.eq_def]
    simp only [TemporalOp.ofName?, Expr.ofForm_unparse a htf.1 y hy,
      Expr.ofForm_unparse b htf.2 z hz]
    rfl
  | .allTime =>
    obtain ⟨sp, rfl⟩ := bare_eq_keyword hg
    rw [TemporalFilter.ofForm.eq_def]
    rfl
termination_by 2 * sizeOf tf
decreasing_by
  all_goals (simp only [TemporalFilter.asOf.sizeOf_spec, TemporalFilter.fromTime.sizeOf_spec,
    TemporalFilter.toTime.sizeOf_spec, TemporalFilter.between.sizeOf_spec]; omega)

theorem Tail.ofForm_unparse (t : Tail) (ht : t.wellFormed = true) (g : Form)
    (hg : g.bare = t.toForm.bare) : Tail.ofForm g = .ok t := by
  match t with
  | .filter [] => simp [Tail.wellFormed] at ht
  | .filter (c :: cs) =>
    obtain ⟨ys, sp, heq, hys⟩ := Tail.ofForm_of_bare hg
    obtain ⟨y, ys', rfl, -, -⟩ := bareAll_eq_cons hys
    rw [heq, Tail.ofOperator.eq_def]
    simp only [TailOp.ofName?, Expr.ofForms_unparse (c :: cs) ht _ hys]
    rfl
  | .extend items | .project items | .aggregate items =>
    obtain ⟨ys, sp, heq, hys⟩ := Tail.ofForm_of_bare hg
    obtain ⟨x, xs, hx⟩ := Binding.itemsOf_eq_cons items
    obtain ⟨y, ys', rfl, -, -⟩ := bareAll_eq_cons (hys.trans (congrArg Form.bareAll hx))
    rw [heq, Tail.ofOperator.eq_def]
    simp only [TailOp.ofName?, Binding.ofItems_itemsOf items ht _ hys]
    rfl
  | .drop [] => simp [Tail.wellFormed] at ht
  | .drop (c :: cs) =>
    obtain ⟨ys, sp, heq, hys⟩ := Tail.ofForm_of_bare hg
    obtain ⟨y, ys', rfl, -, -⟩ := bareAll_eq_cons hys
    rw [heq, Tail.ofOperator.eq_def]
    simp only [TailOp.ofName?, columnsOfForms_of_bare hys]
    rfl
  | .orderBy [] => simp [Tail.wellFormed] at ht
  | .orderBy (o :: os) =>
    obtain ⟨ys, sp, heq, hys⟩ := Tail.ofForm_of_bare hg
    obtain ⟨y, ys', rfl, -, -⟩ := bareAll_eq_cons hys
    rw [heq, Tail.ofOperator.eq_def]
    simp only [TailOp.ofName?, OrderSpec.ofForms_unparse (o :: os) ht _ hys]
    rfl
  | .limit n | .offset n =>
    obtain ⟨ys, sp, heq, hys⟩ := Tail.ofForm_of_bare hg
    obtain ⟨y, rfl, hy⟩ := bareAll_eq_singleton hys
    obtain ⟨sp', rfl⟩ := bare_eq_int hy
    rw [heq, Tail.ofOperator.eq_def]
    simp only [TailOp.ofName?, countOfForm, Int.natCast_nonneg, if_true, Int.toNat_natCast]
    rfl
  | .unnest b =>
    obtain ⟨ys, sp, heq, hys⟩ := Tail.ofForm_of_bare hg
    obtain ⟨y, rfl, hy⟩ := bareAll_eq_singleton hys
    rw [heq, Tail.ofOperator.eq_def]
    simp only [TailOp.ofName?, Binding.ofUnnest_unparse b ht y hy]
    rfl
termination_by 2 * sizeOf t
decreasing_by
  all_goals (simp only [Tail.filter.sizeOf_spec, Tail.extend.sizeOf_spec, Tail.project.sizeOf_spec,
    Tail.aggregate.sizeOf_spec, Tail.orderBy.sizeOf_spec, Tail.unnest.sizeOf_spec,
    List.cons.sizeOf_spec]; omega)

theorem Tail.ofForms_unparse (ts : List Tail) (hts : Tail.allWellFormed ts = true)
    (gs : List Form) (hgs : Form.bareAll gs = Form.bareAll (Tail.formsOf ts)) :
    Tail.ofForms gs = .ok ts := by
  match ts with
  | [] => rw [bareAll_eq_nil hgs, Tail.ofForms]
  | t :: ts =>
    simp only [Tail.allWellFormed, Bool.and_eq_true] at hts
    obtain ⟨g, gs', rfl, hg, hgs'⟩ := bareAll_eq_cons hgs
    simp only [Tail.ofForms, Tail.ofForm_unparse t hts.1 g hg,
      Tail.ofForms_unparse ts hts.2 gs' hgs']
    rfl
termination_by 2 * sizeOf ts
decreasing_by all_goals (simp only [List.cons.sizeOf_spec]; omega)

theorem Clause.ofForm_unparse (c : Clause) (hc : c.wellFormed = true) (g : Form)
    (hg : g.bare = c.toForm.bare) : Clause.ofForm g = .ok c := by
  match c with
  | .scan s =>
    obtain ⟨ys, sp, heq, hys⟩ := Clause.ofForm_of_bare hg
    rw [heq, Clause.ofOperator.eq_def]
    simp only [ClauseOp.ofName?, Scan.ofArgs_unparse s hc ys hys]
    rfl
  | .rel r =>
    obtain ⟨ys, sp, heq, hys⟩ := Clause.ofForm_of_bare hg
    rw [heq, Clause.ofOperator.eq_def]
    simp only [ClauseOp.ofName?, Rel.ofArgs_unparse r hc ys hys]
    rfl
  | .filter [] => simp [Clause.wellFormed] at hc
  | .filter (e :: es) =>
    obtain ⟨ys, sp, heq, hys⟩ := Clause.ofForm_of_bare hg
    obtain ⟨y, ys', rfl, -, -⟩ := bareAll_eq_cons hys
    rw [heq, Clause.ofOperator.eq_def]
    simp only [ClauseOp.ofName?, Expr.ofForms_unparse (e :: es) hc _ hys]
    rfl
  | .extend items =>
    obtain ⟨ys, sp, heq, hys⟩ := Clause.ofForm_of_bare hg
    obtain ⟨x, xs, hx⟩ := Binding.itemsOf_eq_cons items
    obtain ⟨y, ys', rfl, -, -⟩ := bareAll_eq_cons (hys.trans (congrArg Form.bareAll hx))
    rw [heq, Clause.ofOperator.eq_def]
    simp only [ClauseOp.ofName?, Binding.ofItems_itemsOf items hc _ hys]
    rfl
  | .join j | .leftJoin j =>
    obtain ⟨ys, sp, heq, hys⟩ := Clause.ofForm_of_bare hg
    rw [heq, Clause.ofOperator.eq_def]
    simp only [ClauseOp.ofName?, Join.ofArgs_unparse j hc ys hys]
    rfl
  | .unnest b =>
    obtain ⟨ys, sp, heq, hys⟩ := Clause.ofForm_of_bare hg
    obtain ⟨y, rfl, hy⟩ := bareAll_eq_singleton hys
    rw [heq, Clause.ofOperator.eq_def]
    simp only [ClauseOp.ofName?, Binding.ofUnnest_unparse b hc y hy]
    rfl
termination_by 2 * sizeOf c
decreasing_by
  all_goals (simp only [List.cons.sizeOf_spec, Clause.scan.sizeOf_spec, Clause.rel.sizeOf_spec,
    Clause.filter.sizeOf_spec, Clause.extend.sizeOf_spec, Clause.join.sizeOf_spec,
    Clause.leftJoin.sizeOf_spec, Clause.unnest.sizeOf_spec]; omega)

theorem Clause.ofForms_unparse (cs : List Clause) (hcs : Clause.allWellFormed cs = true)
    (gs : List Form) (hgs : Form.bareAll gs = Form.bareAll (Clause.formsOf cs)) :
    Clause.ofForms gs = .ok cs := by
  match cs with
  | [] => rw [bareAll_eq_nil hgs, Clause.ofForms]
  | c :: cs =>
    simp only [Clause.allWellFormed, Bool.and_eq_true] at hcs
    obtain ⟨g, gs', rfl, hg, hgs'⟩ := bareAll_eq_cons hgs
    simp only [Clause.ofForms, Clause.ofForm_unparse c hcs.1 g hg,
      Clause.ofForms_unparse cs hcs.2 gs' hgs']
    rfl
termination_by 2 * sizeOf cs
decreasing_by all_goals (simp only [List.cons.sizeOf_spec]; omega)

theorem Join.ofArgs_unparse (j : Join) (hj : j.wellFormed = true) (ys : List Form)
    (hys : Form.bareAll ys = Form.bareAll j.args) (name : String) (span : Span) :
    Join.ofArgs name ys span = .ok j := by
  match j with
  | .mk q bind none =>
    simp only [Join.wellFormed, Bool.and_eq_true] at hj
    obtain ⟨y, z, rfl, hy, hz⟩ := bareAll_eq_pair hys
    obtain ⟨ws, sp, rfl, hws⟩ := bare_eq_vector hz
    simp only [Join.ofArgs, Query.ofForm_unparse q hj.1.1 y hy,
      Binding.ofItems_unparse bind hj.1.2 ws hws]
    rfl
  | .mk q bind (some a) =>
    simp only [Join.wellFormed, Bool.and_eq_true] at hj
    obtain ⟨y, z, rfl, hy, hz⟩ := bareAll_eq_pair hys
    obtain ⟨ps, sp, rfl, hres, hps⟩ := options_of_bare hz (by simp [Binding.argsEntry])
    obtain ⟨k, v, rest, rfl, hk, hv, hrest⟩ := barePairs_eq_cons hps
    obtain ⟨k', v', rfl, hk', hv'⟩ := barePairs_eq_singleton hrest
    obtain ⟨ws, sp', rfl, hws⟩ := bare_eq_vector hv
    obtain ⟨ws', sp'', rfl, hws'⟩ := bare_eq_vector hv'
    simp only [Join.ofArgs, Join.ofOptions, hres, Query.ofForm_unparse q hj.1.1 y hy,
      keyText_of_keyName (keyName_of_bare_keyword hk),
      keyText_of_keyName (keyName_of_bare_keyword hk'), Binding.ofVector_vector,
      Binding.ofItems_unparse bind hj.1.2 ws hws, Binding.ofItems_unparse a hj.2 ws' hws']
    rfl
termination_by 2 * sizeOf j
decreasing_by all_goals (simp only [Option.some.sizeOf_spec, Join.mk.sizeOf_spec]; omega)

theorem OrderSpec.ofForm_unparse (o : OrderSpec) (ho : o.wellFormed = true) (g : Form)
    (hg : g.bare = o.toForm.bare) : OrderSpec.ofForm g = .ok o := by
  match o with
  | .mk val dir nulls =>
    obtain ⟨ps, sp, rfl, hres, hps⟩ := options_of_bare hg
      (by cases dir <;> cases nulls <;> simp)
    obtain ⟨k, v, rest, rfl, hk, hv, hrest⟩ := barePairs_eq_cons hps
    -- `:val` is read first, then the options that are given
    have hval : OrderSpec.ofOptions ((k, v) :: rest) sp none none none =
        .ok (.mk val dir nulls) := by
      rw [OrderSpec.ofOptions.eq_def]
      simp only [keyText_of_keyName (keyName_of_bare_keyword hk), Expr.ofForm_unparse val ho v hv,
        bind, Except.bind, OrderSpec.ofOptions_dirNulls hrest]
      rfl
    rw [OrderSpec.ofForm.eq_def]
    simp only [hres, hval]
    rfl
termination_by 2 * sizeOf o
decreasing_by all_goals (simp only [OrderSpec.mk.sizeOf_spec]; omega)

theorem OrderSpec.ofForms_unparse (os : List OrderSpec) (hos : OrderSpec.allWellFormed os = true)
    (gs : List Form) (hgs : Form.bareAll gs = Form.bareAll (OrderSpec.formsOf os)) :
    OrderSpec.ofForms gs = .ok os := by
  match os with
  | [] => rw [bareAll_eq_nil hgs, OrderSpec.ofForms]
  | o :: os =>
    simp only [OrderSpec.allWellFormed, Bool.and_eq_true] at hos
    obtain ⟨g, gs', rfl, hg, hgs'⟩ := bareAll_eq_cons hgs
    simp only [OrderSpec.ofForms, OrderSpec.ofForm_unparse o hos.1 g hg,
      OrderSpec.ofForms_unparse os hos.2 gs' hgs']
    rfl
termination_by 2 * sizeOf os
decreasing_by all_goals (simp only [List.cons.sizeOf_spec]; omega)

theorem Binding.ofUnnest_unparse (b : Binding) (hb : b.wellFormed = true) (g : Form)
    (hg : g.bare = b.toForm.bare) : Binding.ofUnnest g = .ok b := by
  match b with
  | .mk col e =>
    obtain ⟨k, v, sp, rfl, hres, hkey, hv⟩ := bare_eq_binding hg
    simp only [Binding.ofUnnest, hres, hkey, Expr.ofForm_unparse e hb v hv]
    rfl
termination_by 2 * sizeOf b
decreasing_by all_goals (simp only [Binding.mk.sizeOf_spec]; omega)

theorem Binding.ofItems_unparse (bs : List Binding) (hbs : Binding.allWellFormed bs = true)
    (gs : List Form) (hgs : Form.bareAll gs = Form.bareAll (Binding.formsOf bs)) :
    Binding.ofItems gs = .ok bs := by
  match bs with
  | [] => rw [bareAll_eq_nil hgs, Binding.ofItems]
  | .mk col e :: bs =>
    simp only [Binding.allWellFormed, Binding.wellFormed, Bool.and_eq_true] at hbs
    obtain ⟨g, gs', rfl, hg, hgs'⟩ := bareAll_eq_cons hgs
    obtain ⟨k, v, sp, rfl, hres, hkey, hv⟩ := bare_eq_binding hg
    simp only [Binding.ofItems, hres, Binding.ofEntries, hkey, Expr.ofForm_unparse e hbs.1 v hv,
      Binding.ofItems_unparse bs hbs.2 gs' hgs']
    rfl
termination_by 2 * sizeOf bs
decreasing_by all_goals (simp only [List.cons.sizeOf_spec, Binding.mk.sizeOf_spec]; omega)

theorem Binding.ofItems_itemsOf (bs : List Binding) (hbs : Binding.allWellFormed bs = true)
    (gs : List Form) (hgs : Form.bareAll gs = Form.bareAll (Binding.itemsOf bs)) :
    Binding.ofItems gs = .ok bs := by
  match bs with
  | [] =>
    -- no bindings are written as the one item `{}`
    obtain ⟨g, rfl, hg⟩ := bareAll_eq_singleton hgs
    obtain ⟨ps, sp, rfl, hps⟩ := bare_eq_map hg
    rw [barePairs_eq_nil hps]
    simp only [Binding.ofItems, Binding.ofEntries, resolveKeys, resolveKeys.go]
    rfl
  | b :: bs => exact Binding.ofItems_unparse (b :: bs) hbs gs hgs
termination_by 2 * sizeOf bs + 1
decreasing_by all_goals (simp only [List.cons.sizeOf_spec]; omega)

theorem Expr.ofForm_unparse (e : Expr) (he : e.wellFormed = true) (g : Form)
    (hg : g.bare = e.toForm.bare) : Expr.ofForm g = .ok e := by
  match e with
  | .var _ | .param _ | .keyword _ | .str _ | .int _ | .float _ | .bool _ | .nil =>
    cases g <;> simp_all [Form.bare, Expr.toForm, Expr.ofForm]
  | .vector items =>
    obtain ⟨ys, sp, rfl, hys⟩ := bare_eq_vector hg
    simp only [Expr.ofForm, Expr.ofForms_unparse items he ys hys]
    rfl
  | .set items =>
    obtain ⟨ys, sp, rfl, hys⟩ := bare_eq_set hg
    simp only [Expr.ofForm, Expr.ofForms_unparse items he ys hys]
    rfl
  | .map entries =>
    simp only [Expr.wellFormed, Bool.and_eq_true, decide_eq_true_eq] at he
    obtain ⟨ps, sp, rfl, hps⟩ := bare_eq_map hg
    simp only [Expr.ofForm, resolveKeys_eq none (keyNames_entries hps) he.1,
      Expr.ofEntries_unparse entries he.2 ps hps]
    rfl
  | .tagged tag v =>
    obtain ⟨w, sp, rfl, hw⟩ := bare_eq_tagged hg
    simp only [Expr.ofForm, Expr.ofForm_unparse v he w hw]
    rfl
  | .call f args =>
    simp only [Expr.wellFormed, Bool.and_eq_true, Option.isNone_iff_eq_none] at he
    obtain ⟨zs, sp, rfl, hzs⟩ := bare_eq_list hg
    obtain ⟨y, ys, rfl, hy, hys⟩ := bareAll_eq_cons hzs
    obtain ⟨sy, rfl⟩ := bare_eq_symbol hy
    simp only [Expr.ofForm, Expr.ofCall, he.1, Expr.ofForms_unparse args he.2 ys hys]
    rfl
  | .subquery op q none =>
    simp only [Expr.wellFormed, Bool.and_eq_true] at he
    obtain ⟨zs, sp, rfl, hzs⟩ := bare_eq_list hg
    obtain ⟨y, z, rfl, hy, hz⟩ := bareAll_eq_pair hzs
    obtain ⟨sy, rfl⟩ := bare_eq_symbol hy
    simp only [Expr.ofForm, Expr.ofCall, SubqueryOp.ofName?_name, Query.ofForm_unparse q he.1 z hz]
    rfl
  | .subquery op q (some a) =>
    simp only [Expr.wellFormed, Bool.and_eq_true] at he
    obtain ⟨zs, sp, rfl, hzs⟩ := bare_eq_list hg
    obtain ⟨y, ys, rfl, hy, hys⟩ := bareAll_eq_cons hzs
    obtain ⟨sy, rfl⟩ := bare_eq_symbol hy
    obtain ⟨z, w, rfl, hz, hw⟩ := bareAll_eq_pair hys
    obtain ⟨ps, sp', rfl, hres, hps⟩ := options_of_bare hw (by simp [Binding.argsEntry])
    obtain ⟨k, v, rfl, hk, hv⟩ := barePairs_eq_singleton hps
    obtain ⟨us, sp'', rfl, hus⟩ := bare_eq_vector hv
    simp only [Expr.ofForm, Expr.ofCall, SubqueryOp.ofName?_name, Query.ofForm_unparse q he.1 z hz,
      hres, Expr.subqueryArgs, keyText_of_keyName (keyName_of_bare_keyword hk),
      Binding.ofVector_vector, Binding.ofItems_unparse a he.2 us hus]
    rfl
termination_by 2 * sizeOf e
decreasing_by
  all_goals (simp only [Option.some.sizeOf_spec, Expr.vector.sizeOf_spec, Expr.set.sizeOf_spec,
    Expr.map.sizeOf_spec, Expr.tagged.sizeOf_spec, Expr.call.sizeOf_spec,
    Expr.subquery.sizeOf_spec]; omega)

theorem Expr.ofForms_unparse (es : List Expr) (hes : Expr.allWellFormed es = true)
    (gs : List Form) (hgs : Form.bareAll gs = Form.bareAll (Expr.formsOf es)) :
    Expr.ofForms gs = .ok es := by
  match es with
  | [] => rw [bareAll_eq_nil hgs, Expr.ofForms]
  | e :: es =>
    simp only [Expr.allWellFormed, Bool.and_eq_true] at hes
    obtain ⟨g, gs', rfl, hg, hgs'⟩ := bareAll_eq_cons hgs
    simp only [Expr.ofForms, Expr.ofForm_unparse e hes.1 g hg,
      Expr.ofForms_unparse es hes.2 gs' hgs']
    rfl
termination_by 2 * sizeOf es
decreasing_by all_goals (simp only [List.cons.sizeOf_spec]; omega)

theorem Expr.ofEntries_unparse (es : List (String × Expr))
    (hes : Expr.entriesWellFormed es = true) (ps : List (Form × Form))
    (hps : Form.barePairs ps = Form.barePairs (Expr.entriesOf es)) :
    Expr.ofEntries none ps = .ok es := by
  match es with
  | [] => rw [barePairs_eq_nil hps, Expr.ofEntries]
  | (key, e) :: es =>
    simp only [Expr.entriesWellFormed, Bool.and_eq_true] at hes
    obtain ⟨k, v, rest, rfl, hk, hv, hrest⟩ := barePairs_eq_cons hps
    simp only [Expr.ofEntries, keyText_of_keyName (keyName_of_bare_str hk),
      Expr.ofForm_unparse e hes.1 v hv, Expr.ofEntries_unparse es hes.2 rest hrest]
    rfl
termination_by 2 * sizeOf es
decreasing_by all_goals (simp only [List.cons.sizeOf_spec, Prod.mk.sizeOf_spec]; omega)

end

/-! ### Printing and parsing -/

/-- Printing a query's form and parsing the text back gives the query: for every query the parser
can give back whose form prints as the reader reads it, parsed with a nesting limit no smaller
than the form's depth. -/
theorem Query.parse_print_toForm (q : Query) (hq : q.wellFormed = true)
    (hp : q.toForm.printable = true) (d : Nat) (hd : q.toForm.depth ≤ d) :
    Query.parse q.toForm.print d = .ok q := by
  obtain ⟨g, hread, hg⟩ := read_print_ok q.toForm hp d hd
  rw [Query.parse, hread]
  simp only [Query.ofForm_unparse q hq g hg]

/-- A pipeline over a scan with a temporal filter, a filter, an ordering and a limit. -/
theorem Query.parse_print_pipeline :
    let q := Query.pipeline
      (.scan (.mk "users" [.mk "name" (.var "name"), .mk "age" (.var "age")]
        (some (.asOf (.tagged "inst" (.str "2024-01-01T00:00:00Z")))) none))
      [.filter [.call ">" [.var "age", .int 18]],
       .orderBy [.mk (.var "name") (some .desc) none],
       .limit 10]
    q.wellFormed = true ∧ q.toForm.printable = true ∧ q.toForm.depth ≤ 8 ∧
      Query.parse q.toForm.print 8 = .ok q := by
  intro q
  have hq : q.wellFormed = true := by decide
  have hp : q.toForm.printable = true := by decide
  have hd : q.toForm.depth ≤ 8 := by decide
  exact ⟨hq, hp, hd, Query.parse_print_toForm q hq hp 8 hd⟩

end Xtql
