import Xtql.Proofs.Query.Faults
import Xtql.Proofs.Query.Render
import Xtql.Proofs.Edn.Nodes
import Xtql.Proofs.Compile.Trivia

/-!
Map keys and floats through the parser: rendering a parsed query loses no map entry and no float
(`parse_renders_losslessly`).
-/

namespace Xtql

open Xtql.Edn

/-! ### Keys -/

/-- The keys of a map resolve to names in namespace `ns`, no two to the same name. -/
def KeysDistinct (ns : Option String) (pairs : List (Form × Form)) : Prop :=
  (∀ p ∈ pairs, (keyName ns p.1).isSome) ∧ (pairs.map fun p => keyName ns p.1).Nodup

/-- A map form resolves its keys to distinct names: plain keys as they are, and inside
`#:ns{..}` a key without `/` in `ns`. Any other form passes. -/
@[simp] def Edn.Form.KeysResolve : Form → Prop
  | .map pairs _ => KeysDistinct none pairs
  | .nsMap ns pairs _ => KeysDistinct (some ns) pairs
  | _ => True

/-- Resolving keys succeeds only on keys that resolve to distinct names. -/
theorem resolveKeys_distinct (ns : Option String) (pairs : List (Form × Form)) :
    Except.Sat (fun _ => True) (fun _ => KeysDistinct ns pairs) (resolveKeys ns pairs) := by
  -- `go` carries the names seen so far, none of which a later key may resolve to
  suffices h : ∀ seen, Except.Sat (fun _ => True)
      (fun _ => KeysDistinct ns pairs ∧ ∀ p ∈ pairs, ∀ n ∈ keyName ns p.1, n ∉ seen)
      (resolveKeys.go ns pairs seen) from
    (h []).imp fun _ h => h.1
  induction pairs with
  | nil => intro seen; exact ⟨⟨by simp, List.nodup_nil⟩, by simp⟩
  | cons p ps ih =>
    intro seen
    obtain ⟨k, v⟩ := p
    unfold resolveKeys.go
    split
    · exact trivial
    next name hname =>
      split
      · exact trivial
      next hnew =>
        refine (ih (name :: seen)).imp fun _ ⟨⟨hsome, hnd⟩, hfresh⟩ =>
          ⟨⟨?_, ?_⟩, ?_⟩
        · intro p hp
          rcases List.mem_cons.1 hp with rfl | hp
          · simp [hname]
          · exact hsome p hp
        · refine List.nodup_cons.2 ⟨fun hm => ?_, hnd⟩
          obtain ⟨p, hp, hpk⟩ := List.mem_map.1 hm
          exact hfresh p hp name (hpk.trans hname) (List.mem_cons_self ..)
        · intro p hp n hn
          rcases List.mem_cons.1 hp with rfl | hp
          · rw [hname, Option.mem_def, Option.some.injEq] at hn
            exact hn ▸ hnew
          · exact fun hs => hfresh p hp n hn (List.mem_cons_of_mem _ hs)

theorem KeysDistinct.nodup_keyText {ns : Option String} {pairs : List (Form × Form)}
    (h : KeysDistinct ns pairs) : (pairs.map fun p => keyText ns p.1).Nodup := by
  have hmap : (pairs.map fun p => keyName ns p.1) =
      (pairs.map fun p => keyText ns p.1).map some := by
    rw [List.map_map]
    refine List.map_congr_left fun p hp => ?_
    obtain ⟨n, hn⟩ := Option.isSome_iff_exists.1 (h.1 p hp)
    simp [keyText, hn]
  exact List.Pairwise.of_map some (fun _ _ hne heq => hne (congrArg some heq)) (hmap ▸ h.2)

theorem nodes_of_keyName {ns : Option String} {k : Form} (h : (keyName ns k).isSome) :
    k.nodes = [k] := by
  cases k <;> simp_all [keyName]

theorem keysResolve_of_keyName {ns : Option String} {k : Form} (h : (keyName ns k).isSome) :
    k.KeysResolve := by
  cases k <;> simp_all [keyName]

/-! ### What the readers leave of their forms -/

def KeysResolved (gs : List Form) : Prop := ∀ g ∈ gs, g.KeysResolve

def RendersFaithfully (es : List Expr) : Prop := ∀ e ∈ es, e.Faithful

section Lists

variable {g : Form} {gs gs' : List Form} {e : Expr} {es es' : List Expr}

@[simp] theorem keysResolved_nil : KeysResolved [] := fun _ h => nomatch h

@[simp] theorem keysResolved_cons : KeysResolved (g :: gs) ↔ g.KeysResolve ∧ KeysResolved gs :=
  List.forall_mem_cons

@[simp] theorem keysResolved_append :
    KeysResolved (gs ++ gs') ↔ KeysResolved gs ∧ KeysResolved gs' :=
  List.forall_mem_append

@[simp] theorem rendersFaithfully_nil : RendersFaithfully [] := fun _ h => nomatch h

@[simp] theorem rendersFaithfully_cons :
    RendersFaithfully (e :: es) ↔ e.Faithful ∧ RendersFaithfully es :=
  List.forall_mem_cons

@[simp] theorem rendersFaithfully_append :
    RendersFaithfully (es ++ es') ↔ RendersFaithfully es ∧ RendersFaithfully es' :=
  List.forall_mem_append

end Lists

theorem keysResolved_key {ns : Option String} {k : Form} (h : (keyName ns k).isSome) :
    KeysResolved k.nodes := by
  rw [nodes_of_keyName h]
  exact keysResolved_cons.2 ⟨keysResolve_of_keyName h, keysResolved_nil⟩

theorem keysResolved_operator {f : Form} {name : String} {s span : Span} {args : List Form}
    (hf : f = .list (.symbol name s :: args) span) (h : KeysResolved (Form.listNodes args)) :
    KeysResolved f.nodes := by
  subst hf
  simpa using h

theorem floatFinite_operator {f : Form} {name : String} {s span : Span} {args : List Form}
    (hf : f = .list (.symbol name s :: args) span) (hF : ∀ g ∈ f.nodes, g.FloatFinite) :
    ∀ g ∈ Form.listNodes args, g.FloatFinite := by
  subst hf
  exact fun g hg => hF g (by simp [hg])

/-- A reader settles the forms `gs`: on success every map among them resolves its keys to
distinct names, and every expression of its result renders faithfully. -/
abbrev Settles {α : Type} (gs : List Form) (exprs : α → List Expr) (x : Except Fault α) :
    Prop :=
  Except.Sat (fun _ => True) (fun a => KeysResolved gs ∧ RendersFaithfully (exprs a)) x

theorem operatorForm_shape (role : Role) (f : Form) :
    Except.Sat (fun _ => True) (fun o => ∃ s, f = .list (.symbol o.1.name s :: o.1.args) o.1.span)
      (operatorForm role f) := by
  unfold operatorForm
  split
  · exact trivial
  next name s args span => exact ⟨s, rfl⟩
  · exact trivial
  · exact trivial

theorem countOfForm_settles (name : String) (f : Form) :
    Except.Sat (fun _ => True) (fun _ => KeysResolved f.nodes) (countOfForm name f) := by
  unfold countOfForm
  split
  · split
    · simp
    · exact trivial
  · exact trivial

theorem columnsOfForms_settles (fs : List Form) :
    Except.Sat (fun _ => True) (fun _ => KeysResolved (Form.listNodes fs)) (columnsOfForms fs) := by
  induction fs with
  | nil => simp [columnsOfForms]
  | cons f fs ih =>
    simp only [columnsOfForms, List.mapM_cons] at ih ⊢
    cases f
    case keyword k s =>
      exact Except.Sat.bind (P := fun _ => True) trivial fun _ _ =>
        Except.Sat.bind ih fun _ h => by simpa using h
    all_goals exact trivial

mutual

theorem Query.ofForm_settles (f : Form) (hF : ∀ g ∈ f.nodes, g.FloatFinite) :
    Settles f.nodes Query.exprs (Query.ofForm f) := by
  unfold Query.ofForm
  refine (operatorForm_shape .query f).bind fun ⟨o, ho⟩ ⟨s, hf⟩ => ?_
  exact (Query.ofOperator_settles o.name o.args o.span (floatFinite_operator hf hF)).imp
    fun _ ⟨hk, he⟩ => ⟨keysResolved_operator hf hk, he⟩
termination_by 2 * sizeOf f
decreasing_by all_goals omega

theorem Query.ofOperator_settles (name : String) (args : List Form) (span : Span)
    (hF : ∀ g ∈ Form.listNodes args, g.FloatFinite) :
    Settles (Form.listNodes args) Query.exprs (Query.ofOperator name args span) := by
  unfold Query.ofOperator
  split
  · exact trivial
  · exact (Scan.ofArgs_settles name args span hF).map fun _ h => h
  · exact (Rel.ofArgs_settles name args span hF).map fun _ h => h
  · split
    · exact trivial
    next first rest =>
      simp only [Form.listNodes, List.forall_mem_append] at hF
      exact (Query.ofForm_settles first hF.1).bind fun _ ⟨hk1, he1⟩ =>
        (Tail.ofForms_settles rest hF.2).bind fun _ ⟨hk2, he2⟩ => by simp [hk1, hk2, he1, he2]
  · split
    · exact trivial
    next c cs => exact (Clause.ofForms_settles (c :: cs) hF).map fun _ h => h
termination_by 2 * sizeOf args + 1
decreasing_by all_goals (subst_vars; simp -failIfUnchanged only [List.cons.sizeOf_spec]; omega)

theorem Scan.ofArgs_settles (name : String) (args : List Form) (span : Span)
    (hF : ∀ g ∈ Form.listNodes args, g.FloatFinite) :
    Settles (Form.listNodes args) Scan.exprs (Scan.ofArgs name args span) := by
  unfold Scan.ofArgs
  split
  next table _ spec =>
    split
    next items _ =>
      exact (Binding.ofItems_settles items fun g hg => hF g (by simp [hg])).bind
        fun _ ⟨hk, he⟩ => by simp [hk, he]
    next pairs _ =>
      exact (resolveKeys_distinct none pairs).bind fun _ hd =>
        (Scan.ofOptions_settles table pairs [] none none hd.1 (fun g hg => hF g (by simp [hg]))
          (by simp) (by simp) (by simp)).imp fun _ ⟨hk, he⟩ => ⟨by simp [hd, hk], he⟩
    next => exact trivial
  · exact trivial
  · exact trivial
termination_by 2 * sizeOf args
decreasing_by
  all_goals (subst_vars; simp only [List.cons.sizeOf_spec, Form.vector.sizeOf_spec,
    Form.map.sizeOf_spec]; omega)

theorem Scan.ofOptions_settles (table : String) (pairs : List (Form × Form))
    (bind : List Binding) (validTime systemTime : Option TemporalFilter)
    (hkeys : ∀ p ∈ pairs, (keyName none p.1).isSome)
    (hF : ∀ g ∈ Form.pairsNodes pairs, g.FloatFinite)
    (hb : RendersFaithfully (Binding.listExprs bind))
    (hv : RendersFaithfully (TemporalFilter.optExprs validTime))
    (hs : RendersFaithfully (TemporalFilter.optExprs systemTime)) :
    Settles (Form.pairsNodes pairs) Scan.exprs
      (Scan.ofOptions table pairs bind validTime systemTime) := by
  unfold Scan.ofOptions
  split
  · simp [hb, hv, hs]
  next k v rest =>
    have hk := keysResolved_key (hkeys (k, v) (List.mem_cons_self ..))
    replace hkeys := fun p hp => hkeys p (List.mem_cons_of_mem _ hp)
    simp only [Form.pairsNodes, List.forall_mem_append] at hF
    dsimp only
    split
    · exact (Binding.ofVector_settles v hF.1.2).bind fun _ ⟨hk1, he1⟩ =>
        (Scan.ofOptions_settles table rest _ validTime systemTime hkeys hF.2 he1 hv hs).imp
          fun _ ⟨hk2, he2⟩ => ⟨by simp [hk, hk1, hk2], he2⟩
    · split
      · exact (TemporalFilter.ofForm_settles v hF.1.2).bind fun _ ⟨hk1, he1⟩ =>
          (Scan.ofOptions_settles table rest bind (some _) systemTime hkeys hF.2 hb he1 hs).imp
            fun _ ⟨hk2, he2⟩ => ⟨by simp [hk, hk1, hk2], he2⟩
      · split
        · exact (TemporalFilter.ofForm_settles v hF.1.2).bind fun _ ⟨hk1, he1⟩ =>
            (Scan.ofOptions_settles table rest bind validTime (some _) hkeys hF.2 hb hv
              he1).imp fun _ ⟨hk2, he2⟩ => ⟨by simp [hk, hk1, hk2], he2⟩
        · exact trivial
termination_by 2 * sizeOf pairs
decreasing_by all_goals (subst_vars; simp only [List.cons.sizeOf_spec, Prod.mk.sizeOf_spec]; omega)

theorem Rel.ofArgs_settles (name : String) (args : List Form) (span : Span)
    (hF : ∀ g ∈ Form.listNodes args, g.FloatFinite) :
    Settles (Form.listNodes args) Rel.exprs (Rel.ofArgs name args span) := by
  unfold Rel.ofArgs
  split
  next rows bind =>
    exact (Expr.ofForm_settles rows fun g hg => hF g (by simp [hg])).bind fun _ ⟨hk1, he1⟩ =>
      (Binding.ofVector_settles bind fun g hg => hF g (by simp [hg])).bind fun _ ⟨hk2, he2⟩ =>
        by simp [hk1, hk2, he1, he2]
  · exact trivial
termination_by 2 * sizeOf args
decreasing_by all_goals (subst_vars; simp only [List.cons.sizeOf_spec]; omega)

theorem TemporalFilter.ofForm_settles (f : Form) (hF : ∀ g ∈ f.nodes, g.FloatFinite) :
    Settles f.nodes TemporalFilter.exprs (TemporalFilter.ofForm f) := by
  unfold TemporalFilter.ofForm
  split
  next hall =>
    -- `:all-time` is a keyword: a form with nothing inside
    obtain ⟨s, rfl⟩ : ∃ s, f = .keyword "all-time" s := by cases f <;> simp_all [keywordOf?]
    simp
  · split
    · refine (operatorForm_shape .temporalFilter f).bind fun ⟨o, ho⟩ ⟨s, hf⟩ => ?_
      exact (TemporalFilter.ofOperator_settles o.name o.args o.span
        (floatFinite_operator hf hF)).imp fun _ ⟨hk, he⟩ =>
          ⟨keysResolved_operator hf hk, he⟩
    · exact trivial
termination_by 2 * sizeOf f
decreasing_by all_goals omega

theorem TemporalFilter.ofOperator_settles (name : String) (args : List Form) (span : Span)
    (hF : ∀ g ∈ Form.listNodes args, g.FloatFinite) :
    Settles (Form.listNodes args) TemporalFilter.exprs
      (TemporalFilter.ofOperator name args span) := by
  unfold TemporalFilter.ofOperator
  split
  · exact trivial
  all_goals split
  next t =>
    exact (Expr.ofForm_settles t fun g hg => hF g (by simp [hg])).map fun _ ⟨hk, he⟩ =>
      ⟨by simpa using hk, he⟩
  · exact trivial
  next t =>
    exact (Expr.ofForm_settles t fun g hg => hF g (by simp [hg])).map fun _ ⟨hk, he⟩ =>
      ⟨by simpa using hk, he⟩
  · exact trivial
  next t =>
    exact (Expr.ofForm_settles t fun g hg => hF g (by simp [hg])).map fun _ ⟨hk, he⟩ =>
      ⟨by simpa using hk, he⟩
  · exact trivial
  next a b =>
    exact (Expr.ofForm_settles a fun g hg => hF g (by simp [hg])).bind fun _ ⟨hk1, he1⟩ =>
      (Expr.ofForm_settles b fun g hg => hF g (by simp [hg])).bind fun _ ⟨hk2, he2⟩ =>
        by simp [hk1, hk2, he1, he2]
  · exact trivial
termination_by 2 * sizeOf args
decreasing_by all_goals (subst_vars; simp only [List.cons.sizeOf_spec]; omega)

theorem Tail.ofForms_settles (fs : List Form) (hF : ∀ g ∈ Form.listNodes fs, g.FloatFinite) :
    Settles (Form.listNodes fs) Tail.listExprs (Tail.ofForms fs) := by
  unfold Tail.ofForms
  split
  · simp
  next f rest =>
    simp only [Form.listNodes, List.forall_mem_append] at hF
    exact (Tail.ofForm_settles f hF.1).bind fun _ ⟨hk1, he1⟩ =>
      (Tail.ofForms_settles rest hF.2).bind fun _ ⟨hk2, he2⟩ => by simp [hk1, hk2, he1, he2]
termination_by 2 * sizeOf fs
decreasing_by all_goals (subst_vars; simp only [List.cons.sizeOf_spec]; omega)

theorem Tail.ofForm_settles (f : Form) (hF : ∀ g ∈ f.nodes, g.FloatFinite) :
    Settles f.nodes Tail.exprs (Tail.ofForm f) := by
  unfold Tail.ofForm
  refine (operatorForm_shape .tail f).bind fun ⟨o, ho⟩ ⟨s, hf⟩ => ?_
  exact (Tail.ofOperator_settles o.name o.args o.span (floatFinite_operator hf hF)).imp
    fun _ ⟨hk, he⟩ => ⟨keysResolved_operator hf hk, he⟩
termination_by 2 * sizeOf f
decreasing_by all_goals omega

theorem Tail.ofOperator_settles (name : String) (args : List Form) (span : Span)
    (hF : ∀ g ∈ Form.listNodes args, g.FloatFinite) :
    Settles (Form.listNodes args) Tail.exprs (Tail.ofOperator name args span) := by
  unfold Tail.ofOperator
  split
  · exact trivial
  · split
    · exact trivial
    · exact (Expr.ofForms_settles args hF).map fun _ h => h
  · split
    · exact trivial
    · exact (Binding.ofItems_settles args hF).map fun _ h => h
  · split
    · exact trivial
    · exact (Binding.ofItems_settles args hF).map fun _ h => h
  · split
    · exact trivial
    · exact (Binding.ofItems_settles args hF).map fun _ h => h
  · split
    · exact trivial
    · exact (columnsOfForms_settles args).map fun _ hk => ⟨hk, by simp⟩
  · split
    · exact trivial
    · exact (OrderSpec.ofForms_settles args hF).map fun _ h => h
  all_goals split
  next n => exact (countOfForm_settles name n).map fun _ hk => by simp [hk]
  · exact trivial
  next n => exact (countOfForm_settles name n).map fun _ hk => by simp [hk]
  · exact trivial
  next b =>
    exact (Binding.ofUnnest_settles b fun g hg => hF g (by simp [hg])).map fun _ ⟨hk, he⟩ =>
      ⟨by simpa using hk, he⟩
  · exact trivial
termination_by 2 * sizeOf args + 1
decreasing_by all_goals (subst_vars; simp -failIfUnchanged only [List.cons.sizeOf_spec]; omega)

theorem OrderSpec.ofForms_settles (fs : List Form)
    (hF : ∀ g ∈ Form.listNodes fs, g.FloatFinite) :
    Settles (Form.listNodes fs) OrderSpec.listExprs (OrderSpec.ofForms fs) := by
  unfold OrderSpec.ofForms
  split
  · simp
  next f rest =>
    simp only [Form.listNodes, List.forall_mem_append] at hF
    exact (OrderSpec.ofForm_settles f hF.1).bind fun _ ⟨hk1, he1⟩ =>
      (OrderSpec.ofForms_settles rest hF.2).bind fun _ ⟨hk2, he2⟩ =>
        by simp [hk1, hk2, he1, he2]
termination_by 2 * sizeOf fs
decreasing_by all_goals (subst_vars; simp only [List.cons.sizeOf_spec]; omega)

theorem OrderSpec.ofForm_settles (f : Form) (hF : ∀ g ∈ f.nodes, g.FloatFinite) :
    Settles f.nodes OrderSpec.exprs (OrderSpec.ofForm f) := by
  unfold OrderSpec.ofForm
  split
  next pairs span =>
    exact (resolveKeys_distinct none pairs).bind fun _ hd =>
      (OrderSpec.ofOptions_settles pairs span none none none hd.1
        (fun g hg => hF g (by simp [hg])) (by simp)).imp fun _ ⟨hk, he⟩ =>
          ⟨by simp [hd, hk], he⟩
  · exact (Expr.ofForm_settles f hF).bind fun _ h => h
termination_by 2 * sizeOf f + 1
decreasing_by all_goals (subst_vars; simp -failIfUnchanged only [Form.map.sizeOf_spec]; omega)

theorem OrderSpec.ofOptions_settles (pairs : List (Form × Form)) (span : Span) (val : Option Expr)
    (dir : Option Direction) (nulls : Option NullOrder)
    (hkeys : ∀ p ∈ pairs, (keyName none p.1).isSome)
    (hF : ∀ g ∈ Form.pairsNodes pairs, g.FloatFinite)
    (hval : ∀ v ∈ val, RendersFaithfully v.exprs) :
    Settles (Form.pairsNodes pairs) OrderSpec.exprs
      (OrderSpec.ofOptions pairs span val dir nulls) := by
  unfold OrderSpec.ofOptions
  split
  · split
    next v => exact ⟨keysResolved_nil, hval v rfl⟩
    · exact trivial
  next k v rest =>
    have hk := keysResolved_key (hkeys (k, v) (List.mem_cons_self ..))
    replace hkeys := fun p hp => hkeys p (List.mem_cons_of_mem _ hp)
    simp only [Form.pairsNodes, List.forall_mem_append] at hF
    dsimp only
    split
    · exact (Expr.ofForm_settles v hF.1.2).bind fun e ⟨hk1, he1⟩ =>
        (OrderSpec.ofOptions_settles rest span (some e) dir nulls hkeys hF.2
          fun _ hv => by cases hv; exact he1).imp fun _ ⟨hk2, he2⟩ =>
            ⟨by simp [hk, hk1, hk2], he2⟩
    -- `:dir` and `:nulls` take keywords, which hold no expression
    · split
      · split
        · exact (OrderSpec.ofOptions_settles rest span val (some .asc) nulls hkeys hF.2
            hval).imp fun _ ⟨hk2, he2⟩ => ⟨by simp [hk, hk2], he2⟩
        · exact (OrderSpec.ofOptions_settles rest span val (some .desc) nulls hkeys hF.2
            hval).imp fun _ ⟨hk2, he2⟩ => ⟨by simp [hk, hk2], he2⟩
        · exact trivial
      · split
        · split
          · exact (OrderSpec.ofOptions_settles rest span val dir (some .first) hkeys hF.2
              hval).imp fun _ ⟨hk2, he2⟩ => ⟨by simp [hk, hk2], he2⟩
          · exact (OrderSpec.ofOptions_settles rest span val dir (some .last) hkeys hF.2
              hval).imp fun _ ⟨hk2, he2⟩ => ⟨by simp [hk, hk2], he2⟩
          · exact trivial
        · exact trivial
termination_by 2 * sizeOf pairs
decreasing_by all_goals (subst_vars; simp only [List.cons.sizeOf_spec, Prod.mk.sizeOf_spec]; omega)

theorem Binding.ofUnnest_settles (f : Form) (hF : ∀ g ∈ f.nodes, g.FloatFinite) :
    Settles f.nodes Binding.exprs (Binding.ofUnnest f) := by
  unfold Binding.ofUnnest
  split
  next pairs span =>
    refine (resolveKeys_distinct none pairs).bind fun _ hd => ?_
    split
    next k v =>
      have hk := keysResolved_key (hd.1 (k, v) (List.mem_cons_self ..))
      exact (Expr.ofForm_settles v fun g hg => hF g (by simp [hg])).map fun _ ⟨hk1, he1⟩ =>
        ⟨by simp [hd, hk, hk1], he1⟩
    · exact trivial
  next ns pairs span =>
    refine (resolveKeys_distinct (some ns) pairs).bind fun _ hd => ?_
    split
    next k v =>
      have hk := keysResolved_key (hd.1 (k, v) (List.mem_cons_self ..))
      exact (Expr.ofForm_settles v fun g hg => hF g (by simp [hg])).map fun _ ⟨hk1, he1⟩ =>
        ⟨by simp [hd, hk, hk1], he1⟩
    · exact trivial
  · exact trivial
termination_by 2 * sizeOf f
decreasing_by
  all_goals (subst_vars; simp only [List.cons.sizeOf_spec, Prod.mk.sizeOf_spec,
    Form.map.sizeOf_spec, Form.nsMap.sizeOf_spec]; omega)

theorem Clause.ofForms_settles (fs : List Form) (hF : ∀ g ∈ Form.listNodes fs, g.FloatFinite) :
    Settles (Form.listNodes fs) Clause.listExprs (Clause.ofForms fs) := by
  unfold Clause.ofForms
  split
  · simp
  next f rest =>
    simp only [Form.listNodes, List.forall_mem_append] at hF
    exact (Clause.ofForm_settles f hF.1).bind fun _ ⟨hk1, he1⟩ =>
      (Clause.ofForms_settles rest hF.2).bind fun _ ⟨hk2, he2⟩ => by simp [hk1, hk2, he1, he2]
termination_by 2 * sizeOf fs
decreasing_by all_goals (subst_vars; simp only [List.cons.sizeOf_spec]; omega)

theorem Clause.ofForm_settles (f : Form) (hF : ∀ g ∈ f.nodes, g.FloatFinite) :
    Settles f.nodes Clause.exprs (Clause.ofForm f) := by
  unfold Clause.ofForm
  refine (operatorForm_shape .clause f).bind fun ⟨o, ho⟩ ⟨s, hf⟩ => ?_
  exact (Clause.ofOperator_settles o.name o.args o.span (floatFinite_operator hf hF)).imp
    fun _ ⟨hk, he⟩ => ⟨keysResolved_operator hf hk, he⟩
termination_by 2 * sizeOf f
decreasing_by all_goals omega

theorem Clause.ofOperator_settles (name : String) (args : List Form) (span : Span)
    (hF : ∀ g ∈ Form.listNodes args, g.FloatFinite) :
    Settles (Form.listNodes args) Clause.exprs (Clause.ofOperator name args span) := by
  unfold Clause.ofOperator
  split
  · exact trivial
  · exact (Scan.ofArgs_settles name args span hF).map fun _ h => h
  · exact (Rel.ofArgs_settles name args span hF).map fun _ h => h
  · split
    · exact trivial
    · exact (Expr.ofForms_settles args hF).map fun _ h => h
  · split
    · exact trivial
    · exact (Binding.ofItems_settles args hF).map fun _ h => h
  · exact (Join.ofArgs_settles name args span hF).map fun _ h => h
  · exact (Join.ofArgs_settles name args span hF).map fun _ h => h
  · split
    next b =>
      exact (Binding.ofUnnest_settles b fun g hg => hF g (by simp [hg])).map fun _ ⟨hk, he⟩ =>
        ⟨by simpa using hk, he⟩
    · exact trivial
termination_by 2 * sizeOf args + 1
decreasing_by all_goals (subst_vars; simp -failIfUnchanged only [List.cons.sizeOf_spec]; omega)

theorem Join.ofArgs_settles (name : String) (args : List Form) (span : Span)
    (hF : ∀ g ∈ Form.listNodes args, g.FloatFinite) :
    Settles (Form.listNodes args) Join.exprs (Join.ofArgs name args span) := by
  unfold Join.ofArgs
  split
  next q spec =>
    refine (Query.ofForm_settles q fun g hg => hF g (by simp [hg])).bind fun _ ⟨hkq, heq⟩ => ?_
    split
    next items _ =>
      exact (Binding.ofItems_settles items fun g hg => hF g (by simp [hg])).bind
        fun _ ⟨hk, he⟩ => by simp [hkq, heq, hk, he]
    next pairs _ =>
      exact (resolveKeys_distinct none pairs).bind fun _ hd =>
        (Join.ofOptions_settles name _ pairs [] none hd.1 (fun g hg => hF g (by simp [hg])) heq
          (by simp) (by simp)).imp fun _ ⟨hk, he⟩ => ⟨by simp [hkq, hd, hk], he⟩
    · exact trivial
  · exact trivial
termination_by 2 * sizeOf args
decreasing_by
  all_goals (subst_vars; simp only [List.cons.sizeOf_spec, Form.vector.sizeOf_spec,
    Form.map.sizeOf_spec]; omega)

theorem Join.ofOptions_settles (name : String) (query : Query) (pairs : List (Form × Form))
    (bind : List Binding) (args : Option (List Binding))
    (hkeys : ∀ p ∈ pairs, (keyName none p.1).isSome)
    (hF : ∀ g ∈ Form.pairsNodes pairs, g.FloatFinite)
    (hq : RendersFaithfully query.exprs) (hb : RendersFaithfully (Binding.listExprs bind))
    (ha : RendersFaithfully (Binding.optExprs args)) :
    Settles (Form.pairsNodes pairs) Join.exprs (Join.ofOptions name query pairs bind args) := by
  unfold Join.ofOptions
  split
  · simp [hq, hb, ha]
  next k v rest =>
    have hk := keysResolved_key (hkeys (k, v) (List.mem_cons_self ..))
    replace hkeys := fun p hp => hkeys p (List.mem_cons_of_mem _ hp)
    simp only [Form.pairsNodes, List.forall_mem_append] at hF
    dsimp only
    split
    · exact (Binding.ofVector_settles v hF.1.2).bind fun _ ⟨hk1, he1⟩ =>
        (Join.ofOptions_settles name query rest _ args hkeys hF.2 hq he1 ha).imp
          fun _ ⟨hk2, he2⟩ => ⟨by simp [hk, hk1, hk2], he2⟩
    · split
      · exact (Binding.ofVector_settles v hF.1.2).bind fun _ ⟨hk1, he1⟩ =>
          (Join.ofOptions_settles name query rest bind (some _) hkeys hF.2 hq hb he1).imp
            fun _ ⟨hk2, he2⟩ => ⟨by simp [hk, hk1, hk2], he2⟩
      · exact trivial
termination_by 2 * sizeOf pairs
decreasing_by all_goals (subst_vars; simp only [List.cons.sizeOf_spec, Prod.mk.sizeOf_spec]; omega)

theorem Binding.ofVector_settles (f : Form) (hF : ∀ g ∈ f.nodes, g.FloatFinite) :
    Settles f.nodes Binding.listExprs (Binding.ofVector f) := by
  unfold Binding.ofVector
  split
  next items _ =>
    exact (Binding.ofItems_settles items fun g hg => hF g (by simp [hg])).imp
      fun _ ⟨hk, he⟩ => ⟨by simpa using hk, he⟩
  · exact trivial
termination_by 2 * sizeOf f
decreasing_by all_goals (subst_vars; simp only [Form.vector.sizeOf_spec]; omega)

theorem Binding.ofItems_settles (items : List Form)
    (hF : ∀ g ∈ Form.listNodes items, g.FloatFinite) :
    Settles (Form.listNodes items) Binding.listExprs (Binding.ofItems items) := by
  unfold Binding.ofItems
  split
  · simp
  next name _ rest =>
    exact (Binding.ofItems_settles rest fun g hg => hF g (by simp [hg])).bind
      fun _ ⟨hk, he⟩ => by simp [Binding.var, hk, he]
  next pairs span rest =>
    simp only [Form.listNodes, List.forall_mem_append] at hF
    exact (resolveKeys_distinct none pairs).bind fun _ hd =>
      (Binding.ofEntries_settles none pairs hd.1 fun g hg => hF.1 g (by simp [hg])).bind
        fun _ ⟨hk1, he1⟩ => (Binding.ofItems_settles rest hF.2).bind fun _ ⟨hk2, he2⟩ =>
          by simp [hd, hk1, hk2, he1, he2]
  next ns pairs span rest =>
    simp only [Form.listNodes, List.forall_mem_append] at hF
    exact (resolveKeys_distinct (some ns) pairs).bind fun _ hd =>
      (Binding.ofEntries_settles (some ns) pairs hd.1 fun g hg => hF.1 g (by simp [hg])).bind
        fun _ ⟨hk1, he1⟩ => (Binding.ofItems_settles rest hF.2).bind fun _ ⟨hk2, he2⟩ =>
          by simp [hd, hk1, hk2, he1, he2]
  · exact trivial
termination_by 2 * sizeOf items
decreasing_by
  all_goals (subst_vars; simp only [List.cons.sizeOf_spec, Form.map.sizeOf_spec,
    Form.nsMap.sizeOf_spec]; omega)

theorem Binding.ofEntries_settles (ns : Option String) (pairs : List (Form × Form))
    (hkeys : ∀ p ∈ pairs, (keyName ns p.1).isSome)
    (hF : ∀ g ∈ Form.pairsNodes pairs, g.FloatFinite) :
    Settles (Form.pairsNodes pairs) Binding.listExprs (Binding.ofEntries ns pairs) := by
  unfold Binding.ofEntries
  split
  · simp
  next k v rest =>
    have hk := keysResolved_key (hkeys (k, v) (List.mem_cons_self ..))
    replace hkeys := fun p hp => hkeys p (List.mem_cons_of_mem _ hp)
    simp only [Form.pairsNodes, List.forall_mem_append] at hF
    exact (Expr.ofForm_settles v hF.1.2).bind fun _ ⟨hk1, he1⟩ =>
      (Binding.ofEntries_settles ns rest hkeys hF.2).bind fun _ ⟨hk2, he2⟩ =>
        by simp [hk, hk1, hk2, he1, he2]
termination_by 2 * sizeOf pairs
decreasing_by all_goals (subst_vars; simp only [List.cons.sizeOf_spec, Prod.mk.sizeOf_spec]; omega)

theorem Expr.ofForm_settles (f : Form) (hF : ∀ g ∈ f.nodes, g.FloatFinite) :
    Settles f.nodes Expr.exprs (Expr.ofForm f) := by
  unfold Expr.ofForm
  split
  case h_6 => simpa [Form.FloatFinite] using hF
  case h_9 items _ | h_10 items _ =>
    exact (Expr.ofForms_settles items fun g hg => hF g (by simp [hg])).map
      fun _ ⟨hk, he⟩ => by simp [hk, he]
  case h_11 pairs _ =>
    exact (resolveKeys_distinct none pairs).bind fun _ hd =>
      (Expr.ofEntries_settles none pairs hd.1 fun g hg => hF g (by simp [hg])).map
        fun _ ⟨htexts, hk, he⟩ => by simp [hd, hk, he, htexts, hd.nodup_keyText]
  case h_12 ns pairs _ =>
    exact (resolveKeys_distinct (some ns) pairs).bind fun _ hd =>
      (Expr.ofEntries_settles (some ns) pairs hd.1 fun g hg => hF g (by simp [hg])).map
        fun _ ⟨htexts, hk, he⟩ => by simp [hd, hk, he, htexts, hd.nodup_keyText]
  case h_13 tag v _ =>
    exact (Expr.ofForm_settles v fun g hg => hF g (by simp [hg])).map
      fun _ ⟨hk, he⟩ => by simp [hk, he]
  case h_14 items span => exact Expr.ofCall_settles items span hF
  -- the atoms: one form, one expression
  all_goals simp
termination_by 2 * sizeOf f
decreasing_by
  all_goals (subst_vars; simp only [Form.vector.sizeOf_spec, Form.map.sizeOf_spec,
    Form.nsMap.sizeOf_spec, Form.list.sizeOf_spec, Form.set.sizeOf_spec,
    Form.tagged.sizeOf_spec]; omega)

theorem Expr.ofForms_settles (fs : List Form) (hF : ∀ g ∈ Form.listNodes fs, g.FloatFinite) :
    Settles (Form.listNodes fs) Expr.listExprs (Expr.ofForms fs) := by
  unfold Expr.ofForms
  split
  · simp
  next f rest =>
    simp only [Form.listNodes, List.forall_mem_append] at hF
    exact (Expr.ofForm_settles f hF.1).bind fun _ ⟨hk1, he1⟩ =>
      (Expr.ofForms_settles rest hF.2).bind fun _ ⟨hk2, he2⟩ => by simp [hk1, hk2, he1, he2]
termination_by 2 * sizeOf fs
decreasing_by all_goals (subst_vars; simp only [List.cons.sizeOf_spec]; omega)

theorem Expr.ofEntries_settles (ns : Option String) (pairs : List (Form × Form))
    (hkeys : ∀ p ∈ pairs, (keyName ns p.1).isSome)
    (hF : ∀ g ∈ Form.pairsNodes pairs, g.FloatFinite) :
    Except.Sat (fun _ => True)
      (fun out => out.map Prod.fst = pairs.map (fun p => keyText ns p.1) ∧
        KeysResolved (Form.pairsNodes pairs) ∧ RendersFaithfully (Expr.entriesExprs out))
      (Expr.ofEntries ns pairs) := by
  unfold Expr.ofEntries
  split
  · simp
  next k v rest =>
    have hk := keysResolved_key (hkeys (k, v) (List.mem_cons_self ..))
    replace hkeys := fun p hp => hkeys p (List.mem_cons_of_mem _ hp)
    simp only [Form.pairsNodes, List.forall_mem_append] at hF
    exact (Expr.ofForm_settles v hF.1.2).bind fun _ ⟨hk1, he1⟩ =>
      (Expr.ofEntries_settles ns rest hkeys hF.2).bind fun _ ⟨htexts, hk2, he2⟩ =>
        by simp [htexts, hk, hk1, hk2, he1, he2]
termination_by 2 * sizeOf pairs
decreasing_by all_goals (subst_vars; simp only [List.cons.sizeOf_spec, Prod.mk.sizeOf_spec]; omega)

theorem Expr.ofCall_settles (items : List Form) (span : Span)
    (hF : ∀ g ∈ (Form.list items span).nodes, g.FloatFinite) :
    Settles (Form.list items span).nodes Expr.exprs (Expr.ofCall items span) := by
  unfold Expr.ofCall
  split
  · exact trivial
  next function _ rest =>
    split
    · exact (Expr.ofForms_settles rest fun g hg => hF g (by simp [hg])).map
        fun _ ⟨hk, he⟩ => by simp [hk, he]
    · split
      next q =>
        exact (Query.ofForm_settles q fun g hg => hF g (by simp [hg])).bind
          fun _ ⟨hk, he⟩ => by simp [hk, he]
      next q opts =>
        refine (Query.ofForm_settles q fun g hg => hF g (by simp [hg])).bind
          fun _ ⟨hkq, heq⟩ => ?_
        split
        next pairs _ =>
          exact (resolveKeys_distinct none pairs).bind fun _ hd =>
            (Expr.subqueryArgs_settles function pairs none hd.1
              (fun g hg => hF g (by simp [hg])) (by simp)).bind fun _ ⟨hk, he⟩ =>
                by simp [hkq, heq, hd, hk, he]
        · exact trivial
      · exact trivial
  · exact trivial
termination_by 2 * sizeOf items
decreasing_by all_goals (subst_vars; simp only [List.cons.sizeOf_spec, Form.map.sizeOf_spec]; omega)

theorem Expr.subqueryArgs_settles (function : String) (pairs : List (Form × Form))
    (args : Option (List Binding)) (hkeys : ∀ p ∈ pairs, (keyName none p.1).isSome)
    (hF : ∀ g ∈ Form.pairsNodes pairs, g.FloatFinite)
    (ha : RendersFaithfully (Binding.optExprs args)) :
    Settles (Form.pairsNodes pairs) Binding.optExprs (Expr.subqueryArgs function pairs args) := by
  unfold Expr.subqueryArgs
  split
  · simp [ha]
  next k v rest =>
    have hk := keysResolved_key (hkeys (k, v) (List.mem_cons_self ..))
    replace hkeys := fun p hp => hkeys p (List.mem_cons_of_mem _ hp)
    simp only [Form.pairsNodes, List.forall_mem_append] at hF
    dsimp only
    split
    · exact (Binding.ofVector_settles v hF.1.2).bind fun _ ⟨hk1, he1⟩ =>
        (Expr.subqueryArgs_settles function rest (some _) hkeys hF.2 he1).imp
          fun _ ⟨hk2, he2⟩ => ⟨by simp [hk, hk1, hk2], he2⟩
    · exact trivial
termination_by 2 * sizeOf pairs
decreasing_by all_goals (subst_vars; simp only [List.cons.sizeOf_spec, Prod.mk.sizeOf_spec]; omega)

end

/-! ### Rendering a parsed query -/

/-- What rendering the query `q` parsed from `s` with nesting limit `d` keeps: every map of the
text resolves its keys to distinct names, every map literal of the query renders as an object
with one member per entry, each carrying its entry's document, and every float of the query is
finite and renders as a JSON number. -/
structure RendersLosslessly (s : String) (d : Nat) (q : Query) : Prop where
  keys : ∃ f, Edn.read s d = .ok f ∧ ∀ g ∈ f.nodes, g.KeysResolve
  maps : ∀ entries, Expr.map entries ∈ q.exprs → (entries.map Prod.fst).Nodup ∧
    ∃ fs, (Expr.map entries).toJson = .obj fs ∧ fs.length = entries.length ∧
      ∀ k e, (k, e) ∈ entries → (Expr.map entries).toJson.field? k = some e.toJson
  floats : ∀ x, Expr.float x ∈ q.exprs → x.isFinite = true ∧
    (Expr.float x).toJson = .num (.float x)

/-- Rendering a parsed query loses nothing: no map entry is overridden by a later one of the same
key, and no float falls back to null. -/
theorem parse_renders_losslessly {s : String} {d : Nat} {q : Query}
    (h : Query.parse s d = .ok q) : RendersLosslessly s d q := by
  obtain ⟨f, hr, hq⟩ := Query.parse_eq_ok_iff.1 h
  -- reading keeps floats finite, and parsing resolves the keys of every map it reads
  obtain ⟨hk, he⟩ := (Query.ofForm_settles f (read_floatsFinite hr)).of_ok hq
  refine ⟨⟨f, hr, hk⟩, fun entries hm => ?_, fun x hm => ?_⟩
  · have hf : (Expr.map entries).Faithful := he _ hm
    exact ⟨hf, Expr.toJson_map entries hf⟩
  · have hf : (Expr.float x).Faithful := he _ hm
    exact ⟨hf, Expr.toJson_float hf⟩

/-- A row of literals with a keyword key, a string key and a float. -/
theorem parse_renders_losslessly_row :
    ∃ q, Query.parse "(rel [\x7b:a 1.5 \"b\" x\x7d] [a])" 8 = .ok q ∧
      RendersLosslessly "(rel [\x7b:a 1.5 \"b\" x\x7d] [a])" 8 q := by
  have hok : (Query.parse "(rel [\x7b:a 1.5 \"b\" x\x7d] [a])" 8).isOk = true := by decide +kernel
  cases h : Query.parse "(rel [\x7b:a 1.5 \"b\" x\x7d] [a])" 8 with
  | error e => rw [h] at hok; cases hok
  | ok q => exact ⟨q, rfl, parse_renders_losslessly h⟩

end Xtql
