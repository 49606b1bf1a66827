import Xtql.Proofs.Edn.ReadSteps
import Xtql.Proofs.Edn.Print

/-!
Reading depends on the kinds and texts of the tokens only; their offsets give spans.
-/

namespace Xtql.Edn

theorem Form.bareAll_eq_map (fs : List Form) : Form.bareAll fs = fs.map Form.bare := by
  induction fs with
  | nil => rfl
  | cons f fs ih => simp [Form.bareAll, ih]

theorem shape_eq_iff {t t' : Token} :
    t'.shape = t.shape ↔ t'.kind = t.kind ∧ t'.text = t.text := by
  simp [Token.shape]

theorem map_shape_eq_cons {ts' : List Token} {t : Token} {rest : List Token}
    (h : ts'.map Token.shape = (t :: rest).map Token.shape) :
    ∃ t' rest', ts' = t' :: rest' ∧ t'.shape = t.shape ∧
      rest'.map Token.shape = rest.map Token.shape := by
  rw [List.map_cons, List.map_eq_cons_iff] at h
  obtain ⟨t', rest', rfl, ht, hr⟩ := h
  exact ⟨t', rest', rfl, ht, hr⟩

theorem peekKind_of_shapes {ts ts' : List Token} (h : ts'.map Token.shape = ts.map Token.shape) :
    peekKind ts' = peekKind ts := by
  cases ts with
  | nil => rw [List.map_nil, List.map_eq_nil_iff] at h; rw [h]
  | cons t rest =>
    obtain ⟨t', rest', rfl, ht, -⟩ := map_shape_eq_cons h
    exact (shape_eq_iff.1 ht).1

variable {cx cx' : ReadContext}

theorem atom_of_shape {t t' : Token} (hs : t'.shape = t.shape) {f : Form}
    (h : atom cx t = .ok f) : ∃ f', atom cx' t' = .ok f' ∧ f'.bare = f.bare := by
  obtain ⟨hk, hx⟩ := shape_eq_iff.1 hs
  unfold atom at h ⊢
  rw [hk, hx]
  cases hkind : t.kind <;> simp only [hkind] at h ⊢
  case string =>
    cases hu : unescape t.text with
    | ok s => simp only [hu] at h ⊢; cases h; exact ⟨_, rfl, rfl⟩
    | error p => simp only [hu] at h; cases h
  case integer =>
    by_cases hf : fitsInt64 (integerValue t.text.toList) = true
    · simp only [hf, if_true] at h ⊢; cases h; exact ⟨_, rfl, rfl⟩
    · simp only [hf] at h; cases h
  case float =>
    by_cases hf : (floatValue t.text.toList).isFinite = true
    · simp only [hf, if_true] at h ⊢; cases h; exact ⟨_, rfl, rfl⟩
    · simp only [hf] at h; cases h
  case unknown => split at h <;> cases h
  all_goals cases h
  all_goals exact ⟨_, rfl, rfl⟩

theorem pairUp_of_bare {items items' : List Form} (hi : Form.bareAll items' = Form.bareAll items)
    {ps : List (Form × Form)} (h : pairUp items = some ps) :
    ∃ ps', pairUp items' = some ps' ∧ Form.barePairs ps' = Form.barePairs ps := by
  rw [← flatPairs_of_pairUp h] at hi
  exact pairUp_of_bareAll hi

theorem collection_of_bare {opener opener' : Token} (ho : opener'.shape = opener.shape)
    {items items' : List Form} (hi : Form.bareAll items' = Form.bareAll items) {sp sp' : Span}
    {f : Form} (h : collection cx opener items sp = .ok f) :
    ∃ f', collection cx' opener' items' sp' = .ok f' ∧ f'.bare = f.bare := by
  obtain ⟨hk, hx⟩ := shape_eq_iff.1 ho
  unfold collection at h ⊢
  rw [hk, hx]
  cases hkind : opener.kind <;> simp only [hkind] at h ⊢
  all_goals first
    | (cases h; exact ⟨_, rfl, by simp only [Form.bare, hi]⟩)
    | (cases hp : pairUp items with
        | none => simp [hp] at h
        | some ps =>
          obtain ⟨ps', hp', hps⟩ := pairUp_of_bare hi hp
          simp only [hp, hp', Except.ok.injEq] at h ⊢
          subst h
          exact ⟨_, rfl, by simp only [Form.bare, hps]⟩)

mutual

/-- Reading depends on the tokens' kinds and texts only: tokens of the same shapes read to
the same form up to spans, leaving tokens of the same shapes. -/
theorem readsForm_of_shapes (hcx : cx'.maxDepth = cx.maxDepth) {d : Nat} {ts : List Token}
    {f : Form} {r : List Token} (h : ReadsForm cx d ts f r) {ts' : List Token}
    (hts : ts'.map Token.shape = ts.map Token.shape) :
    ∃ f' r', ReadsForm cx' d ts' f' r' ∧ f'.bare = f.bare ∧
      r'.map Token.shape = r.map Token.shape := by
  match ts with
  | [] => exact absurd h readsForm_nil
  | t :: rest =>
    obtain ⟨t', rest', rfl, ht, hrest⟩ := map_shape_eq_cons hts
    obtain ⟨hk, hx⟩ := shape_eq_iff.1 ht
    rcases readsForm_cons_iff.1 h with ⟨hopen, hd, hI⟩ |
      ⟨htag, hd, r1, hS, heof, v, hV, rfl⟩ | ⟨hopen, htag, hA, rfl⟩
    · obtain ⟨f', r', hI', hf, hr⟩ := readsItems_of_shapes hcx hI ht rfl hrest
      refine ⟨f', r', readsForm_cons_iff.2 (.inl ⟨?_, ?_, hI'⟩), hf, hr⟩
      · rw [hk]; exact hopen
      · rw [hcx]; exact hd
    · have := hS.length_le
      obtain ⟨r1', hS', hr1⟩ := skips_of_shapes hcx hS 0 hrest
      obtain ⟨v', r', hV', hv, hr⟩ := readsForm_of_shapes hcx hV hr1
      refine ⟨_, r', readsForm_cons_iff.2 (.inr (.inl ⟨?_, ?_, r1', hS', ?_, v', hV', rfl⟩)),
        ?_, hr⟩
      · rw [hk]; exact htag
      · rw [hcx]; exact hd
      · rw [peekKind_of_shapes hr1]; exact heof
      · simp only [Form.bare, hx, hv]
    · obtain ⟨f', hA', hf⟩ := atom_of_shape ht hA
      refine ⟨f', rest', readsForm_cons_iff.2 (.inr (.inr ⟨?_, ?_, hA', rfl⟩)), hf, hrest⟩
      · rw [hk]; exact hopen
      · rw [hk]; exact htag
termination_by 3 * ts.length
decreasing_by all_goals (simp only [List.length_cons]; omega)

theorem readsItems_of_shapes (hcx : cx'.maxDepth = cx.maxDepth) {opener : Token} {d : Nat}
    {acc : List Form} {ts : List Token} {f : Form} {r : List Token}
    (h : ReadsItems cx opener d acc ts f r) {opener' : Token} {acc' : List Form}
    {ts' : List Token} (ho : opener'.shape = opener.shape)
    (hacc : Form.bareAll acc' = Form.bareAll acc)
    (hts : ts'.map Token.shape = ts.map Token.shape) :
    ∃ f' r', ReadsItems cx' opener' d acc' ts' f' r' ∧ f'.bare = f.bare ∧
      r'.map Token.shape = r.map Token.shape := by
  have hko := (shape_eq_iff.1 ho).1
  obtain ⟨t, rest, hS, ⟨hc, hC, rfl⟩ | ⟨hc, heof, hclose, g, ts2, hF, hI⟩⟩ :=
    readsItems_iff.1 h
  · obtain ⟨r1', hS', hr1⟩ := skips_of_shapes hcx hS 0 hts
    obtain ⟨t', rest', rfl, ht, hrest⟩ := map_shape_eq_cons hr1
    have hrev : Form.bareAll acc'.reverse = Form.bareAll acc.reverse := by
      rw [Form.bareAll_eq_map, Form.bareAll_eq_map] at hacc ⊢
      rw [List.map_reverse, List.map_reverse, hacc]
    obtain ⟨f', hC', hf⟩ := collection_of_bare ho hrev hC
    refine ⟨f', rest', readsItems_iff.2 ⟨t', rest', hS', .inl ⟨?_, hC', rfl⟩⟩, hf,
      hrest⟩
    rw [(shape_eq_iff.1 ht).1, hko]; exact hc
  · have := hS.length_le
    have := hF.length_lt
    obtain ⟨r1', hS', hr1⟩ := skips_of_shapes hcx hS 0 hts
    obtain ⟨t', rest', rfl, ht, -⟩ := map_shape_eq_cons hr1
    have hk := (shape_eq_iff.1 ht).1
    obtain ⟨g', ts2', hF', hg, hts2⟩ := readsForm_of_shapes hcx hF hr1
    obtain ⟨f', r', hI', hf, hr⟩ := readsItems_of_shapes hcx hI ho
      (by simp only [Form.bareAll, hg, hacc] : Form.bareAll (g' :: acc') = Form.bareAll (g :: acc))
      hts2
    refine ⟨f', r',
      readsItems_iff.2 ⟨t', rest', hS', .inr ⟨?_, ?_, ?_, g', ts2', hF', hI'⟩⟩, hf, hr⟩
    · rw [hk, hko]; exact hc
    · rw [hk]; exact heof
    · rw [hk]; exact hclose
termination_by 3 * ts.length + 2
decreasing_by all_goals omega

theorem skips_of_shapes (hcx : cx'.maxDepth = cx.maxDepth) {d p m : Nat} {ts r : List Token}
    (h : Skips cx d p m ts r) (m' : Nat) {ts' : List Token}
    (hts : ts'.map Token.shape = ts.map Token.shape) :
    ∃ r', Skips cx' d p m' ts' r' ∧ r'.map Token.shape = r.map Token.shape := by
  match ts with
  | [] =>
    obtain ⟨rfl, rfl⟩ := skips_nil_iff.1 h
    rw [List.map_nil, List.map_eq_nil_iff] at hts
    subst hts
    exact ⟨[], skips_nil_iff.2 ⟨rfl, rfl⟩, rfl⟩
  | t :: rest =>
    obtain ⟨t', rest', rfl, ht, hrest⟩ := map_shape_eq_cons hts
    have hk := (shape_eq_iff.1 ht).1
    rcases skips_cons_iff.1 h with ⟨hdis, hS⟩ | ⟨hdis, rfl, rfl⟩ |
      ⟨hdis, hp, heof, hclose, g, r1, hF, hS⟩
    · obtain ⟨r', hS', hr⟩ := skips_of_shapes hcx hS t'.offset hrest
      exact ⟨r', skips_cons_iff.2 (.inl ⟨by rw [hk]; exact hdis, hS'⟩), hr⟩
    · exact ⟨t' :: rest', skips_cons_iff.2 (.inr (.inl ⟨by rw [hk]; exact hdis, rfl, rfl⟩)),
        hts⟩
    · have := hF.length_lt
      obtain ⟨g', r1', hF', -, hr1⟩ := readsForm_of_shapes hcx hF hts
      obtain ⟨r', hS', hr⟩ := skips_of_shapes hcx hS m' hr1
      refine ⟨r', skips_cons_iff.2 (.inr (.inr ⟨?_, hp, ?_, ?_, g', r1', hF', hS'⟩)), hr⟩
      · rw [hk]; exact hdis
      · rw [hk]; exact heof
      · rw [hk]; exact hclose
termination_by 3 * ts.length + 1
decreasing_by all_goals (rw [List.length_cons] at *; omega)

end

theorem readsTop_of_shapes (hcx : cx'.maxDepth = cx.maxDepth) {ts ts' : List Token} {f : Form}
    (h : ReadsTop cx ts f) (hts : ts'.map Token.shape = ts.map Token.shape) :
    ∃ f', ReadsTop cx' ts' f' ∧ f'.bare = f.bare := by
  obtain ⟨r1, hS1, heof1, r2, hF, r3, hS3, heof3⟩ := h
  obtain ⟨r1', hS1', hr1⟩ := skips_of_shapes hcx hS1 0 hts
  obtain ⟨f', r2', hF', hf, hr2⟩ := readsForm_of_shapes hcx hF hr1
  obtain ⟨r3', hS3', hr3⟩ := skips_of_shapes hcx hS3 0 hr2
  refine ⟨f', ⟨r1', hS1', ?_, r2', hF', r3', hS3', ?_⟩, hf⟩
  · rw [peekKind_of_shapes hr1]; exact heof1
  · rw [peekKind_of_shapes hr3]; exact heof3

end Xtql.Edn
