import Xtql.Proofs.Edn.ReadSteps

/-!
Reading does not look at where tokens stand, nor at what follows the tokens it consumes.
-/

namespace Xtql.Edn

/-! ### Renumbering positions -/

def Token.mapPos (g : Nat → Nat) (t : Token) : Token :=
  { t with offset := g t.offset, stop := g t.stop }

def Span.mapPos (g : Nat → Nat) (s : Span) : Span := ⟨g s.start, g s.stop⟩

mutual

/-- A form with every span in it renumbered by `g`. -/
def Form.mapPos (g : Nat → Nat) : Form → Form
  | .list items span => .list (Form.listMapPos g items) (span.mapPos g)
  | .vector items span => .vector (Form.listMapPos g items) (span.mapPos g)
  | .map pairs span => .map (Form.pairsMapPos g pairs) (span.mapPos g)
  | .set items span => .set (Form.listMapPos g items) (span.mapPos g)
  | .nsMap ns pairs span => .nsMap ns (Form.pairsMapPos g pairs) (span.mapPos g)
  | .tagged tag value span => .tagged tag (value.mapPos g) (span.mapPos g)
  | .symbol name span => .symbol name (span.mapPos g)
  | .keyword name span => .keyword name (span.mapPos g)
  | .param name span => .param name (span.mapPos g)
  | .str value span => .str value (span.mapPos g)
  | .int value span => .int value (span.mapPos g)
  | .float value span => .float value (span.mapPos g)
  | .bool value span => .bool value (span.mapPos g)
  | .nil span => .nil (span.mapPos g)

def Form.listMapPos (g : Nat → Nat) : List Form → List Form
  | [] => []
  | f :: fs => f.mapPos g :: Form.listMapPos g fs

def Form.pairsMapPos (g : Nat → Nat) : List (Form × Form) → List (Form × Form)
  | [] => []
  | (k, v) :: ps => (k.mapPos g, v.mapPos g) :: Form.pairsMapPos g ps

end

section

variable {g : Nat → Nat}

@[simp] theorem Token.kind_mapPos (t : Token) : (t.mapPos g).kind = t.kind := rfl

@[simp] theorem Token.text_mapPos (t : Token) : (t.mapPos g).text = t.text := rfl

@[simp] theorem Token.offset_mapPos (t : Token) : (t.mapPos g).offset = g t.offset := rfl

@[simp] theorem Token.stop_mapPos (t : Token) : (t.mapPos g).stop = g t.stop := rfl

@[simp] theorem Form.listMapPos_eq (fs : List Form) :
    Form.listMapPos g fs = fs.map (Form.mapPos g) := by
  induction fs with
  | nil => rfl
  | cons f fs ih => rw [Form.listMapPos, ih, List.map_cons]

@[simp] theorem Form.pairsMapPos_eq (ps : List (Form × Form)) :
    Form.pairsMapPos g ps = ps.map (Prod.map (Form.mapPos g) (Form.mapPos g)) := by
  induction ps with
  | nil => rfl
  | cons p ps ih =>
    obtain ⟨k, v⟩ := p
    rw [Form.pairsMapPos, ih, List.map_cons, Prod.map]

@[simp] theorem Form.span_mapPos (f : Form) : (f.mapPos g).span = f.span.mapPos g := by
  cases f <;> rfl

theorem peekKind_map_append {xs : List Token} (hxs : xs ≠ []) (r r' : List Token) :
    peekKind (xs.map (Token.mapPos g) ++ r') = peekKind (xs ++ r) := by
  obtain ⟨x, xs, rfl⟩ := List.exists_cons_of_ne_nil hxs
  rfl

/-! ### Atoms and collections -/

variable {cx cx' : ReadContext}

theorem atom_mapPos {t : Token} {f : Form} (h : atom cx t = .ok f) :
    atom cx' (t.mapPos g) = .ok (f.mapPos g) := by
  cases hkd : t.kind <;> simp only [atom, hkd, Token.kind_mapPos, Token.text_mapPos] at h ⊢
  case string =>
    split at h
    next =>
      cases h
      rfl
    next => cases h
  case integer | float =>
    split at h
    next hfit =>
      cases h
      simp [hfit, Form.mapPos, Span.mapPos]
    next => cases h
  case unknown => split at h <;> cases h
  all_goals cases h
  all_goals rfl

theorem pairUp_map (h : Form → Form) :
    ∀ items : List Form, pairUp (items.map h) = (pairUp items).map (List.map (Prod.map h h))
  | [] => rfl
  | [_] => rfl
  | k :: v :: rest => by
    rw [List.map_cons, List.map_cons, pairUp, pairUp, pairUp_map h rest]
    cases pairUp rest <;> rfl

theorem collection_mapPos {o : Token} {items : List Form} {span : Span} {f : Form}
    (h : collection cx o items span = .ok f) :
    collection cx' (o.mapPos g) (items.map (Form.mapPos g)) (span.mapPos g) = .ok (f.mapPos g) := by
  cases hk : o.kind <;>
    simp only [collection, hk, Token.kind_mapPos, Token.text_mapPos, pairUp_map] at h ⊢
  case lparen | lbracket | setOpen =>
    cases h
    simp [Form.mapPos]
  -- a map, plain or namespaced, pairs up its items
  all_goals
    cases hp : pairUp items <;> simp only [hp, Option.map_none, Option.map_some] at h ⊢
    · cases h
    · cases h
      simp [Form.mapPos]

end

/-! ### What a reader consumes -/

variable {cx cx' : ReadContext}

mutual

theorem ReadsForm.suffix {d : Nat} {ts : List Token} {f : Form} {r : List Token}
    (h : ReadsForm cx d ts f r) : r <:+ ts := by
  match ts with
  | [] => exact absurd h readsForm_nil
  | t :: rest =>
    rcases readsForm_cons_iff.1 h with ⟨-, -, hI⟩ | ⟨-, -, r1, hS, -, v, hV, -⟩ | ⟨-, -, -, rfl⟩
    · exact hI.suffix.trans (List.suffix_cons t rest)
    · have := hS.length_le
      exact (hV.suffix.trans hS.suffix).trans (List.suffix_cons t rest)
    · exact List.suffix_cons t r
termination_by 3 * ts.length
decreasing_by all_goals (simp only [List.length_cons]; omega)

theorem ReadsItems.suffix {opener : Token} {d : Nat} {acc : List Form} {ts : List Token}
    {f : Form} {r : List Token} (h : ReadsItems cx opener d acc ts f r) : r <:+ ts := by
  obtain ⟨t, rest, hS, ⟨-, -, hr⟩ | ⟨-, -, -, g, ts2, hF, hI⟩⟩ := readsItems_iff.1 h
  · rw [hr]
    exact (List.suffix_cons t rest).trans hS.suffix
  · have := hS.length_le
    have := hF.length_lt
    exact (hI.suffix.trans hF.suffix).trans hS.suffix
termination_by 3 * ts.length + 2
decreasing_by all_goals omega

theorem Skips.suffix {d p m : Nat} {ts r : List Token} (h : Skips cx d p m ts r) : r <:+ ts := by
  match ts with
  | [] =>
    obtain ⟨-, rfl⟩ := skips_nil_iff.1 h
    exact List.suffix_refl []
  | t :: rest =>
    rcases skips_cons_iff.1 h with ⟨-, hS⟩ | ⟨-, -, rfl⟩ | ⟨-, -, -, -, g, r1, hF, hS⟩
    · exact hS.suffix.trans (List.suffix_cons t rest)
    · exact List.suffix_refl _
    · have := hF.length_lt
      exact hS.suffix.trans hF.suffix
termination_by 3 * ts.length + 1
decreasing_by all_goals (rw [List.length_cons] at *; omega)

end

theorem exists_cons_of_append {t : Token} {rest xs r : List Token} (h : t :: rest = xs ++ r)
    (hlt : r.length < (t :: rest).length) : ∃ xs1, xs = t :: xs1 ∧ rest = xs1 ++ r := by
  cases xs with
  | nil =>
    rw [List.nil_append] at h
    rw [h] at hlt
    exact absurd hlt (Nat.lt_irrefl _)
  | cons x xs1 =>
    rw [List.cons_append, List.cons.injEq] at h
    exact ⟨xs1, h.1 ▸ rfl, h.2⟩

theorem exists_split_of_suffix {xs r s : List Token} (h1 : s <:+ xs ++ r) (h2 : r <:+ s) :
    ∃ ys zs, xs = ys ++ zs ∧ s = zs ++ r := by
  obtain ⟨zs, rfl⟩ := h2
  obtain ⟨ys, hys⟩ := h1
  refine ⟨ys, zs, ?_, rfl⟩
  rw [← List.append_assoc] at hys
  exact (List.append_cancel_right hys).symm

/-! ### Reading renumbered tokens -/

variable {g : Nat → Nat}

mutual

/-- A form read from tokens reads, at any smaller depth and with anything after the tokens it
consumed, from those tokens renumbered, to the form renumbered. -/
theorem ReadsForm.mapPos {d d' : Nat} {ts xs r : List Token} {f : Form}
    (h : ReadsForm cx d ts f r) (hts : ts = xs ++ r) (hd : d' ≤ d)
    (hmax : cx'.maxDepth = cx.maxDepth) (r' : List Token) :
    ReadsForm cx' d' (xs.map (Token.mapPos g) ++ r') (f.mapPos g) r' := by
  match ts with
  | [] => exact absurd h readsForm_nil
  | t :: rest =>
    obtain ⟨xs1, rfl, hrest⟩ := exists_cons_of_append hts h.length_lt
    rcases readsForm_cons_iff.1 h with ⟨hopen, hdep, hI⟩ |
      ⟨htag, hdep, r1, hS, hpk, v, hV, rfl⟩ | ⟨hopen, htag, hA, rfl⟩
    · exact readsForm_cons_iff.2 (.inl ⟨hopen, by omega, hI.mapPos hrest hd hmax r'⟩)
    · -- the skipped tokens come first, then those of the value
      obtain ⟨ys, zs, rfl, rfl⟩ := exists_split_of_suffix (hrest ▸ hS.suffix) hV.suffix
      have hzs : zs ≠ [] := by
        rintro rfl
        exact absurd hV.length_lt (Nat.lt_irrefl _)
      have := hS.length_le
      have hpeek := peekKind_map_append (g := g) hzs r r'
      rw [List.map_cons, List.cons_append]
      refine readsForm_cons_iff.2 (.inr (.inl ⟨htag, by omega, zs.map (Token.mapPos g) ++ r',
        ?_, hpeek ▸ hpk, v.mapPos g, hV.mapPos rfl (Nat.succ_le_succ hd) hmax r', ?_⟩))
      · rw [List.map_append, List.append_assoc]
        exact hS.mapPos (hrest.trans (List.append_assoc ..)) (Nat.succ_le_succ hd) hmax
          (hpeek ▸ hS.peekKind_ne)
      · simp [Form.mapPos, Span.mapPos]
    · obtain rfl : xs1 = [] := by
        simpa using hrest
      exact readsForm_cons_iff.2 (.inr (.inr ⟨hopen, htag, atom_mapPos hA, rfl⟩))
termination_by 3 * ts.length
decreasing_by all_goals (simp only [List.length_cons]; omega)

theorem ReadsItems.mapPos {opener : Token} {d d' : Nat} {acc : List Form}
    {ts xs r : List Token} {f : Form} (h : ReadsItems cx opener d acc ts f r)
    (hts : ts = xs ++ r) (hd : d' ≤ d) (hmax : cx'.maxDepth = cx.maxDepth) (r' : List Token) :
    ReadsItems cx' (opener.mapPos g) d' (acc.map (Form.mapPos g))
      (xs.map (Token.mapPos g) ++ r') (f.mapPos g) r' := by
  obtain ⟨t, rest, hS, ⟨hc, hC, rfl⟩ | ⟨hc, heof, hclose, i, ts2, hF, hI⟩⟩ :=
    readsItems_iff.1 h
  · -- the skipped tokens, then the closer
    obtain ⟨ys, zs, rfl, hz⟩ := exists_split_of_suffix (hts ▸ hS.suffix) (List.suffix_cons t r)
    obtain rfl : zs = [t] := List.append_cancel_right (hz.symm : zs ++ r = [t] ++ r)
    have := hS.length_le
    refine readsItems_iff.2 ⟨t.mapPos g, r', ?_, .inl ⟨hc, ?_, rfl⟩⟩
    · rw [List.map_append, List.append_assoc]
      exact hS.mapPos (hts.trans (List.append_assoc ..)) (Nat.succ_le_succ hd) hmax
        hS.peekKind_ne
    · rw [← List.map_reverse]
      exact collection_mapPos hC
  · -- the skipped tokens, an item, then the items after it
    obtain ⟨ys, zs, rfl, hzs⟩ :=
      exists_split_of_suffix (hts ▸ hS.suffix) (hI.suffix.trans hF.suffix)
    obtain ⟨zs1, zs2, rfl, rfl⟩ := exists_split_of_suffix (hzs ▸ hF.suffix) hI.suffix
    obtain ⟨zs1', rfl, hrest⟩ :=
      exists_cons_of_append (hzs.trans (List.append_assoc ..)) hF.length_lt
    have := hS.length_le
    have := hF.length_lt
    refine readsItems_iff.2 ⟨t.mapPos g, zs1'.map (Token.mapPos g) ++
      (zs2.map (Token.mapPos g) ++ r'), ?_, .inr ⟨hc, heof, hclose, i.mapPos g,
        zs2.map (Token.mapPos g) ++ r', ?_, hI.mapPos rfl hd hmax r'⟩⟩
    · rw [List.map_append, List.map_append, List.append_assoc, List.append_assoc]
      refine hS.mapPos ?_ (Nat.succ_le_succ hd) hmax hS.peekKind_ne
      rw [hts, hrest]
      simp
    · exact hF.mapPos (show t :: rest = (t :: zs1') ++ (zs2 ++ r) by rw [hrest]; rfl)
        (Nat.succ_le_succ hd) hmax _
termination_by 3 * ts.length + 2
decreasing_by all_goals omega

theorem Skips.mapPos {d d' p m m' : Nat} {ts xs r : List Token} (h : Skips cx d p m ts r)
    (hts : ts = xs ++ r) (hd : d' ≤ d) (hmax : cx'.maxDepth = cx.maxDepth) {r' : List Token}
    (hr' : peekKind r' ≠ .discard) :
    Skips cx' d' p m' (xs.map (Token.mapPos g) ++ r') r' := by
  match ts with
  | [] =>
    obtain ⟨rfl, rfl⟩ := skips_nil_iff.1 h
    obtain rfl : xs = [] := (List.append_eq_nil_iff.1 hts.symm).1
    exact skips_self hr'
  | t :: rest =>
    rcases skips_cons_iff.1 h with ⟨hdis, hS⟩ | ⟨hdis, rfl, rfl⟩ |
      ⟨hdis, hp, heof, hclose, i, r1, hF, hS⟩
    · have := hS.length_le
      obtain ⟨xs1, rfl, hrest⟩ := exists_cons_of_append hts
        (by simp only [List.length_cons]; omega)
      exact skips_cons_iff.2 (.inl ⟨hdis, hS.mapPos hrest hd hmax hr'⟩)
    · obtain rfl : xs = [] := by
        simpa using hts
      exact skips_self hr'
    · -- a discarded form, then the rest of the markers' forms
      obtain ⟨zs1, zs2, rfl, rfl⟩ := exists_split_of_suffix (hts ▸ hF.suffix) hS.suffix
      obtain ⟨zs1', rfl, hrest⟩ :=
        exists_cons_of_append (hts.trans (List.append_assoc ..)) hF.length_lt
      have := hF.length_lt
      rw [List.map_append, List.append_assoc]
      exact skips_cons_iff.2 (.inr (.inr ⟨hdis, hp, heof, hclose, i.mapPos g,
        zs2.map (Token.mapPos g) ++ r',
        hF.mapPos (show t :: rest = (t :: zs1') ++ (zs2 ++ r) by rw [hrest]; rfl) hd hmax _,
        hS.mapPos rfl hd hmax hr'⟩))
termination_by 3 * ts.length + 1
decreasing_by all_goals (rw [List.length_cons] at *; omega)

end

end Xtql.Edn
