import Xtql.Proofs.Edn.ReadErrors
import Xtql.Proofs.Edn.Relocate

/-!
Discard markers read by their grammar `D*`, `D ::= #_ F`, `F ::= D* item`: the reader's
counting loop succeeds and fails exactly as the grammar does (`skipDiscarded_refines_grammar`).
-/

namespace Xtql.Edn

section

variable (cx : ReadContext) (d : Nat)

/-- The markers at the head of `ts`, read by their grammar, leave `r`. `last` is the offset of the
marker read before them, `last'` that of the last marker read. -/
inductive Discarding : Nat → List Token → List Token → Nat → Prop
  | stop {last : Nat} {ts : List Token} (h : peekKind ts ≠ .discard) : Discarding last ts ts last
  | marker {last last1 last2 : Nat} {t : Token} {rest ts1 r1 r : List Token} {f : Form}
      (ht : t.kind = .discard) (hinner : Discarding t.offset rest ts1 last1)
      (hitem : ReadsForm cx d ts1 f r1) (hmore : Discarding last1 r1 r last2) :
      Discarding last (t :: rest) r last2

def ItemFails (last : Nat) (ts : List Token) (e : ParseError) : Prop :=
  peekKind ts = .eof ∧ e = cx.fail .discardAtEnd cx.size ∨
    (∃ u us, ts = u :: us ∧ u.kind.isClose = true ∧ e = cx.fail (.discardBeforeCloser u.kind) last) ∨
    ∃ u us, ts = u :: us ∧ u.kind ≠ .eof ∧ u.kind.isClose = false ∧ readForm cx d (u :: us) = .error e

/-- Reading the markers at the head of `ts` by their grammar fails with `e`: the markers of an
item fail, the item fails, or the markers after it fail. -/
inductive DiscardingFails : Nat → List Token → ParseError → Prop
  | inner {last : Nat} {t : Token} {rest : List Token} {e : ParseError} (ht : t.kind = .discard)
      (h : DiscardingFails t.offset rest e) : DiscardingFails last (t :: rest) e
  | item {last last1 : Nat} {t : Token} {rest ts1 : List Token} {e : ParseError}
      (ht : t.kind = .discard) (hinner : Discarding cx d t.offset rest ts1 last1)
      (h : ItemFails cx d last1 ts1 e) : DiscardingFails last (t :: rest) e
  | more {last last1 : Nat} {t : Token} {rest ts1 r1 : List Token} {f : Form} {e : ParseError}
      (ht : t.kind = .discard) (hinner : Discarding cx d t.offset rest ts1 last1)
      (hitem : ReadsForm cx d ts1 f r1) (h : DiscardingFails last1 r1 e) :
      DiscardingFails last (t :: rest) e

/-- `p` discarded items still to read, each after the markers of its own, then the markers after
them, leave `r`. -/
def Finishes : Nat → Nat → List Token → List Token → Prop
  | 0, last, ts, r => ∃ last', Discarding cx d last ts r last'
  | p + 1, last, ts, r => ∃ ts1 last1 f r1, Discarding cx d last ts ts1 last1 ∧
      ReadsForm cx d ts1 f r1 ∧ Finishes p last1 r1 r

def FinishFails : Nat → Nat → List Token → ParseError → Prop
  | 0, last, ts, e => DiscardingFails cx d last ts e
  | p + 1, last, ts, e => DiscardingFails cx d last ts e ∨ ∃ ts1 last1,
      Discarding cx d last ts ts1 last1 ∧
        (ItemFails cx d last1 ts1 e ∨ ∃ f r1, ReadsForm cx d ts1 f r1 ∧ FinishFails p last1 r1 e)

end

section

variable {cx : ReadContext} {d : Nat}

/-! ### The grammar, one marker at a time -/

theorem discarding_marker_iff {last last2 : Nat} {t : Token} {rest r : List Token}
    (ht : t.kind = .discard) :
    Discarding cx d last (t :: rest) r last2 ↔ ∃ ts1 last1 f r1,
      Discarding cx d t.offset rest ts1 last1 ∧ ReadsForm cx d ts1 f r1 ∧
        Discarding cx d last1 r1 r last2 := by
  constructor
  · rintro (⟨h⟩ | ⟨_, hinner, hitem, hmore⟩)
    · exact absurd ht h
    · exact ⟨_, _, _, _, hinner, hitem, hmore⟩
  · rintro ⟨ts1, last1, f, r1, hinner, hitem, hmore⟩
    exact .marker ht hinner hitem hmore

theorem discarding_stop_iff {last last' : Nat} {ts r : List Token} (h : peekKind ts ≠ .discard) :
    Discarding cx d last ts r last' ↔ r = ts ∧ last' = last := by
  constructor
  · rintro (_ | ⟨ht, -, -, -⟩)
    · exact ⟨rfl, rfl⟩
    · exact absurd ht h
  · rintro ⟨rfl, rfl⟩
    exact .stop h

theorem discardingFails_stop {last : Nat} {ts : List Token} {e : ParseError}
    (h : peekKind ts ≠ .discard) : ¬ DiscardingFails cx d last ts e := by
  rintro (⟨ht⟩ | ⟨ht⟩ | ⟨ht⟩) <;> exact h ht

theorem Discarding.stops {last last' : Nat} {ts r : List Token}
    (h : Discarding cx d last ts r last') : peekKind r ≠ .discard ∧ r <:+ ts := by
  induction h with
  | stop h => exact ⟨h, List.suffix_refl _⟩
  | @marker _ _ _ t rest _ _ _ _ _ _ hitem _ ih1 ih2 =>
    exact ⟨ih2.1, ih2.2.trans (hitem.suffix.trans (ih1.2.trans (List.suffix_cons t rest)))⟩

/-! ### Pending markers as items still to read -/

theorem finishes_marker {p last : Nat} {t : Token} {rest r : List Token} (ht : t.kind = .discard) :
    Finishes cx d p last (t :: rest) r ↔ Finishes cx d (p + 1) t.offset rest r := by
  cases p with
  | zero =>
    simp only [Finishes, discarding_marker_iff ht]
    constructor
    · rintro ⟨last', ts1, last1, f, r1, hinner, hitem, hmore⟩
      exact ⟨ts1, last1, f, r1, hinner, hitem, last', hmore⟩
    · rintro ⟨ts1, last1, f, r1, hinner, hitem, last', hmore⟩
      exact ⟨last', ts1, last1, f, r1, hinner, hitem, hmore⟩
  | succ p =>
    simp only [Finishes, discarding_marker_iff ht]
    constructor
    · rintro ⟨ts2, last2, g, r2, ⟨ts1, last1, f, r1, hinner, hitem, hmore⟩, hitem2, hfin⟩
      exact ⟨ts1, last1, f, r1, hinner, hitem, ts2, last2, g, r2, hmore, hitem2, hfin⟩
    · rintro ⟨ts1, last1, f, r1, hinner, hitem, ts2, last2, g, r2, hmore, hitem2, hfin⟩
      exact ⟨ts2, last2, g, r2, ⟨ts1, last1, f, r1, hinner, hitem, hmore⟩, hitem2, hfin⟩

theorem finishFails_marker {p last : Nat} {t : Token} {rest : List Token} {e : ParseError}
    (ht : t.kind = .discard) :
    FinishFails cx d p last (t :: rest) e ↔ FinishFails cx d (p + 1) t.offset rest e := by
  have hfails : DiscardingFails cx d last (t :: rest) e ↔ DiscardingFails cx d t.offset rest e ∨
      ∃ ts1 last1, Discarding cx d t.offset rest ts1 last1 ∧ (ItemFails cx d last1 ts1 e ∨
        ∃ f r1, ReadsForm cx d ts1 f r1 ∧ DiscardingFails cx d last1 r1 e) := by
    constructor
    · rintro (⟨_, h⟩ | ⟨_, hinner, h⟩ | ⟨_, hinner, hitem, h⟩)
      · exact .inl h
      · exact .inr ⟨_, _, hinner, .inl h⟩
      · exact .inr ⟨_, _, hinner, .inr ⟨_, _, hitem, h⟩⟩
    · rintro (h | ⟨ts1, last1, hinner, h | ⟨f, r1, hitem, h⟩⟩)
      · exact .inner ht h
      · exact .item ht hinner h
      · exact .more ht hinner hitem h
  cases p with
  | zero => simp only [FinishFails, hfails]
  | succ p =>
    simp only [FinishFails, hfails, discarding_marker_iff ht]
    constructor
    · rintro ((h | ⟨ts1, last1, hinner, h | ⟨f, r1, hitem, h⟩⟩) |
        ⟨ts2, last2, ⟨ts1, last1, f, r1, hinner, hitem, hmore⟩, h⟩)
      · exact .inl h
      · exact .inr ⟨ts1, last1, hinner, .inl h⟩
      · exact .inr ⟨ts1, last1, hinner, .inr ⟨f, r1, hitem, .inl h⟩⟩
      · exact .inr ⟨ts1, last1, hinner, .inr ⟨f, r1, hitem, .inr ⟨ts2, last2, hmore, h⟩⟩⟩
    · rintro (h | ⟨ts1, last1, hinner, h | ⟨f, r1, hitem, h | ⟨ts2, last2, hmore, h'⟩⟩⟩)
      · exact .inl (.inl h)
      · exact .inl (.inr ⟨ts1, last1, hinner, .inl h⟩)
      · exact .inl (.inr ⟨ts1, last1, hinner, .inr ⟨f, r1, hitem, h⟩⟩)
      · exact .inr ⟨ts2, last2, ⟨ts1, last1, f, r1, hinner, hitem, hmore⟩, h'⟩

theorem ReadsForm.head_kind {t : Token} {rest r : List Token} {f : Form}
    (h : ReadsForm cx d (t :: rest) f r) : t.kind ≠ .eof ∧ t.kind.isClose = false := by
  rcases readsForm_cons_iff.1 h with ⟨hopen, -, -⟩ | ⟨htag, -⟩ | ⟨-, -, hA, -⟩
  · revert hopen
    cases t.kind <;> decide
  · rw [htag]
    decide
  · unfold atom at hA
    cases hk : t.kind <;> simp only [hk] at hA ⊢ <;> (try split at hA) <;> first | decide | cases hA

/-! ### With no marker at the head -/

theorem finishes_stop {last : Nat} {ts r : List Token} (h : peekKind ts ≠ .discard) :
    Finishes cx d 0 last ts r ↔ r = ts := by
  simp only [Finishes, discarding_stop_iff h]
  exact ⟨fun ⟨_, hr, _⟩ => hr, fun hr => ⟨last, hr, rfl⟩⟩

theorem finishes_item {p last : Nat} {t : Token} {rest r : List Token} (ht : t.kind ≠ .discard) :
    Finishes cx d (p + 1) last (t :: rest) r ↔
      ∃ f r1, ReadsForm cx d (t :: rest) f r1 ∧ Finishes cx d p last r1 r := by
  simp only [Finishes, discarding_stop_iff (show peekKind (t :: rest) ≠ .discard from ht)]
  constructor
  · rintro ⟨_, _, f, r1, ⟨rfl, rfl⟩, hitem, hfin⟩
    exact ⟨f, r1, hitem, hfin⟩
  · rintro ⟨f, r1, hitem, hfin⟩
    exact ⟨_, _, f, r1, ⟨rfl, rfl⟩, hitem, hfin⟩

theorem finishes_nil {p last : Nat} {r : List Token} :
    Finishes cx d p last [] r ↔ p = 0 ∧ r = [] := by
  have hnil : peekKind ([] : List Token) ≠ .discard := by decide
  cases p with
  | zero => simp [finishes_stop hnil]
  | succ p =>
    simp only [Finishes, discarding_stop_iff hnil]
    simp only [Nat.add_one_ne_zero, false_and, iff_false]
    rintro ⟨_, _, f, r1, ⟨rfl, rfl⟩, hitem, -⟩
    exact readsForm_nil hitem

theorem finishFails_item {p last : Nat} {t : Token} {rest : List Token} {e : ParseError}
    (ht : t.kind ≠ .discard) :
    FinishFails cx d (p + 1) last (t :: rest) e ↔ ItemFails cx d last (t :: rest) e ∨
      ∃ f r1, ReadsForm cx d (t :: rest) f r1 ∧ FinishFails cx d p last r1 e := by
  have hd : peekKind (t :: rest) ≠ .discard := ht
  simp only [FinishFails, discarding_stop_iff hd, iff_false_intro (discardingFails_stop hd),
    false_or]
  constructor
  · rintro ⟨_, _, ⟨rfl, rfl⟩, h⟩
    exact h
  · intro h
    exact ⟨_, _, ⟨rfl, rfl⟩, h⟩

theorem finishFails_nil {p last : Nat} {e : ParseError} :
    FinishFails cx d p last [] e ↔ p ≠ 0 ∧ e = cx.fail .discardAtEnd cx.size := by
  have hnil : peekKind ([] : List Token) ≠ .discard := by decide
  cases p with
  | zero => simp [FinishFails, discardingFails_stop hnil]
  | succ p =>
    simp only [FinishFails, discarding_stop_iff hnil, iff_false_intro (discardingFails_stop hnil),
      false_or, ne_eq, Nat.add_one_ne_zero, not_false_eq_true, true_and]
    constructor
    · rintro ⟨_, _, ⟨rfl, rfl⟩, (⟨-, he⟩ | ⟨u, us, h, -⟩ | ⟨u, us, h, -⟩) | ⟨f, r1, hitem, -⟩⟩
      · exact he
      · cases h
      · cases h
      · exact absurd hitem readsForm_nil
    · intro he
      exact ⟨_, _, ⟨rfl, rfl⟩, .inl (.inl ⟨rfl, he⟩)⟩

/-! ### The counting loop against the grammar -/

/-- Skipping with `p` markers pending succeeds exactly as reading `p` items, each after its own
markers, and then the markers after them. -/
theorem skips_iff_finishes {p m : Nat} {ts r : List Token} :
    Skips cx d p m ts r ↔ Finishes cx d p m ts r := by
  match ts with
  | [] => rw [skips_nil_iff, finishes_nil]
  | t :: rest =>
    by_cases ht : t.kind = .discard
    · rw [finishes_marker ht, ← skips_iff_finishes, skips_cons_iff]
      constructor
      · rintro (⟨-, h⟩ | ⟨h, -⟩ | ⟨h, -⟩)
        · exact h
        · exact absurd ht h
        · exact absurd ht h
      · exact fun h => .inl ⟨ht, h⟩
    · cases p with
      | zero =>
        rw [finishes_stop (show peekKind (t :: rest) ≠ .discard from ht), skips_cons_iff]
        constructor
        · rintro (⟨h, -⟩ | ⟨-, -, hr⟩ | ⟨-, h, -⟩)
          · exact absurd h ht
          · exact hr
          · exact absurd rfl h
        · rintro rfl
          exact .inr (.inl ⟨ht, rfl, rfl⟩)
      | succ q =>
        rw [finishes_item ht, skips_cons_iff]
        constructor
        · rintro (⟨h, -⟩ | ⟨-, h, -⟩ | ⟨-, -, -, -, g, r1, hitem, hS⟩)
          · exact absurd h ht
          · exact absurd h (Nat.add_one_ne_zero q)
          · have := hitem.length_lt
            exact ⟨g, r1, hitem, skips_iff_finishes.1 (by simpa using hS)⟩
        · rintro ⟨g, r1, hitem, hfin⟩
          have := hitem.length_lt
          obtain ⟨heof, hclose⟩ := hitem.head_kind
          exact .inr (.inr ⟨ht, Nat.add_one_ne_zero q, heof, hclose, g, r1, hitem,
            by simpa using skips_iff_finishes.2 hfin⟩)
termination_by ts.length
decreasing_by all_goals (simp only [List.length_cons]; omega)

/-- Skipping with `p` markers pending fails exactly as reading `p` items, each after its own
markers, and then the markers after them. -/
theorem skipDiscarded_error_iff {p m : Nat} {ts : List Token} {e : ParseError} :
    skipDiscarded cx d p m ts = .error e ↔ FinishFails cx d p m ts e := by
  match ts with
  | [] => rw [skipDiscarded_nil_error, finishFails_nil]
  | t :: rest =>
    by_cases ht : t.kind = .discard
    · rw [finishFails_marker ht, ← skipDiscarded_error_iff, skipDiscarded_cons_error_iff]
      constructor
      · rintro (⟨-, h⟩ | ⟨h, -⟩)
        · exact h
        · exact absurd ht h
      · exact fun h => .inl ⟨ht, h⟩
    · cases p with
      | zero =>
        have hd : peekKind (t :: rest) ≠ .discard := ht
        simp only [FinishFails, iff_false_intro (discardingFails_stop hd), iff_false]
        rw [skipDiscarded_cons_error_iff]
        rintro (⟨h, -⟩ | ⟨-, h, -⟩)
        · exact ht h
        · exact h rfl
      | succ q =>
        rw [finishFails_item ht, skipDiscarded_cons_error_iff]
        simp only [ht, false_and, false_or, ne_eq, not_false_eq_true, Nat.add_one_ne_zero,
          true_and, Nat.add_sub_cancel]
        constructor
        · rintro (⟨heof, rfl⟩ | ⟨heof, hclose, rfl⟩ | ⟨heof, hclose, hF | ⟨g, r1, hitem, hS⟩⟩)
          · exact .inl (.inl ⟨by simp [peekKind, heof], rfl⟩)
          · exact .inl (.inr (.inl ⟨t, rest, rfl, hclose, rfl⟩))
          · exact .inl (.inr (.inr ⟨t, rest, rfl, heof, hclose, hF⟩))
          · have := hitem.length_lt
            exact .inr ⟨g, r1, hitem, skipDiscarded_error_iff.1 hS⟩
        · rintro ((⟨heof, rfl⟩ | ⟨u, us, h, hclose, rfl⟩ | ⟨u, us, h, heof, hclose, hF⟩) |
            ⟨g, r1, hitem, hfin⟩)
          · exact .inl ⟨by simpa [peekKind] using heof, rfl⟩
          · obtain ⟨rfl, rfl⟩ := List.cons.inj h
            exact .inr (.inl ⟨fun h' => (by rw [h'] at hclose; cases hclose), hclose, rfl⟩)
          · obtain ⟨rfl, rfl⟩ := List.cons.inj h
            exact .inr (.inr ⟨heof, hclose, .inl hF⟩)
          · have := hitem.length_lt
            obtain ⟨heof, hclose⟩ := hitem.head_kind
            exact .inr (.inr ⟨heof, hclose, .inr ⟨g, r1, hitem, skipDiscarded_error_iff.2 hfin⟩⟩)
termination_by ts.length
decreasing_by all_goals (simp only [List.length_cons]; omega)

end

/-! ### Where the reader reads a form -/

variable {cx : ReadContext}

/-- The failures a form read at a marker or at the end of the tokens would give: a stray marker,
or the end where a form should be. -/
def AtMarkerOrEnd (p : Problem) : Prop := p = .strayDiscard ∨ p = .unexpectedEnd

theorem atom_error_atMarkerOrEnd {t : Token} {e : ParseError} (h : atom cx t = .error e)
    (hp : AtMarkerOrEnd e.problem) : t.kind = .discard ∨ t.kind = .eof ∨ t.kind = .tag ∨
      t.kind.isOpen = true := by
  cases hk : t.kind <;> simp only [atom, hk] at h <;> (try split at h) <;> cases h <;>
    simp [AtMarkerOrEnd, ReadContext.fail] at hp <;> simp [TokenKind.isOpen]

theorem collection_error_atMarkerOrEnd {opener : Token} {items : List Form} {span : Span}
    {e : ParseError} (h : collection cx opener items span = .error e) :
    ¬ AtMarkerOrEnd e.problem := by
  unfold collection at h
  split at h <;> (try split at h) <;> cases h <;> simp [AtMarkerOrEnd, ReadContext.fail]

theorem fail_not_atMarkerOrEnd {p : Problem} (hp : ¬ AtMarkerOrEnd p) (o : Nat) :
    ¬ AtMarkerOrEnd (cx.fail p o).problem := hp

mutual

theorem readForm_error_not_atMarkerOrEnd {d : Nat} {ts : List Token} {e : ParseError}
    (h : readForm cx d ts = .error e) (hm : peekKind ts ≠ .discard) (he : peekKind ts ≠ .eof) :
    ¬ AtMarkerOrEnd e.problem := by
  match ts with
  | [] => exact absurd rfl he
  | t :: rest =>
    rcases readForm_cons_error_iff.1 h with ⟨hopen, ⟨-, rfl⟩ | ⟨-, hI⟩⟩ |
      ⟨htag, ⟨-, rfl⟩ | ⟨-, hS | ⟨r1, hS, ⟨-, rfl⟩ | ⟨heof, hV⟩⟩⟩⟩ | ⟨hopen, htag, hA⟩
    · exact fail_not_atMarkerOrEnd (by simp [AtMarkerOrEnd]) _
    · exact readItems_error_not_atMarkerOrEnd hI
    · exact fail_not_atMarkerOrEnd (by simp [AtMarkerOrEnd]) _
    · exact skipDiscarded_error_not_atMarkerOrEnd hS
    · exact fail_not_atMarkerOrEnd (by simp [AtMarkerOrEnd]) _
    · have := hS.length_le
      exact readForm_error_not_atMarkerOrEnd hV hS.peekKind_ne heof
    · intro hp
      rcases atom_error_atMarkerOrEnd hA hp with h' | h' | h' | h'
      · exact hm h'
      · exact he h'
      · exact htag h'
      · rw [hopen] at h'
        cases h'
termination_by 3 * ts.length
decreasing_by all_goals (simp only [List.length_cons]; omega)

theorem readItems_error_not_atMarkerOrEnd {d : Nat} {opener : Token} {acc : List Form}
    {ts : List Token} {e : ParseError} (h : readItems cx opener d acc ts = .error e) :
    ¬ AtMarkerOrEnd e.problem := by
  rcases readItems_error_iff.1 h with hS | ⟨-, rfl⟩ | ⟨t, rest, hS, ⟨-, hC⟩ | ⟨-, -, rfl⟩ |
      ⟨-, -, -, rfl⟩ | ⟨-, heof, -, hF | ⟨g, ts2, hF, hI⟩⟩⟩
  · exact skipDiscarded_error_not_atMarkerOrEnd hS
  · exact fail_not_atMarkerOrEnd (by simp [AtMarkerOrEnd]) _
  · exact collection_error_atMarkerOrEnd hC
  · exact fail_not_atMarkerOrEnd (by simp [AtMarkerOrEnd]) _
  · exact fail_not_atMarkerOrEnd (by simp [AtMarkerOrEnd]) _
  · have := hS.length_le
    exact readForm_error_not_atMarkerOrEnd hF hS.peekKind_ne heof
  · have := hS.length_le
    have := hF.length_lt
    exact readItems_error_not_atMarkerOrEnd hI
termination_by 3 * ts.length + 2
decreasing_by all_goals omega

theorem skipDiscarded_error_not_atMarkerOrEnd {d p m : Nat} {ts : List Token} {e : ParseError}
    (h : skipDiscarded cx d p m ts = .error e) : ¬ AtMarkerOrEnd e.problem := by
  match ts with
  | [] =>
    obtain ⟨-, rfl⟩ := skipDiscarded_nil_error.1 h
    exact fail_not_atMarkerOrEnd (by simp [AtMarkerOrEnd]) _
  | t :: rest =>
    rcases skipDiscarded_cons_error_iff.1 h with ⟨-, hS⟩ |
      ⟨hdis, -, ⟨-, rfl⟩ | ⟨-, -, rfl⟩ | ⟨heof, -, hF | ⟨g, r1, hF, hS⟩⟩⟩
    · exact skipDiscarded_error_not_atMarkerOrEnd hS
    · exact fail_not_atMarkerOrEnd (by simp [AtMarkerOrEnd]) _
    · exact fail_not_atMarkerOrEnd (by simp [AtMarkerOrEnd]) _
    · exact readForm_error_not_atMarkerOrEnd hF hdis heof
    · have := hF.length_lt
      exact skipDiscarded_error_not_atMarkerOrEnd hS
termination_by 3 * ts.length + 1
decreasing_by all_goals (rw [List.length_cons] at *; omega)

end

/-- Reading a text never fails at a stray marker or at the end of its tokens where a form should
be: every form is read at a token that is neither. -/
theorem read_error_not_atMarkerOrEnd {s : String} {depth : Nat} {e : ParseError}
    (h : read s depth = .error e) : ¬ AtMarkerOrEnd e.problem := by
  rcases read_error_iff.1 h with hS | ⟨r1, hS, ⟨-, rfl⟩ | ⟨heof, hF | ⟨f, r2, -, hS' |
      ⟨t, r3, -, -, rfl⟩⟩⟩⟩
  · exact skipDiscarded_error_not_atMarkerOrEnd hS
  · exact fail_not_atMarkerOrEnd (by simp [AtMarkerOrEnd]) _
  · exact readForm_error_not_atMarkerOrEnd hF hS.peekKind_ne heof
  · exact skipDiscarded_error_not_atMarkerOrEnd hS'
  · exact fail_not_atMarkerOrEnd (by simp [AtMarkerOrEnd]) _

/-- Skipping discard markers by counting them reads them by their grammar `D*`, `D ::= #_ F`,
`F ::= D* item`, each item read as a form at the same depth: it succeeds exactly when the grammar
reads the markers at the head, leaving the same tokens, which begin with no marker and follow a
prefix; and it fails exactly when the grammar fails, with the failure of an item that fails, at the
end when the tokens end with a marker pending, and at the last marker when a closer follows a
pending one. Hence reading a text never fails with a stray marker or with the end of input where a
form should be. -/
theorem skipDiscarded_refines_grammar (cx : ReadContext) (d m : Nat) (ts : List Token) :
    (∀ r, Skips cx d 0 m ts r ↔ ∃ last, Discarding cx d m ts r last) ∧
    (∀ r last, Discarding cx d m ts r last → peekKind r ≠ .discard ∧ r <:+ ts) ∧
    (∀ e, skipDiscarded cx d 0 m ts = .error e ↔ DiscardingFails cx d m ts e) ∧
    ∀ (s : String) (depth : Nat) (e : ParseError), read s depth = .error e →
      e.problem ≠ .strayDiscard ∧ e.problem ≠ .unexpectedEnd := by
  refine ⟨fun r => skips_iff_finishes, fun r last h => h.stops, fun e => skipDiscarded_error_iff,
    fun s depth e h => ?_⟩
  have := read_error_not_atMarkerOrEnd h
  simp only [AtMarkerOrEnd, not_or] at this
  exact this

end Xtql.Edn
