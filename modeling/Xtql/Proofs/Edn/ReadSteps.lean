import Xtql.Edn.Reader

/-! One step of the reader, as relations. `ReadsForm`, `ReadsItems` and `Skips` say that a
reading function succeeds with a given result and leaves given tokens; each has one lemma that
says everything a successful step can do, as an `↔`, so later proofs take a run apart with
`obtain` and build one with `refine`, and never unfold the reader. -/

namespace Xtql.Edn

variable {cx : ReadContext}

/-- Reading the form at the head of `ts` at depth `d` gives `f` and leaves `r`. -/
def ReadsForm (cx : ReadContext) (d : Nat) (ts : List Token) (f : Form) (r : List Token) : Prop :=
  ∃ h, readForm cx d ts = .ok (f, ⟨r, h⟩)

/-- Reading the items of the collection `opener` starts, after `acc`, gives `f` and leaves `r`. -/
def ReadsItems (cx : ReadContext) (opener : Token) (d : Nat) (acc : List Form) (ts : List Token)
    (f : Form) (r : List Token) : Prop :=
  ∃ h, readItems cx opener d acc ts = .ok (f, ⟨r, h⟩)

/-- Skipping `pending` discarded forms and the markers after them leaves `r`. -/
def Skips (cx : ReadContext) (d pending marker : Nat) (ts r : List Token) : Prop :=
  ∃ h, skipDiscarded cx d pending marker ts = .ok ⟨r, h⟩

theorem ReadsForm.length_lt {d : Nat} {ts : List Token} {f : Form} {r : List Token}
    (h : ReadsForm cx d ts f r) : r.length < ts.length := h.1

theorem ReadsItems.length_lt {opener : Token} {d : Nat} {acc : List Form} {ts : List Token}
    {f : Form} {r : List Token} (h : ReadsItems cx opener d acc ts f r) :
    r.length < ts.length := h.1

theorem Skips.length_le {d p m : Nat} {ts r : List Token} (h : Skips cx d p m ts r) :
    r.length ≤ ts.length := h.1

theorem readsForm_nil {d : Nat} {f : Form} {r : List Token} : ¬ ReadsForm cx d [] f r := by
  rintro ⟨h, hr⟩
  rw [readForm] at hr
  cases hr

theorem readsForm_cons_iff {d : Nat} {t : Token} {rest : List Token} {f : Form}
    {r : List Token} :
    ReadsForm cx d (t :: rest) f r ↔
      (t.kind.isOpen = true ∧ d < cx.maxDepth ∧ ReadsItems cx t d [] rest f r) ∨
      (t.kind = .tag ∧ d < cx.maxDepth ∧ ∃ r1, Skips cx (d + 1) 0 0 rest r1 ∧
        peekKind r1 ≠ .eof ∧ ∃ v, ReadsForm cx (d + 1) r1 v r ∧
        f = .tagged t.text v ⟨t.offset, v.span.stop⟩) ∨
      (t.kind.isOpen = false ∧ t.kind ≠ .tag ∧ atom cx t = .ok f ∧ r = rest) := by
  constructor
  · rintro ⟨h, hr⟩
    rw [readForm] at hr
    by_cases hopen : t.kind.isOpen = true
    · simp only [hopen, if_true] at hr
      by_cases hd : cx.maxDepth ≤ d
      · simp [hd] at hr
      · simp only [hd, if_false] at hr
        cases hI : readItems cx t d [] rest with
        | error e => simp [hI] at hr
        | ok p =>
          obtain ⟨f', r', h'⟩ := p
          simp only [hI, Except.ok.injEq, Prod.mk.injEq, Subtype.mk.injEq] at hr
          obtain ⟨rfl, rfl⟩ := hr
          exact .inl ⟨hopen, by omega, h', hI⟩
    · simp only [hopen, Bool.false_eq_true, if_false] at hr
      by_cases htag : t.kind = .tag
      · simp only [htag, if_true] at hr
        by_cases hd : cx.maxDepth ≤ d
        · simp [hd] at hr
        · simp only [hd, if_false] at hr
          cases hS : skipDiscarded cx (d + 1) 0 0 rest with
          | error e => simp [hS] at hr
          | ok p =>
            obtain ⟨r1, h1⟩ := p
            simp only [hS] at hr
            by_cases heof : peekKind r1 = .eof
            · simp [heof] at hr
            · simp only [heof, if_false] at hr
              cases hV : readForm cx (d + 1) r1 with
              | error e => simp [hV] at hr
              | ok q =>
                obtain ⟨v, r2, h2⟩ := q
                simp only [hV, Except.ok.injEq, Prod.mk.injEq, Subtype.mk.injEq] at hr
                obtain ⟨rfl, rfl⟩ := hr
                exact .inr (.inl ⟨htag, by omega, r1, ⟨h1, hS⟩, heof, v, ⟨h2, hV⟩, rfl⟩)
      · simp only [htag, if_false] at hr
        cases hA : atom cx t with
        | error e => simp [hA] at hr
        | ok g =>
          simp only [hA, Except.ok.injEq, Prod.mk.injEq, Subtype.mk.injEq] at hr
          obtain ⟨rfl, rfl⟩ := hr
          exact .inr (.inr ⟨by simpa using hopen, htag, rfl, rfl⟩)
  · rintro (⟨hopen, hd, h', hI⟩ |
      ⟨htag, hd, r1, ⟨h1, hS⟩, heof, v, ⟨h2, hV⟩, rfl⟩ | ⟨hopen, htag, hA, rfl⟩)
    · refine ⟨by simp only [List.length_cons]; omega, ?_⟩
      rw [readForm]
      simp only [hopen, if_true, show ¬ cx.maxDepth ≤ d by omega, if_false, hI]
    · refine ⟨by simp only [List.length_cons]; omega, ?_⟩
      rw [readForm]
      simp only [htag, TokenKind.isOpen, Bool.false_eq_true, if_false, if_true,
        show ¬ cx.maxDepth ≤ d by omega, hS, heof, hV]
    · refine ⟨by simp, ?_⟩
      rw [readForm]
      simp only [hopen, Bool.false_eq_true, if_false, htag, hA]

theorem readsItems_iff {opener : Token} {d : Nat} {acc : List Form} {ts : List Token}
    {f : Form} {r : List Token} :
    ReadsItems cx opener d acc ts f r ↔
      ∃ t rest, Skips cx (d + 1) 0 0 ts (t :: rest) ∧
        ((t.kind = opener.kind.closer.getD .rparen ∧
            collection cx opener acc.reverse ⟨opener.offset, t.stop⟩ = .ok f ∧ r = rest) ∨
          (t.kind ≠ opener.kind.closer.getD .rparen ∧ t.kind ≠ .eof ∧
            t.kind.isClose = false ∧ ∃ g ts2, ReadsForm cx (d + 1) (t :: rest) g ts2 ∧
              ReadsItems cx opener d (g :: acc) ts2 f r)) := by
  constructor
  · rintro ⟨h, hr⟩
    rw [readItems] at hr
    cases hS : skipDiscarded cx (d + 1) 0 0 ts with
    | error e => simp [hS] at hr
    | ok p =>
      obtain ⟨ts1, h1⟩ := p
      simp only [hS] at hr
      cases ts1 with
      | nil => simp at hr
      | cons t rest =>
        refine ⟨t, rest, ⟨h1, hS⟩, ?_⟩
        simp only at hr
        by_cases hc : t.kind = opener.kind.closer.getD .rparen
        · simp only [hc, if_true] at hr
          cases hC : collection cx opener acc.reverse ⟨opener.offset, t.stop⟩ with
          | error e => simp [hC] at hr
          | ok g =>
            simp only [hC, Except.ok.injEq, Prod.mk.injEq, Subtype.mk.injEq] at hr
            obtain ⟨rfl, rfl⟩ := hr
            exact .inl ⟨hc, rfl, rfl⟩
        · simp only [hc, if_false] at hr
          by_cases heof : t.kind = .eof
          · simp [heof] at hr
          · simp only [heof, if_false] at hr
            by_cases hclose : t.kind.isClose = true
            · simp [hclose] at hr
            · simp only [hclose, Bool.false_eq_true, if_false] at hr
              cases hF : readForm cx (d + 1) (t :: rest) with
              | error e => simp [hF] at hr
              | ok q =>
                obtain ⟨g, ts2, h2⟩ := q
                simp only [hF] at hr
                cases hI : readItems cx opener d (g :: acc) ts2 with
                | error e => simp [hI] at hr
                | ok q' =>
                  obtain ⟨f', r', h3⟩ := q'
                  simp only [hI, Except.ok.injEq, Prod.mk.injEq, Subtype.mk.injEq] at hr
                  obtain ⟨rfl, rfl⟩ := hr
                  exact .inr ⟨hc, heof, by simpa using hclose, g, ts2, ⟨h2, hF⟩,
                    ⟨h3, hI⟩⟩
  · rintro ⟨t, rest, ⟨h1, hS⟩, ⟨hc, hC, rfl⟩ |
      ⟨hc, heof, hclose, g, ts2, ⟨h2, hF⟩, ⟨h3, hI⟩⟩⟩
    · refine ⟨by simp only [List.length_cons] at h1; omega, ?_⟩
      rw [readItems]
      simp only [hS, hc, if_true, hC]
    · refine ⟨by simp only [List.length_cons] at h1 h2; omega, ?_⟩
      rw [readItems]
      simp only [hS, hc, if_false, heof, hclose, Bool.false_eq_true, hF, hI]

theorem skips_nil_iff {d p m : Nat} {r : List Token} :
    Skips cx d p m [] r ↔ p = 0 ∧ r = [] := by
  constructor
  · rintro ⟨h, hr⟩
    rw [skipDiscarded] at hr
    by_cases hp : p = 0
    · simp only [hp, if_true, Except.ok.injEq, Subtype.mk.injEq] at hr
      exact ⟨hp, hr.symm⟩
    · simp [hp] at hr
  · rintro ⟨rfl, rfl⟩
    exact ⟨Nat.le_refl _, by rw [skipDiscarded]; rfl⟩

theorem skips_cons_iff {d p m : Nat} {t : Token} {rest r : List Token} :
    Skips cx d p m (t :: rest) r ↔
      (t.kind = .discard ∧ Skips cx d (p + 1) t.offset rest r) ∨
      (t.kind ≠ .discard ∧ p = 0 ∧ r = t :: rest) ∨
      (t.kind ≠ .discard ∧ p ≠ 0 ∧ t.kind ≠ .eof ∧ t.kind.isClose = false ∧
        ∃ g r1, ReadsForm cx d (t :: rest) g r1 ∧ Skips cx d (p - 1) m r1 r) := by
  constructor
  · rintro ⟨h, hr⟩
    rw [skipDiscarded] at hr
    by_cases hdis : t.kind = .discard
    · simp only [hdis, if_true] at hr
      cases hS : skipDiscarded cx d (p + 1) t.offset rest with
      | error e => simp [hS] at hr
      | ok q =>
        obtain ⟨r', h'⟩ := q
        simp only [hS, Except.ok.injEq, Subtype.mk.injEq] at hr
        subst hr
        exact .inl ⟨hdis, h', hS⟩
    · simp only [hdis, if_false] at hr
      by_cases hp : p = 0
      · simp only [hp, if_true, Except.ok.injEq, Subtype.mk.injEq] at hr
        exact .inr (.inl ⟨hdis, hp, hr.symm⟩)
      · simp only [hp, if_false] at hr
        by_cases heof : t.kind = .eof
        · simp [heof] at hr
        · simp only [heof, if_false] at hr
          by_cases hclose : t.kind.isClose = true
          · simp [hclose] at hr
          · simp only [hclose, Bool.false_eq_true, if_false] at hr
            cases hF : readForm cx d (t :: rest) with
            | error e => simp [hF] at hr
            | ok q =>
              obtain ⟨g, r1, h1⟩ := q
              simp only [hF] at hr
              cases hS : skipDiscarded cx d (p - 1) m r1 with
              | error e => simp [hS] at hr
              | ok q' =>
                obtain ⟨r2, h2⟩ := q'
                simp only [hS, Except.ok.injEq, Subtype.mk.injEq] at hr
                subst hr
                exact .inr (.inr ⟨hdis, hp, heof, by simpa using hclose, g, r1, ⟨h1, hF⟩,
                  ⟨h2, hS⟩⟩)
  · rintro (⟨hdis, ⟨h', hS⟩⟩ | ⟨hdis, rfl, rfl⟩ |
      ⟨hdis, hp, heof, hclose, g, r1, ⟨h1, hF⟩, ⟨h2, hS⟩⟩)
    · refine ⟨by simp only [List.length_cons]; omega, ?_⟩
      rw [skipDiscarded]
      simp only [hdis, if_true, hS]
    · exact ⟨Nat.le_refl _, by rw [skipDiscarded]; simp [hdis]⟩
    · refine ⟨by simp only [List.length_cons] at h1 ⊢; omega, ?_⟩
      rw [skipDiscarded]
      simp only [hdis, if_false, hp, heof, hclose, Bool.false_eq_true, hF, hS]

theorem Skips.peekKind_ne {d p m : Nat} {ts r : List Token} (h : Skips cx d p m ts r) :
    peekKind r ≠ .discard := by
  match ts with
  | [] =>
    obtain ⟨-, rfl⟩ := skips_nil_iff.1 h
    simp [peekKind]
  | t :: rest =>
    rcases skips_cons_iff.1 h with ⟨-, hS⟩ | ⟨hdis, -, rfl⟩ |
      ⟨-, -, -, -, g, r1, hF, hS⟩
    · exact hS.peekKind_ne
    · exact hdis
    · have := hF.length_lt
      exact hS.peekKind_ne
termination_by ts.length
decreasing_by all_goals (simp only [List.length_cons]; omega)

theorem skips_self {d m : Nat} {ts : List Token} (h : peekKind ts ≠ .discard) :
    Skips cx d 0 m ts ts := by
  cases ts with
  | nil => exact skips_nil_iff.2 ⟨rfl, rfl⟩
  | cons t rest => exact skips_cons_iff.2 (.inr (.inl ⟨h, rfl, rfl⟩))

theorem Skips.eq_self {d m : Nat} {ts r : List Token} (hp : peekKind ts ≠ .discard)
    (h : Skips cx d 0 m ts r) : r = ts := by
  cases ts with
  | nil => exact (skips_nil_iff.1 h).2
  | cons t rest =>
    rcases skips_cons_iff.1 h with ⟨hdis, -⟩ | ⟨-, -, rfl⟩ | ⟨-, hp0, -⟩
    · exact absurd hdis hp
    · rfl
    · exact absurd rfl hp0

/-- Reading the one form of a token stream: markers and their forms, the form, then markers
and their forms up to the end. -/
def ReadsTop (cx : ReadContext) (ts : List Token) (f : Form) : Prop :=
  ∃ r1, Skips cx 0 0 0 ts r1 ∧ peekKind r1 ≠ .eof ∧
    ∃ r2, ReadsForm cx 0 r1 f r2 ∧ ∃ r3, Skips cx 0 0 0 r2 r3 ∧ peekKind r3 = .eof

theorem read_ok_iff {input : String} {maxDepth : Nat} {f : Form} :
    read input maxDepth = .ok f ↔
      ReadsTop ⟨input, input.utf8ByteSize, maxDepth⟩ (tokenize input) f := by
  unfold read
  dsimp only
  constructor
  · intro h
    split at h
    · cases h
    · rename_i ts1 h1 hS
      split at h
      · cases h
      · rename_i heof
        split at h
        · cases h
        · rename_i g ts2 h2 hF
          split at h
          · cases h
          · rename_i t r3 h3 hS'
            split at h
            · rename_i ht
              cases h
              exact ⟨ts1, ⟨h1, hS⟩, heof, ts2, ⟨h2, hF⟩, t :: r3, ⟨h3, hS'⟩, ht⟩
            · cases h
          · rename_i h3 hS'
            cases h
            exact ⟨ts1, ⟨h1, hS⟩, heof, ts2, ⟨h2, hF⟩, [], ⟨h3, hS'⟩, rfl⟩
  · rintro ⟨r1, ⟨h1, hS⟩, heof, r2, ⟨h2, hF⟩, r3, ⟨h3, hS'⟩, hend⟩
    rw [hS]
    dsimp only
    rw [if_neg heof, hF]
    dsimp only
    rw [hS']
    cases r3 with
    | nil => rfl
    | cons t r3 => exact if_pos hend

end Xtql.Edn
