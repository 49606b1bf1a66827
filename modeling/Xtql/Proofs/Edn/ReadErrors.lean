import Xtql.Proofs.Edn.ReadSteps

/-!
Every way each reading function fails, as one `↔` per function.
-/

namespace Xtql.Edn

open Xtql.Text

variable {cx : ReadContext}

theorem readForm_nil_error {d : Nat} {e : ParseError} :
    readForm cx d [] = .error e ↔ e = cx.fail .unexpectedEnd cx.size := by
  rw [readForm]
  exact ⟨fun h => (Except.error.inj h).symm, fun h => h ▸ rfl⟩

theorem readForm_cons_error_iff {d : Nat} {t : Token} {rest : List Token} {e : ParseError} :
    readForm cx d (t :: rest) = .error e ↔
      (t.kind.isOpen = true ∧
        (cx.maxDepth ≤ d ∧ e = cx.fail (.tooDeep cx.maxDepth) t.offset ∨
          d < cx.maxDepth ∧ readItems cx t d [] rest = .error e)) ∨
      (t.kind = .tag ∧
        (cx.maxDepth ≤ d ∧ e = cx.fail (.tooDeep cx.maxDepth) t.offset ∨
          d < cx.maxDepth ∧ (skipDiscarded cx (d + 1) 0 0 rest = .error e ∨
            ∃ r1, Skips cx (d + 1) 0 0 rest r1 ∧
              (peekKind r1 = .eof ∧ e = cx.fail (.tagWithoutValue t.text) cx.size ∨
                peekKind r1 ≠ .eof ∧ readForm cx (d + 1) r1 = .error e)))) ∨
      (t.kind.isOpen = false ∧ t.kind ≠ .tag ∧ atom cx t = .error e) := by
  constructor
  · intro hr
    rw [readForm] at hr
    by_cases hopen : t.kind.isOpen = true
    · simp only [hopen, if_true] at hr
      by_cases hd : cx.maxDepth ≤ d
      · simp only [hd, if_true, Except.error.injEq] at hr
        exact .inl ⟨hopen, .inl ⟨hd, hr.symm⟩⟩
      · simp only [hd, if_false] at hr
        cases hI : readItems cx t d [] rest with
        | error e' =>
          simp only [hI, Except.error.injEq] at hr
          subst hr
          exact .inl ⟨hopen, .inr ⟨by omega, rfl⟩⟩
        | ok p => simp [hI] at hr
    · simp only [hopen, Bool.false_eq_true, if_false] at hr
      by_cases htag : t.kind = .tag
      · simp only [htag, if_true] at hr
        by_cases hd : cx.maxDepth ≤ d
        · simp only [hd, if_true, Except.error.injEq] at hr
          exact .inr (.inl ⟨htag, .inl ⟨hd, hr.symm⟩⟩)
        · simp only [hd, if_false] at hr
          cases hS : skipDiscarded cx (d + 1) 0 0 rest with
          | error e' =>
            simp only [hS, Except.error.injEq] at hr
            subst hr
            exact .inr (.inl ⟨htag, .inr ⟨by omega, .inl rfl⟩⟩)
          | ok p =>
            obtain ⟨r1, h1⟩ := p
            simp only [hS] at hr
            by_cases heof : peekKind r1 = .eof
            · simp only [heof, if_true, Except.error.injEq] at hr
              exact .inr (.inl ⟨htag, .inr ⟨by omega, .inr ⟨r1, ⟨h1, hS⟩, .inl ⟨heof, hr.symm⟩⟩⟩⟩)
            · simp only [heof, if_false] at hr
              cases hV : readForm cx (d + 1) r1 with
              | error e' =>
                simp only [hV, Except.error.injEq] at hr
                subst hr
                exact .inr (.inl ⟨htag, .inr ⟨by omega, .inr ⟨r1, ⟨h1, hS⟩, .inr ⟨heof, hV⟩⟩⟩⟩)
              | ok q => simp [hV] at hr
      · simp only [htag, if_false] at hr
        cases hA : atom cx t with
        | error e' =>
          simp only [hA, Except.error.injEq] at hr
          subst hr
          exact .inr (.inr ⟨by simpa using hopen, htag, rfl⟩)
        | ok g => simp [hA] at hr
  · rintro (⟨hopen, ⟨hd, rfl⟩ | ⟨hd, hI⟩⟩ |
      ⟨htag, ⟨hd, rfl⟩ | ⟨hd, hS | ⟨r1, ⟨h1, hS⟩, ⟨heof, rfl⟩ | ⟨heof, hV⟩⟩⟩⟩ |
      ⟨hopen, htag, hA⟩)
    · rw [readForm]
      simp only [hopen, if_true, hd]
    · rw [readForm]
      simp only [hopen, if_true, show ¬ cx.maxDepth ≤ d by omega, if_false, hI]
    · rw [readForm]
      simp only [htag, TokenKind.isOpen, Bool.false_eq_true, if_false, if_true, hd]
    · rw [readForm]
      simp only [htag, TokenKind.isOpen, Bool.false_eq_true, if_false, if_true,
        show ¬ cx.maxDepth ≤ d by omega, hS]
    · rw [readForm]
      simp only [htag, TokenKind.isOpen, Bool.false_eq_true, if_false, if_true,
        show ¬ cx.maxDepth ≤ d by omega, hS, heof]
    · rw [readForm]
      simp only [htag, TokenKind.isOpen, Bool.false_eq_true, if_false, if_true,
        show ¬ cx.maxDepth ≤ d by omega, hS, heof, hV]
    · rw [readForm]
      simp only [hopen, Bool.false_eq_true, if_false, htag, hA]

theorem readForm_atom_error {d : Nat} {t : Token} {rest : List Token} {e : ParseError}
    (hk : t.kind.isAtom = true) (h : atom cx t = .error e) : readForm cx d (t :: rest) = .error e := by
  have hopen : t.kind.isOpen = false := by revert hk; cases t.kind <;> decide
  have htag : t.kind ≠ .tag := by intro h; rw [h] at hk; exact absurd hk (by decide)
  exact readForm_cons_error_iff.2 (.inr (.inr ⟨hopen, htag, h⟩))

theorem readItems_error_iff {opener : Token} {d : Nat} {acc : List Form} {ts : List Token}
    {e : ParseError} :
    readItems cx opener d acc ts = .error e ↔
      skipDiscarded cx (d + 1) 0 0 ts = .error e ∨
      (Skips cx (d + 1) 0 0 ts [] ∧
        e = cx.fail (.unclosed opener.kind (Position.ofOffset cx.input opener.offset)) cx.size) ∨
      ∃ t rest, Skips cx (d + 1) 0 0 ts (t :: rest) ∧
        ((t.kind = opener.kind.closer.getD .rparen ∧
            collection cx opener acc.reverse ⟨opener.offset, t.stop⟩ = .error e) ∨
          (t.kind ≠ opener.kind.closer.getD .rparen ∧ t.kind = .eof ∧
            e = cx.fail (.unclosed opener.kind (Position.ofOffset cx.input opener.offset))
              cx.size) ∨
          (t.kind ≠ opener.kind.closer.getD .rparen ∧ t.kind ≠ .eof ∧ t.kind.isClose = true ∧
            e = cx.fail (.mismatched (opener.kind.closer.getD .rparen) opener.kind t.kind
              (Position.ofOffset cx.input opener.offset)) t.offset) ∨
          (t.kind ≠ opener.kind.closer.getD .rparen ∧ t.kind ≠ .eof ∧ t.kind.isClose = false ∧
            (readForm cx (d + 1) (t :: rest) = .error e ∨
              ∃ g ts2, ReadsForm cx (d + 1) (t :: rest) g ts2 ∧
                readItems cx opener d (g :: acc) ts2 = .error e))) := by
  constructor
  · intro hr
    rw [readItems] at hr
    cases hS : skipDiscarded cx (d + 1) 0 0 ts with
    | error e' =>
      simp only [hS, Except.error.injEq] at hr
      subst hr
      exact .inl rfl
    | ok p =>
      obtain ⟨ts1, h1⟩ := p
      simp only [hS] at hr
      cases ts1 with
      | nil =>
        simp only [Except.error.injEq] at hr
        exact .inr (.inl ⟨⟨h1, hS⟩, hr.symm⟩)
      | cons t rest =>
        refine .inr (.inr ⟨t, rest, ⟨h1, hS⟩, ?_⟩)
        simp only at hr
        by_cases hc : t.kind = opener.kind.closer.getD .rparen
        · simp only [hc, if_true] at hr
          cases hC : collection cx opener acc.reverse ⟨opener.offset, t.stop⟩ with
          | error e' =>
            simp only [hC, Except.error.injEq] at hr
            subst hr
            exact .inl ⟨hc, rfl⟩
          | ok g => simp [hC] at hr
        · simp only [hc, if_false] at hr
          by_cases heof : t.kind = .eof
          · simp only [heof, if_true, Except.error.injEq] at hr
            exact .inr (.inl ⟨hc, heof, hr.symm⟩)
          · simp only [heof, if_false] at hr
            by_cases hclose : t.kind.isClose = true
            · simp only [hclose, if_true, Except.error.injEq] at hr
              exact .inr (.inr (.inl ⟨hc, heof, hclose, hr.symm⟩))
            · simp only [hclose, Bool.false_eq_true, if_false] at hr
              have hclose' : t.kind.isClose = false := by simpa using hclose
              cases hF : readForm cx (d + 1) (t :: rest) with
              | error e' =>
                simp only [hF, Except.error.injEq] at hr
                subst hr
                exact .inr (.inr (.inr ⟨hc, heof, hclose', .inl rfl⟩))
              | ok q =>
                obtain ⟨g, ts2, h2⟩ := q
                simp only [hF] at hr
                cases hI : readItems cx opener d (g :: acc) ts2 with
                | error e' =>
                  simp only [hI, Except.error.injEq] at hr
                  subst hr
                  exact .inr (.inr (.inr ⟨hc, heof, hclose', .inr ⟨g, ts2, ⟨h2, hF⟩, hI⟩⟩))
                | ok q' => simp [hI] at hr
  · rintro (hS | ⟨⟨h1, hS⟩, rfl⟩ | ⟨t, rest, ⟨h1, hS⟩, ⟨hc, hC⟩ | ⟨hc, heof, rfl⟩ |
      ⟨hc, heof, hclose, rfl⟩ | ⟨hc, heof, hclose, hF | ⟨g, ts2, ⟨h2, hF⟩, hI⟩⟩⟩)
    · rw [readItems]
      simp only [hS]
    · rw [readItems]
      simp only [hS]
    · rw [readItems]
      simp only [hS, hc, if_true, hC]
    · have hc' : TokenKind.eof ≠ opener.kind.closer.getD .rparen := heof ▸ hc
      rw [readItems]
      simp only [hS, heof, hc', if_false, if_true]
    · rw [readItems]
      simp only [hS, hc, if_false, heof, hclose, if_true]
    · rw [readItems]
      simp only [hS, hc, if_false, heof, hclose, Bool.false_eq_true, hF]
    · rw [readItems]
      simp only [hS, hc, if_false, heof, hclose, Bool.false_eq_true, hF, hI]

theorem skipDiscarded_nil_error {d p m : Nat} {e : ParseError} :
    skipDiscarded cx d p m [] = .error e ↔ p ≠ 0 ∧ e = cx.fail .discardAtEnd cx.size := by
  rw [skipDiscarded]
  by_cases hp : p = 0
  · simp [hp]
  · simp only [hp, if_false, Except.error.injEq, ne_eq, not_false_eq_true, true_and]
    exact eq_comm

theorem skipDiscarded_cons_error_iff {d p m : Nat} {t : Token} {rest : List Token}
    {e : ParseError} :
    skipDiscarded cx d p m (t :: rest) = .error e ↔
      (t.kind = .discard ∧ skipDiscarded cx d (p + 1) t.offset rest = .error e) ∨
      (t.kind ≠ .discard ∧ p ≠ 0 ∧
        (t.kind = .eof ∧ e = cx.fail .discardAtEnd cx.size ∨
          t.kind ≠ .eof ∧ t.kind.isClose = true ∧ e = cx.fail (.discardBeforeCloser t.kind) m ∨
          t.kind ≠ .eof ∧ t.kind.isClose = false ∧
            (readForm cx d (t :: rest) = .error e ∨
              ∃ g r1, ReadsForm cx d (t :: rest) g r1 ∧
                skipDiscarded cx d (p - 1) m r1 = .error e))) := by
  constructor
  · intro hr
    rw [skipDiscarded] at hr
    by_cases hdis : t.kind = .discard
    · simp only [hdis, if_true] at hr
      cases hS : skipDiscarded cx d (p + 1) t.offset rest with
      | error e' =>
        simp only [hS, Except.error.injEq] at hr
        subst hr
        exact .inl ⟨hdis, rfl⟩
      | ok q => simp [hS] at hr
    · simp only [hdis, if_false] at hr
      by_cases hp : p = 0
      · simp [hp] at hr
      · simp only [hp, if_false] at hr
        refine .inr ⟨hdis, hp, ?_⟩
        by_cases heof : t.kind = .eof
        · simp only [heof, if_true, Except.error.injEq] at hr
          exact .inl ⟨heof, hr.symm⟩
        · simp only [heof, if_false] at hr
          by_cases hclose : t.kind.isClose = true
          · simp only [hclose, if_true, Except.error.injEq] at hr
            exact .inr (.inl ⟨heof, hclose, hr.symm⟩)
          · simp only [hclose, Bool.false_eq_true, if_false] at hr
            have hclose' : t.kind.isClose = false := by simpa using hclose
            cases hF : readForm cx d (t :: rest) with
            | error e' =>
              simp only [hF, Except.error.injEq] at hr
              subst hr
              exact .inr (.inr ⟨heof, hclose', .inl rfl⟩)
            | ok q =>
              obtain ⟨g, r1, h1⟩ := q
              simp only [hF] at hr
              cases hS : skipDiscarded cx d (p - 1) m r1 with
              | error e' =>
                simp only [hS, Except.error.injEq] at hr
                subst hr
                exact .inr (.inr ⟨heof, hclose', .inr ⟨g, r1, ⟨h1, hF⟩, hS⟩⟩)
              | ok q' => simp [hS] at hr
  · rintro (⟨hdis, hS⟩ | ⟨hdis, hp, ⟨heof, rfl⟩ | ⟨heof, hclose, rfl⟩ |
      ⟨heof, hclose, hF | ⟨g, r1, ⟨h1, hF⟩, hS⟩⟩⟩)
    · rw [skipDiscarded]
      simp only [hdis, if_true, hS]
    · rw [skipDiscarded]
      simp only [heof, reduceCtorEq, if_false, hp, if_true]
    · rw [skipDiscarded]
      simp only [hdis, if_false, hp, heof, hclose, if_true]
    · rw [skipDiscarded]
      simp only [hdis, if_false, hp, heof, hclose, Bool.false_eq_true, hF]
    · rw [skipDiscarded]
      simp only [hdis, if_false, hp, heof, hclose, Bool.false_eq_true, hF, hS]

/-- The ways reading the one form of a token stream fails: skipping the markers before it, no
form at all, the form, skipping the markers after it, or a token left after it. -/
def FailsTop (cx : ReadContext) (ts : List Token) (e : ParseError) : Prop :=
  skipDiscarded cx 0 0 0 ts = .error e ∨
    ∃ r1, Skips cx 0 0 0 ts r1 ∧
      (peekKind r1 = .eof ∧ e = cx.fail .emptyQuery 0 ∨
        peekKind r1 ≠ .eof ∧ (readForm cx 0 r1 = .error e ∨
          ∃ f r2, ReadsForm cx 0 r1 f r2 ∧ (skipDiscarded cx 0 0 0 r2 = .error e ∨
            ∃ t r3, Skips cx 0 0 0 r2 (t :: r3) ∧ t.kind ≠ .eof ∧
              e = cx.fail (.trailing t.kind) t.offset)))

theorem read_error_iff {input : String} {maxDepth : Nat} {e : ParseError} :
    read input maxDepth = .error e ↔
      FailsTop ⟨input, input.utf8ByteSize, maxDepth⟩ (tokenize input) e := by
  unfold read FailsTop
  dsimp only
  constructor
  · intro h
    split at h
    · rename_i e' hS
      cases h
      exact .inl hS
    · rename_i ts1 h1 hS
      refine .inr ⟨ts1, ⟨h1, hS⟩, ?_⟩
      split at h
      · rename_i heof
        cases h
        exact .inl ⟨heof, rfl⟩
      · rename_i heof
        refine .inr ⟨heof, ?_⟩
        split at h
        · rename_i e' hF
          cases h
          exact .inl hF
        · rename_i g ts2 h2 hF
          refine .inr ⟨g, ts2, ⟨h2, hF⟩, ?_⟩
          split at h
          · rename_i e' hS'
            cases h
            exact .inl hS'
          · rename_i t r3 h3 hS'
            split at h
            · cases h
            · rename_i ht
              cases h
              exact .inr ⟨t, r3, ⟨h3, hS'⟩, ht, rfl⟩
          · cases h
  · rintro (hS | ⟨r1, ⟨h1, hS⟩, ⟨heof, rfl⟩ | ⟨heof, hF | ⟨g, r2, ⟨h2, hF⟩, hS' |
      ⟨t, r3, ⟨h3, hS'⟩, ht, rfl⟩⟩⟩⟩)
    · rw [hS]
    · rw [hS]
      dsimp only
      rw [if_pos heof]
    · rw [hS]
      dsimp only
      rw [if_neg heof, hF]
    · rw [hS]
      dsimp only
      rw [if_neg heof, hF]
      dsimp only
      rw [hS']
    · rw [hS]
      dsimp only
      rw [if_neg heof, hF]
      dsimp only
      rw [hS']
      exact if_neg ht

end Xtql.Edn
