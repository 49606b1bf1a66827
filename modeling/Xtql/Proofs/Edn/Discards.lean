import Xtql.Proofs.Edn.ReadSteps
import Xtql.Proofs.Edn.Print

/-!
Discarded forms: whatever the reader reads is read the same once every marker is deleted with
its form, and back again where the discarded forms read where they stand.
-/

namespace Xtql.Edn

mutual

/-- The tokens after the form at the head: an atom, a collection up to its closer, or a tag and
its value. It walks the tokens as the reader does, without reading them. -/
def skipForm : (ts : List Token) → Option {r : List Token // r.length < ts.length}
  | [] => none
  | t :: rest =>
    if t.kind.isOpen then
      match skipItems (t.kind.closer.getD .rparen) rest with
      | some ⟨r, h⟩ => some ⟨r, Nat.lt_succ_of_lt h⟩
      | none => none
    else if t.kind = .tag then
      match skipMarked 0 rest with
      | some ⟨r1, h1⟩ =>
        if peekKind r1 = .eof then none
        else
          match skipForm r1 with
          | some ⟨r2, h2⟩ => some ⟨r2, Nat.lt_succ_of_lt (Nat.lt_of_lt_of_le h2 h1)⟩
          | none => none
      | none => none
    else if t.kind.isAtom then some ⟨rest, Nat.lt_succ_self _⟩
    else none
termination_by ts => 3 * ts.length
decreasing_by all_goals (simp only [List.length_cons]; omega)

def skipItems (closer : TokenKind) (ts : List Token) :
    Option {r : List Token // r.length < ts.length} :=
  match skipMarked 0 ts with
  | none => none
  | some ⟨ts1, h1⟩ =>
    match ts1 with
    | [] => none
    | t :: rest =>
      if t.kind = closer then some ⟨rest, Nat.lt_of_lt_of_le (Nat.lt_succ_self _) h1⟩
      else if t.kind = .eof ∨ t.kind.isClose then none
      else
        match skipForm (t :: rest) with
        | none => none
        | some ⟨ts2, h2⟩ =>
          match skipItems closer ts2 with
          | some ⟨r, h3⟩ => some ⟨r, Nat.lt_of_lt_of_le (Nat.lt_trans h3 h2) h1⟩
          | none => none
termination_by 3 * ts.length + 2
decreasing_by all_goals omega

def skipMarked (pending : Nat) (ts : List Token) :
    Option {r : List Token // r.length ≤ ts.length} :=
  match ts with
  | t :: rest =>
    if t.kind = .discard then
      match skipMarked (pending + 1) rest with
      | some ⟨r, h⟩ => some ⟨r, Nat.le_succ_of_le h⟩
      | none => none
    else if pending = 0 then some ⟨t :: rest, Nat.le_refl _⟩
    else if t.kind = .eof ∨ t.kind.isClose then none
    else
      match skipForm (t :: rest) with
      | none => none
      | some ⟨r1, h1⟩ =>
        match skipMarked (pending - 1) r1 with
        | some ⟨r2, h2⟩ => some ⟨r2, Nat.le_trans h2 (Nat.le_of_lt h1)⟩
        | none => none
  | [] => if pending = 0 then some ⟨[], Nat.le_refl _⟩ else none
termination_by 3 * ts.length + 1
decreasing_by all_goals (rw [List.length_cons] at *; omega)

end

/-- The tokens with every discard marker deleted together with the form it discards. A marker
whose form never comes complete stays. -/
def dropDiscarded : List Token → List Token
  | [] => []
  | t :: rest =>
    if t.kind = .discard then
      match skipMarked 1 rest with
      | some ⟨r, _⟩ => dropDiscarded r
      | none => t :: dropDiscarded rest
    else t :: dropDiscarded rest
termination_by ts => ts.length
decreasing_by all_goals (simp only [List.length_cons]; omega)

def erasedShapes (ts : List Token) : List (TokenKind × String) :=
  (dropDiscarded ts).map Token.shape

example : erasedShapes (tokenize "(a #_ #_ b [c] d) #_ e") = erasedShapes (tokenize "(a d)") := by
  decide +kernel

variable {cx : ReadContext}

mutual

theorem skipForm_of_readsForm {d : Nat} {ts : List Token} {f : Form} {r : List Token}
    (hr : ReadsForm cx d ts f r) : ∃ h, skipForm ts = some ⟨r, h⟩ := by
  match ts with
  | [] => exact absurd hr readsForm_nil
  | t :: rest =>
    rcases readsForm_cons_iff.1 hr with ⟨hopen, -, hI⟩ | ⟨htag, -, r1, hS, heof, v, hV, -⟩ |
      ⟨hopen, htag, hA, rfl⟩
    · obtain ⟨h, e⟩ := skipItems_of_readsItems hI
      exact ⟨by simp only [List.length_cons]; omega,
        by rw [skipForm]; simp only [hopen, if_true, e]⟩
    · have := hS.length_le
      obtain ⟨h1, e1⟩ := skipMarked_of_skips hS
      obtain ⟨h2, e2⟩ := skipForm_of_readsForm hV
      refine ⟨by simp only [List.length_cons]; omega, ?_⟩
      rw [skipForm]
      simp only [htag, TokenKind.isOpen, Bool.false_eq_true, if_false, if_true, e1, heof, e2]
    · have hatom : t.kind.isAtom = true := by
        unfold atom at hA
        cases hk : t.kind <;> simp [hk, TokenKind.isAtom] at hA ⊢
        split at hA <;> cases hA
      exact ⟨by simp, by rw [skipForm]; simp [hopen, htag, hatom]⟩
termination_by 3 * ts.length
decreasing_by all_goals (simp only [List.length_cons]; omega)

theorem skipItems_of_readsItems {opener : Token} {d : Nat} {acc : List Form} {ts : List Token}
    {f : Form} {r : List Token} (hr : ReadsItems cx opener d acc ts f r) :
    ∃ h, skipItems (opener.kind.closer.getD .rparen) ts = some ⟨r, h⟩ := by
  obtain ⟨t, rest, hS, ⟨hc, -, rfl⟩ | ⟨hc, heof, hclose, g, ts2, hF, hI⟩⟩ :=
    readsItems_iff.1 hr
  · have := hS.length_le
    obtain ⟨h1, e1⟩ := skipMarked_of_skips hS
    refine ⟨by simp only [List.length_cons] at h1; omega, ?_⟩
    rw [skipItems]
    simp only [e1, hc, if_true]
  · have := hS.length_le
    have := hF.length_lt
    obtain ⟨h1, e1⟩ := skipMarked_of_skips hS
    obtain ⟨h2, e2⟩ := skipForm_of_readsForm hF
    obtain ⟨h3, e3⟩ := skipItems_of_readsItems hI
    refine ⟨by omega, ?_⟩
    rw [skipItems]
    simp only [e1, hc, if_false, heof, hclose, Bool.false_eq_true, or_self, e2, e3]
termination_by 3 * ts.length + 2
decreasing_by all_goals omega

theorem skipMarked_of_skips {d p m : Nat} {ts r : List Token} (hr : Skips cx d p m ts r) :
    ∃ h, skipMarked p ts = some ⟨r, h⟩ := by
  match ts with
  | [] =>
    obtain ⟨rfl, rfl⟩ := skips_nil_iff.1 hr
    exact ⟨Nat.le_refl _, by rw [skipMarked]; rfl⟩
  | t :: rest =>
    rcases skips_cons_iff.1 hr with ⟨hdis, hS⟩ | ⟨hdis, rfl, rfl⟩ |
      ⟨hdis, hp, heof, hclose, g, r1, hF, hS⟩
    · have := hS.length_le
      obtain ⟨h1, e1⟩ := skipMarked_of_skips hS
      exact ⟨by simp only [List.length_cons]; omega,
        by rw [skipMarked]; simp only [hdis, if_true, e1]⟩
    · exact ⟨Nat.le_refl _, by rw [skipMarked]; simp [hdis]⟩
    · have := hF.length_lt
      have := hS.length_le
      obtain ⟨h1, e1⟩ := skipForm_of_readsForm hF
      obtain ⟨h2, e2⟩ := skipMarked_of_skips hS
      refine ⟨by omega, ?_⟩
      rw [skipMarked]
      simp only [hdis, if_false, hp, heof, hclose, Bool.false_eq_true, or_self, e1, e2]
termination_by 3 * ts.length + 1
decreasing_by all_goals (rw [List.length_cons] at *; omega)

end

/-! ### Deleting what is discarded -/

theorem dropDiscarded_cons {t : Token} (ht : t.kind ≠ .discard) (rest : List Token) :
    dropDiscarded (t :: rest) = t :: dropDiscarded rest := by
  rw [dropDiscarded]; simp [ht]

theorem peekKind_dropDiscarded {ts : List Token} (h : peekKind ts ≠ .discard) :
    peekKind (dropDiscarded ts) = peekKind ts := by
  cases ts with
  | nil => rw [dropDiscarded]
  | cons t rest => rw [dropDiscarded_cons h]; rfl

theorem Skips.eq_dropDiscarded {d m : Nat} {r u : List Token} (hp : peekKind r ≠ .discard)
    (h : Skips cx d 0 m (dropDiscarded r) u) : u = dropDiscarded r :=
  h.eq_self (by rw [peekKind_dropDiscarded hp]; exact hp)

theorem dropDiscarded_of_skips {d m : Nat} {ts r : List Token} (h : Skips cx d 0 m ts r) :
    dropDiscarded ts = dropDiscarded r := by
  cases ts with
  | nil => rw [(skips_nil_iff.1 h).2]
  | cons t rest =>
    rcases skips_cons_iff.1 h with ⟨hdis, hS⟩ | ⟨-, -, rfl⟩ | ⟨-, hp, -⟩
    · obtain ⟨h1, e1⟩ := skipMarked_of_skips hS
      rw [dropDiscarded]; simp only [hdis, if_true, e1]
    · rfl
    · exact absurd rfl hp

mutual

/-- What is read from tokens is read, the same, from the tokens with the discarded forms
deleted. -/
theorem readsForm_dropDiscarded {d : Nat} {ts : List Token} {f : Form} {r : List Token}
    (hr : ReadsForm cx d ts f r) : ReadsForm cx d (dropDiscarded ts) f (dropDiscarded r) := by
  match ts with
  | [] => exact absurd hr readsForm_nil
  | t :: rest =>
    rcases readsForm_cons_iff.1 hr with ⟨hopen, hd, hI⟩ |
      ⟨htag, hd, r1, hS, heof, v, hV, rfl⟩ | ⟨hopen, htag, hA, rfl⟩
    · have hdis : t.kind ≠ .discard := by intro h; rw [h] at hopen; cases hopen
      rw [dropDiscarded_cons hdis]
      exact readsForm_cons_iff.2 (.inl ⟨hopen, hd, readsItems_dropDiscarded hI⟩)
    · have hdis : t.kind ≠ .discard := by rw [htag]; decide
      have := hS.length_le
      have hpeek := hS.peekKind_ne
      have hdrop := dropDiscarded_of_skips hS
      rw [dropDiscarded_cons hdis]
      refine readsForm_cons_iff.2 (.inr (.inl ⟨htag, hd, dropDiscarded r1, ?_, ?_, v,
        readsForm_dropDiscarded hV, rfl⟩))
      · rw [hdrop]; exact skips_self (by rw [peekKind_dropDiscarded hpeek]; exact hpeek)
      · rw [peekKind_dropDiscarded hpeek]; exact heof
    · have hdis : t.kind ≠ .discard := by
        intro h; unfold atom at hA; rw [h] at hA; cases hA
      rw [dropDiscarded_cons hdis]
      exact readsForm_cons_iff.2 (.inr (.inr ⟨hopen, htag, hA, rfl⟩))
termination_by 3 * ts.length
decreasing_by all_goals (simp only [List.length_cons]; omega)

theorem readsItems_dropDiscarded {opener : Token} {d : Nat} {acc : List Form}
    {ts : List Token} {f : Form} {r : List Token} (hr : ReadsItems cx opener d acc ts f r) :
    ReadsItems cx opener d acc (dropDiscarded ts) f (dropDiscarded r) := by
  obtain ⟨t, rest, hS, hcase⟩ := readsItems_iff.1 hr
  have := hS.length_le
  have hdis : t.kind ≠ .discard := hS.peekKind_ne
  have hdrop : dropDiscarded ts = t :: dropDiscarded rest := by
    rw [dropDiscarded_of_skips hS, dropDiscarded_cons hdis]
  have hskip : Skips cx (d + 1) 0 0 (dropDiscarded ts) (t :: dropDiscarded rest) := by
    rw [hdrop]; exact skips_self hdis
  rcases hcase with ⟨hc, hC, rfl⟩ | ⟨hc, heof, hclose, g, ts2, hF, hI⟩
  · exact readsItems_iff.2 ⟨t, _, hskip, .inl ⟨hc, hC, rfl⟩⟩
  · have := hF.length_lt
    have hF' := readsForm_dropDiscarded hF
    rw [dropDiscarded_cons hdis] at hF'
    exact readsItems_iff.2 ⟨t, _, hskip, .inr ⟨hc, heof, hclose, g, _, hF',
      readsItems_dropDiscarded hI⟩⟩
termination_by 3 * ts.length + 2
decreasing_by all_goals omega

end

/-! ### Discarded forms that read -/

inductive Enclosing where
  | collection
  | tag
deriving DecidableEq

namespace Enclosing

def close (es : List Enclosing) : List Enclosing := es.dropWhile (· == .tag)

def after (es : List Enclosing) (t : Token) : List Enclosing :=
  if t.kind.isOpen then .collection :: es
  else if t.kind = .tag then .tag :: es
  else if t.kind.isClose then close es.tail
  else close es

theorem after_closer {es : List Enclosing} {t : Token} {k : TokenKind}
    (h : t.kind = k.closer.getD .rparen) : after es t = close es.tail := by
  unfold after
  cases k <;> simp [TokenKind.closer] at h <;> simp [h, TokenKind.isOpen, TokenKind.isClose]

theorem close_tag (es : List Enclosing) : close (.tag :: es) = close es := by
  simp [close]

theorem close_collection (es : List Enclosing) :
    close (.collection :: es) = .collection :: es := by
  simp [close]

end Enclosing

/-- Whether every discard marker of the tokens is skipped by the reader, with the forms it
discards, at the nesting level where it stands: the number of collections and tags around it,
those of discarded forms included. `es` stands around the first token. -/
def discardsRead (cx : ReadContext) (es : List Enclosing) : List Token → Bool
  | [] => true
  | t :: rest =>
    if t.kind = .discard then
      (skipDiscarded cx es.length 0 0 (t :: rest)).isOk &&
        match skipMarked 1 rest with
        | some ⟨r, _⟩ => discardsRead cx es r
        | none => true
    else discardsRead cx (Enclosing.after es t) rest
termination_by ts => ts.length
decreasing_by all_goals (simp only [List.length_cons]; omega)

theorem discardsRead_cons {es : List Enclosing} {t : Token} (ht : t.kind ≠ .discard)
    (rest : List Token) :
    discardsRead cx es (t :: rest) = discardsRead cx (Enclosing.after es t) rest := by
  rw [discardsRead]; simp [ht]

theorem skips_of_discardsRead {es : List Enclosing} {ts : List Token}
    (h : discardsRead cx es ts = true) :
    ∃ r, Skips cx es.length 0 0 ts r ∧ dropDiscarded r = dropDiscarded ts ∧
      discardsRead cx es r = true := by
  cases ts with
  | nil => exact ⟨[], skips_nil_iff.2 ⟨rfl, rfl⟩, rfl, h⟩
  | cons t rest =>
    by_cases hdis : t.kind = .discard
    · rw [discardsRead] at h
      simp only [hdis, if_true, Bool.and_eq_true] at h
      obtain ⟨hok, hrest⟩ := h
      cases hS : skipDiscarded cx es.length 0 0 (t :: rest) with
      | error e => rw [hS] at hok; cases hok
      | ok q =>
        obtain ⟨r, hr⟩ := q
        have hskips : Skips cx es.length 0 0 (t :: rest) r := ⟨hr, hS⟩
        obtain ⟨h1, e1⟩ := skipMarked_of_skips hskips
        have e1' : ∃ h', skipMarked 1 rest = some ⟨r, h'⟩ := by
          rw [skipMarked] at e1
          simp only [hdis, if_true] at e1
          split at e1
          · rename_i r' h' e
            simp only [Option.some.injEq, Subtype.mk.injEq] at e1
            subst e1
            exact ⟨h', e⟩
          · cases e1
        obtain ⟨h', e⟩ := e1'
        simp only [e] at hrest
        exact ⟨r, hskips, (dropDiscarded_of_skips hskips).symm, hrest⟩
    · exact ⟨t :: rest, skips_self hdis, rfl, h⟩

mutual

/-- A form read from the tokens with the discarded forms deleted is read from the tokens
themselves, where those forms read where they stand; it leaves the same tokens but for what is
discarded. -/
theorem readsForm_of_dropDiscarded {es : List Enclosing} {d : Nat} (hes : es.length = d)
    {ts : List Token} (hts : peekKind ts ≠ .discard) (hg : discardsRead cx es ts = true)
    {f : Form} {u : List Token} (hr : ReadsForm cx d (dropDiscarded ts) f u) :
    ∃ r, ReadsForm cx d ts f r ∧ dropDiscarded r = u ∧
      discardsRead cx (Enclosing.close es) r = true := by
  match ts with
  | [] =>
    rw [dropDiscarded] at hr
    exact absurd hr readsForm_nil
  | t :: rest =>
    have hdis : t.kind ≠ .discard := hts
    rw [dropDiscarded_cons hdis] at hr
    rw [discardsRead_cons hdis] at hg
    rcases readsForm_cons_iff.1 hr with ⟨hopen, hd, hI⟩ |
      ⟨htag, hd, r1', hS', heof, v, hV, rfl⟩ | ⟨hopen, htag, hA, rfl⟩
    · simp only [Enclosing.after, hopen, if_true] at hg
      obtain ⟨r, hI', hdrop, hg'⟩ := readsItems_of_dropDiscarded hes hg hI
      exact ⟨r, readsForm_cons_iff.2 (.inl ⟨hopen, hd, hI'⟩), hdrop, hg'⟩
    · simp only [Enclosing.after, htag, TokenKind.isOpen, Bool.false_eq_true, if_false,
        if_true] at hg
      obtain ⟨r1, hS, hdrop1, hg1⟩ := skips_of_discardsRead hg
      have := hS.length_le
      have hpeek := hS.peekKind_ne
      rw [← hdrop1] at hS'
      obtain rfl := hS'.eq_dropDiscarded hpeek
      rw [peekKind_dropDiscarded hpeek] at heof
      obtain ⟨r, hV', hdrop, hg'⟩ :=
        readsForm_of_dropDiscarded (by simp [hes]) hpeek hg1 hV
      -- the value ends the tag around it, and with it the tag's form
      rw [Enclosing.close_tag] at hg'
      have hS1 : Skips cx (d + 1) 0 0 rest r1 := by simpa [hes] using hS
      exact ⟨r, readsForm_cons_iff.2 (.inr (.inl ⟨htag, hd, r1, hS1, heof, v, hV', rfl⟩)),
        hdrop, hg'⟩
    · have hclose : t.kind.isClose = false := by
        revert hA; unfold atom; cases t.kind <;> simp [TokenKind.isClose]
      simp only [Enclosing.after, hopen, Bool.false_eq_true, if_false, htag, hclose] at hg
      exact ⟨rest, readsForm_cons_iff.2 (.inr (.inr ⟨hopen, htag, hA, rfl⟩)), rfl, hg⟩
termination_by 3 * ts.length
decreasing_by all_goals (simp only [List.length_cons]; omega)

theorem readsItems_of_dropDiscarded {es : List Enclosing} {d : Nat} (hes : es.length = d)
    {ts : List Token} (hg : discardsRead cx (.collection :: es) ts = true) {opener : Token}
    {acc : List Form} {f : Form} {u : List Token}
    (hr : ReadsItems cx opener d acc (dropDiscarded ts) f u) :
    ∃ r, ReadsItems cx opener d acc ts f r ∧ dropDiscarded r = u ∧
      discardsRead cx (Enclosing.close es) r = true := by
  obtain ⟨r1, hS, hdrop1, hg1⟩ := skips_of_discardsRead hg
  have := hS.length_le
  have hpeek := hS.peekKind_ne
  obtain ⟨t, rest', hS', hcase⟩ := readsItems_iff.1 hr
  rw [← hdrop1] at hS'
  have hself := hS'.eq_dropDiscarded hpeek
  cases r1 with
  | nil => rw [dropDiscarded] at hself; cases hself
  | cons t1 r1 =>
    have hdis1 : t1.kind ≠ .discard := hpeek
    rw [dropDiscarded_cons hdis1, List.cons.injEq] at hself
    obtain ⟨rfl, rfl⟩ := hself
    have hS1 : Skips cx (d + 1) 0 0 ts (t :: r1) := by simpa [hes] using hS
    rcases hcase with ⟨hc, hC, rfl⟩ | ⟨hc, heof, hclose, g, ts2', hF, hI⟩
    · rw [discardsRead_cons hdis1, Enclosing.after_closer hc] at hg1
      exact ⟨r1, readsItems_iff.2 ⟨t, r1, hS1, .inl ⟨hc, hC, rfl⟩⟩, rfl, hg1⟩
    · rw [← dropDiscarded_cons hdis1] at hF
      obtain ⟨ts2, hF', rfl, hg2⟩ :=
        readsForm_of_dropDiscarded (by simp [hes]) (by exact hdis1) hg1 hF
      -- an item ends inside the collection, which stays open for the next one
      rw [Enclosing.close_collection] at hg2
      have := hF'.length_lt
      obtain ⟨r, hI', hdrop, hg'⟩ := readsItems_of_dropDiscarded hes hg2 hI
      exact ⟨r, readsItems_iff.2 ⟨t, r1, hS1, .inr ⟨hc, heof, hclose, g, ts2, hF', hI'⟩⟩,
        hdrop, hg'⟩
termination_by 3 * ts.length + 2
decreasing_by all_goals omega

end

/-- The one form of a token stream is the one form of its tokens with the discarded forms
deleted. -/
theorem readsTop_dropDiscarded {ts : List Token} {f : Form} (h : ReadsTop cx ts f) :
    ReadsTop cx (dropDiscarded ts) f := by
  obtain ⟨r1, hS1, heof1, r2, hF, r3, hS3, heof3⟩ := h
  have hp1 := hS1.peekKind_ne
  have hp3 := hS3.peekKind_ne
  refine ⟨dropDiscarded r1, ?_, ?_, dropDiscarded r2, readsForm_dropDiscarded hF,
    dropDiscarded r3, ?_, ?_⟩
  · rw [dropDiscarded_of_skips hS1]
    exact skips_self (by rw [peekKind_dropDiscarded hp1]; exact hp1)
  · rwa [peekKind_dropDiscarded hp1]
  · rw [dropDiscarded_of_skips hS3]
    exact skips_self (by rw [peekKind_dropDiscarded hp3]; exact hp3)
  · rwa [peekKind_dropDiscarded hp3]

theorem readsTop_of_dropDiscarded {ts : List Token} {f : Form}
    (hg : discardsRead cx [] ts = true) (h : ReadsTop cx (dropDiscarded ts) f) :
    ReadsTop cx ts f := by
  obtain ⟨r1', hS1', heof1, r2', hF', r3', hS3', heof3⟩ := h
  obtain ⟨r1, hS1, hdrop1, hg1⟩ := skips_of_discardsRead hg
  have hp1 := hS1.peekKind_ne
  rw [← hdrop1] at hS1'
  obtain rfl := hS1'.eq_dropDiscarded hp1
  rw [peekKind_dropDiscarded hp1] at heof1
  obtain ⟨r2, hF, rfl, hg2⟩ := readsForm_of_dropDiscarded rfl hp1 hg1 hF'
  obtain ⟨r3, hS3, hdrop3, -⟩ := skips_of_discardsRead hg2
  have hp3 := hS3.peekKind_ne
  rw [← hdrop3] at hS3'
  obtain rfl := hS3'.eq_dropDiscarded hp3
  rw [peekKind_dropDiscarded hp3] at heof3
  exact ⟨r1, hS1, heof1, r2, hF, r3, hS3, heof3⟩

end Xtql.Edn
