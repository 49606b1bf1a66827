import Xtql.Proofs.Edn.Extension
import Xtql.Proofs.Edn.Closers
import Xtql.Proofs.Edn.Escapes

/-!
What more input does to a failed read: a failure at the end of the text is mended by more text,
any other failure stays (`read_error_needs_input_or_final`).
-/

namespace Xtql.Edn

open Xtql.Text

/-! ### Reading the same tokens in another context -/

mutual

theorem Form.mapPos_id : ∀ f : Form, f.mapPos id = f
  | .list items span => by rw [Form.mapPos, Form.listMapPos_id items]; rfl
  | .vector items span => by rw [Form.mapPos, Form.listMapPos_id items]; rfl
  | .map pairs span => by rw [Form.mapPos, Form.pairsMapPos_id pairs]; rfl
  | .set items span => by rw [Form.mapPos, Form.listMapPos_id items]; rfl
  | .nsMap ns pairs span => by rw [Form.mapPos, Form.pairsMapPos_id pairs]; rfl
  | .tagged tag value span => by rw [Form.mapPos, Form.mapPos_id value]; rfl
  | .symbol .. | .keyword .. | .param .. | .str .. | .int .. | .float .. | .bool .. | .nil .. => rfl

theorem Form.listMapPos_id : ∀ fs : List Form, Form.listMapPos id fs = fs
  | [] => rfl
  | f :: fs => by rw [Form.listMapPos, Form.mapPos_id f, Form.listMapPos_id fs]

theorem Form.pairsMapPos_id : ∀ ps : List (Form × Form), Form.pairsMapPos id ps = ps
  | [] => rfl
  | (k, v) :: ps => by
    rw [Form.pairsMapPos, Form.mapPos_id k, Form.mapPos_id v, Form.pairsMapPos_id ps]

end

@[simp] theorem Token.mapPos_id : Token.mapPos id = id := rfl

section

variable {cx cx' : ReadContext}

theorem ReadsForm.reframe {d : Nat} {xs r : List Token} {f : Form}
    (h : ReadsForm cx d (xs ++ r) f r) (hmax : cx'.maxDepth = cx.maxDepth) (r' : List Token) :
    ReadsForm cx' d (xs ++ r') f r' := by
  have := h.mapPos (g := id) rfl (Nat.le_refl d) hmax r'
  rwa [Token.mapPos_id, List.map_id, Form.mapPos_id] at this

theorem ReadsItems.reframe {opener : Token} {d : Nat} {acc : List Form} {xs r : List Token}
    {f : Form} (h : ReadsItems cx opener d acc (xs ++ r) f r)
    (hmax : cx'.maxDepth = cx.maxDepth) (r' : List Token) :
    ReadsItems cx' opener d acc (xs ++ r') f r' := by
  have := h.mapPos (g := id) rfl (Nat.le_refl d) hmax r'
  rwa [Token.mapPos_id, List.map_id, Form.mapPos_id, show Form.mapPos id = id from
    funext Form.mapPos_id, List.map_id] at this

theorem Skips.reframe {d p m : Nat} {xs r : List Token} (h : Skips cx d p m (xs ++ r) r)
    (hmax : cx'.maxDepth = cx.maxDepth) {r' : List Token} (hr' : peekKind r' ≠ .discard) :
    Skips cx' d p m (xs ++ r') r' := by
  have : Skips cx' d p m (xs.map (Token.mapPos id) ++ r') r' :=
    h.mapPos rfl (Nat.le_refl d) hmax hr'
  rwa [Token.mapPos_id, List.map_id] at this

theorem ReadsTop.reframe {ts : List Token} {f : Form} (h : ReadsTop cx ts f)
    (hmax : cx'.maxDepth = cx.maxDepth) : ReadsTop cx' ts f := by
  obtain ⟨r1, hS1, hpk1, r2, hF, r3, hS2, hpk3⟩ := h
  obtain ⟨xs1, rfl⟩ := hS1.suffix
  obtain ⟨xs2, rfl⟩ := hF.suffix
  obtain ⟨xs3, rfl⟩ := hS2.suffix
  exact ⟨_, hS1.reframe hmax hS1.peekKind_ne, hpk1, _, hF.reframe hmax _, _,
    hS2.reframe hmax hS2.peekKind_ne, hpk3⟩

end

/-! ### What a read consumes -/

/-- A token that text after a blank leaves as it is: neither the end nor a string still open. -/
def Token.Settled (x : Token) : Prop := x.kind ≠ .eof ∧ x.kind ≠ .unterminatedString

theorem Token.settled_of_kind {x : Token}
    (h : x.kind.isOpen = true ∨ x.kind.isClose = true ∨ x.kind.isAtom = true ∨ x.kind = .tag ∨
      x.kind = .discard) : x.Settled := by
  unfold Token.Settled
  cases hk : x.kind <;> simp_all [TokenKind.isOpen, TokenKind.isClose, TokenKind.isAtom]

section

variable {cx : ReadContext}

theorem atom_ok_isAtom {t : Token} {f : Form} (h : atom cx t = .ok f) : t.kind.isAtom = true := by
  unfold atom at h
  cases hk : t.kind <;> simp [hk, TokenKind.isAtom] at h ⊢
  split at h <;> cases h

theorem Skips.split {d p m : Nat} {ts r : List Token} (h : Skips cx d p m ts r) :
    ∃ ys, ys ++ r = ts ∧ Skips cx d p m (ys ++ r) r := by
  obtain ⟨ys, hys⟩ := h.suffix
  exact ⟨ys, hys, hys ▸ h⟩

theorem ReadsForm.split {d : Nat} {ts : List Token} {f : Form} {r : List Token}
    (h : ReadsForm cx d ts f r) : ∃ zs, zs ≠ [] ∧ zs ++ r = ts ∧ ReadsForm cx d (zs ++ r) f r := by
  obtain ⟨zs, hzs⟩ := h.suffix
  refine ⟨zs, ?_, hzs, hzs ▸ h⟩
  rintro rfl
  have := h.length_lt
  rw [← hzs] at this
  simp at this

theorem ReadsForm.split_cons {d : Nat} {t : Token} {rest r : List Token} {f : Form}
    (h : ReadsForm cx d (t :: rest) f r) :
    ∃ zs, rest = zs ++ r ∧ ReadsForm cx d ((t :: zs) ++ r) f r := by
  obtain ⟨zs, hzs⟩ := h.suffix
  obtain ⟨zs', rfl, hrest⟩ := exists_cons_of_append hzs.symm h.length_lt
  refine ⟨zs', hrest, ?_⟩
  rw [List.cons_append, ← hrest]
  exact h

mutual

theorem ReadsForm.settled {d : Nat} {ts xs r : List Token} {f : Form}
    (h : ReadsForm cx d ts f r) (hts : ts = xs ++ r) : ∀ x ∈ xs, x.Settled := by
  match ts with
  | [] => exact absurd h readsForm_nil
  | t :: rest =>
    obtain ⟨xs1, rfl, hrest⟩ := exists_cons_of_append hts h.length_lt
    rcases readsForm_cons_iff.1 h with ⟨hopen, -, hI⟩ | ⟨htag, -, r1, hS, -, v, hV, -⟩ |
      ⟨-, -, hA, rfl⟩
    · exact List.forall_mem_cons.2 ⟨Token.settled_of_kind (.inl hopen), hI.settled hrest⟩
    · -- the skipped tokens come first, then those of the value
      obtain ⟨ys, zs, rfl, rfl⟩ := exists_split_of_suffix (hrest ▸ hS.suffix) hV.suffix
      have := hS.length_le
      exact List.forall_mem_cons.2 ⟨Token.settled_of_kind (.inr (.inr (.inr (.inl htag)))),
        List.forall_mem_append.2 ⟨hS.settled (hrest.trans (List.append_assoc ..)), hV.settled rfl⟩⟩
    · obtain rfl : xs1 = [] := by
        simpa using hrest
      exact List.forall_mem_singleton.2
        (Token.settled_of_kind (.inr (.inr (.inl (atom_ok_isAtom hA)))))
termination_by 3 * ts.length
decreasing_by all_goals (simp only [List.length_cons]; omega)

theorem ReadsItems.settled {opener : Token} {d : Nat} {acc : List Form} {ts xs r : List Token}
    {f : Form} (h : ReadsItems cx opener d acc ts f r) (hts : ts = xs ++ r) :
    ∀ x ∈ xs, x.Settled := by
  obtain ⟨t, rest, hS, ⟨hc, -, rfl⟩ | ⟨-, -, -, i, ts2, hF, hI⟩⟩ := readsItems_iff.1 h
  · -- the skipped tokens, then the closer
    obtain ⟨ys, zs, rfl, hz⟩ := exists_split_of_suffix (hts ▸ hS.suffix) (List.suffix_cons t r)
    obtain rfl : zs = [t] := List.append_cancel_right (hz.symm : zs ++ r = [t] ++ r)
    have := hS.length_le
    exact List.forall_mem_append.2 ⟨hS.settled (hts.trans (List.append_assoc ..)),
      List.forall_mem_singleton.2
        (Token.settled_of_kind (.inr (.inl (hc ▸ Opening.isClose_closer_getD _))))⟩
  · -- the skipped tokens, an item, then the items after it
    obtain ⟨ys, zs, rfl, hzs⟩ :=
      exists_split_of_suffix (hts ▸ hS.suffix) (hI.suffix.trans hF.suffix)
    obtain ⟨zs1, zs2, rfl, rfl⟩ := exists_split_of_suffix (hzs ▸ hF.suffix) hI.suffix
    have := hS.length_le
    have := hF.length_lt
    exact List.forall_mem_append.2 ⟨hS.settled (by rw [hts, hzs, List.append_assoc]),
      List.forall_mem_append.2 ⟨hF.settled (hzs.trans (List.append_assoc ..)), hI.settled rfl⟩⟩
termination_by 3 * ts.length + 2
decreasing_by all_goals omega

theorem Skips.settled {d p m : Nat} {ts xs r : List Token} (h : Skips cx d p m ts r)
    (hts : ts = xs ++ r) : ∀ x ∈ xs, x.Settled := by
  match ts with
  | [] =>
    obtain ⟨-, rfl⟩ := skips_nil_iff.1 h
    obtain rfl : xs = [] := (List.append_eq_nil_iff.1 hts.symm).1
    simp
  | t :: rest =>
    rcases skips_cons_iff.1 h with ⟨hdis, hS⟩ | ⟨-, -, rfl⟩ | ⟨-, -, -, -, g, r1, hF, hS⟩
    · have := hS.length_le
      obtain ⟨xs1, rfl, hrest⟩ := exists_cons_of_append hts
        (by simp only [List.length_cons]; omega)
      exact List.forall_mem_cons.2 ⟨Token.settled_of_kind (.inr (.inr (.inr (.inr hdis)))),
        hS.settled hrest⟩
    · obtain rfl : xs = [] := by
        simpa using hts
      simp
    · -- a discarded form, then the rest of the markers' forms
      obtain ⟨zs1, zs2, rfl, rfl⟩ := exists_split_of_suffix (hts ▸ hF.suffix) hS.suffix
      have := hF.length_lt
      exact List.forall_mem_append.2 ⟨hF.settled (hts.trans (List.append_assoc ..)), hS.settled rfl⟩
termination_by 3 * ts.length + 1
decreasing_by all_goals (rw [List.length_cons] at *; omega)

end

end

/-! ### Failures decided before the end -/

def SamePos (cx cx' : ReadContext) (o : Nat) : Prop :=
  Position.ofOffset cx'.input o = Position.ofOffset cx.input o

/-- A token reads alike in two contexts: it stands at the same position, and fails the same way
as an atom. -/
def ReadsAlike (cx cx' : ReadContext) (x : Token) : Prop :=
  SamePos cx cx' x.offset ∧ ∀ e, atom cx x = .error e → atom cx' x = .error e

/-- Reading fails as `fails` says at a prefix of `ts`: the prefix is settled and not empty, and
any tokens after it fail the same. -/
def DecidedBy (fails : List Token → Prop) (ts : List Token) : Prop :=
  ∃ P R, ts = P ++ R ∧ P ≠ [] ∧ (∀ x ∈ P, x.Settled) ∧ ∀ R', fails (P ++ R')

theorem peekKind_eq_of_head? {us vs : List Token} (h : us.head? = vs.head?) :
    peekKind us = peekKind vs := by
  cases us <;> cases vs <;> simp_all [peekKind]

theorem DecidedBy.here {F : List Token → Prop} {t : Token} {rest : List Token} (ht : t.Settled)
    (h : ∀ R', F (t :: R')) : DecidedBy F (t :: rest) :=
  ⟨[t], rest, rfl, List.cons_ne_nil _ _, fun _ hx => List.mem_singleton.1 hx ▸ ht, h⟩

theorem DecidedBy.after {F G : List Token → Prop} {W ts : List Token} (h : DecidedBy F ts)
    (hW : ∀ x ∈ W, x.Settled) (hG : ∀ us, us.head? = ts.head? → F us → G (W ++ us)) :
    DecidedBy G (W ++ ts) := by
  obtain ⟨P, R, rfl, hP, hPs, hF⟩ := h
  refine ⟨W ++ P, R, (List.append_assoc ..).symm, by simp [hP], List.forall_mem_append.2 ⟨hW, hPs⟩,
    fun R' => ?_⟩
  rw [List.append_assoc]
  refine hG _ ?_ (hF R')
  obtain ⟨p, P', rfl⟩ := List.exists_cons_of_ne_nil hP
  rfl

section

variable {cx cx' : ReadContext}

theorem fail_congr {o : Nat} (h : SamePos cx cx' o) (p : Problem) : cx'.fail p o = cx.fail p o := by
  unfold ReadContext.fail
  rw [h]

theorem atom_error_settled {t : Token} {e : ParseError} (h : atom cx t = .error e)
    (he : e.kind ≠ .unexpectedEof) (hu : e.problem ≠ .unterminatedString) : t.Settled := by
  constructor <;> intro hk <;> simp only [atom, hk, Except.error.injEq] at h <;> subst h
  · exact he rfl
  · exact hu rfl

theorem collection_error_congr {opener : Token} {items : List Form} {span : Span} {e : ParseError}
    (h : collection cx opener items span = .error e) (hpos : SamePos cx cx' span.start) :
    collection cx' opener items span = .error e := by
  cases hk : opener.kind <;> simp only [collection, hk, reduceCtorEq] at h ⊢
  all_goals
    cases hp : pairUp items <;> simp only [hp, Except.error.injEq, reduceCtorEq] at h ⊢
  all_goals
    rw [← h, fail_congr hpos]

mutual

/-- A failure at a token, other than an open string, is decided by the tokens up to it, in any
context where they read alike. -/
theorem readForm_final {d : Nat} {ts : List Token} {e : ParseError}
    (h : readForm cx d ts = .error e) (he : e.kind ≠ .unexpectedEof)
    (hu : e.problem ≠ .unterminatedString) (hmax : cx'.maxDepth = cx.maxDepth)
    (hts : ∀ x ∈ ts, x.Settled → ReadsAlike cx cx' x) :
    DecidedBy (fun us => readForm cx' d us = .error e) ts := by
  match ts with
  | [] =>
    rw [readForm_nil_error] at h
    subst h
    exact absurd rfl he
  | t :: rest =>
    have hrest : ∀ x ∈ rest, x.Settled → ReadsAlike cx cx' x :=
      fun x hx => hts x (List.mem_cons_of_mem _ hx)
    rcases readForm_cons_error_iff.1 h with
      ⟨hopen, ⟨hdep, rfl⟩ | ⟨hdep, hI⟩⟩ |
      ⟨htag, ⟨hdep, rfl⟩ | ⟨hdep, hS | ⟨r1, hS, ⟨-, rfl⟩ | ⟨hpk, hF⟩⟩⟩⟩ |
      ⟨hopen, htag, hA⟩
    · -- an opener at the limit
      have ht := Token.settled_of_kind (.inl hopen)
      refine DecidedBy.here ht fun R' => readForm_cons_error_iff.2 (.inl ⟨hopen, .inl ⟨?_, ?_⟩⟩)
      · rwa [hmax]
      · rw [hmax, fail_congr (hts t (List.mem_cons_self ..) ht).1]
    · have ht := Token.settled_of_kind (.inl hopen)
      exact (readItems_final hI he hu hmax hrest (hts t (List.mem_cons_self ..) ht).1).after
        (W := [t]) (List.forall_mem_singleton.2 ht) fun us _ hus =>
          readForm_cons_error_iff.2 (.inl ⟨hopen, .inr ⟨by rwa [hmax], hus⟩⟩)
    · -- a tag at the limit
      have ht := Token.settled_of_kind (.inr (.inr (.inr (.inl htag))))
      refine DecidedBy.here ht fun R' => readForm_cons_error_iff.2 (.inr (.inl ⟨htag, .inl ⟨?_, ?_⟩⟩))
      · rwa [hmax]
      · rw [hmax, fail_congr (hts t (List.mem_cons_self ..) ht).1]
    · have ht := Token.settled_of_kind (.inr (.inr (.inr (.inl htag))))
      exact (skipDiscarded_final hS he hu hmax hrest (fun h0 => absurd rfl h0)).after
        (W := [t]) (List.forall_mem_singleton.2 ht) fun us _ hus =>
          readForm_cons_error_iff.2 (.inr (.inl ⟨htag, .inr ⟨by rwa [hmax], .inl hus⟩⟩))
    · exact absurd rfl he
    · -- the markers after the tag, then its value
      have ht := Token.settled_of_kind (.inr (.inr (.inr (.inl htag))))
      obtain ⟨ys, hys, hS'⟩ := hS.split
      have := hS.length_le
      have hF' := readForm_final hF he hu hmax fun x hx => hrest x (hS.suffix.subset hx)
      rw [← hys]
      refine hF'.after (W := t :: ys) (List.forall_mem_cons.2 ⟨ht, hS'.settled rfl⟩)
        fun us hus hF => ?_
      have hpk' := peekKind_eq_of_head? hus
      exact readForm_cons_error_iff.2 (.inr (.inl ⟨htag, .inr ⟨by rwa [hmax], .inr ⟨us,
        hS'.reframe hmax (hpk' ▸ hS.peekKind_ne), .inr ⟨hpk' ▸ hpk, hF⟩⟩⟩⟩))
    · -- an atom that fails
      have ht := atom_error_settled hA he hu
      exact DecidedBy.here ht fun R' =>
        readForm_cons_error_iff.2 (.inr (.inr ⟨hopen, htag, (hts t (List.mem_cons_self ..) ht).2 e hA⟩))
termination_by 3 * ts.length
decreasing_by all_goals (simp only [List.length_cons]; omega)

theorem readItems_final {opener : Token} {d : Nat} {acc : List Form} {ts : List Token}
    {e : ParseError} (h : readItems cx opener d acc ts = .error e) (he : e.kind ≠ .unexpectedEof)
    (hu : e.problem ≠ .unterminatedString) (hmax : cx'.maxDepth = cx.maxDepth)
    (hts : ∀ x ∈ ts, x.Settled → ReadsAlike cx cx' x) (hop : SamePos cx cx' opener.offset) :
    DecidedBy (fun us => readItems cx' opener d acc us = .error e) ts := by
  rcases readItems_error_iff.1 h with hS | ⟨-, rfl⟩ |
    ⟨t, rest, hS, ⟨hc, hC⟩ | ⟨-, -, rfl⟩ | ⟨hc, heof, hclose, rfl⟩ | ⟨hc, heof, hclose, hF | hF⟩⟩
  · exact (skipDiscarded_final hS he hu hmax hts (fun h0 => absurd rfl h0)).after (W := [])
      (by simp) fun us _ hus => readItems_error_iff.2 (.inl hus)
  · exact absurd rfl he
  · -- the closer awaited, but the items do not pair up
    obtain ⟨ys, hys, hS'⟩ := hS.split
    refine ⟨ys ++ [t], rest, by simp [← hys], by simp, ?_, fun R' => ?_⟩
    · exact List.forall_mem_append.2 ⟨hS'.settled rfl, List.forall_mem_singleton.2
        (Token.settled_of_kind (.inr (.inl (hc ▸ Opening.isClose_closer_getD _))))⟩
    · rw [List.append_assoc, List.singleton_append]
      exact readItems_error_iff.2 (.inr (.inr ⟨t, R', hS'.reframe hmax hS.peekKind_ne,
        .inl ⟨hc, collection_error_congr hC hop⟩⟩))
  · exact absurd rfl he
  · -- a closer that is not the one awaited
    obtain ⟨ys, hys, hS'⟩ := hS.split
    have ht := Token.settled_of_kind (.inr (.inl hclose))
    refine ⟨ys ++ [t], rest, by simp [← hys], by simp, ?_, fun R' => ?_⟩
    · exact List.forall_mem_append.2 ⟨hS'.settled rfl, List.forall_mem_singleton.2 ht⟩
    · rw [List.append_assoc, List.singleton_append]
      refine readItems_error_iff.2 (.inr (.inr ⟨t, R', hS'.reframe hmax hS.peekKind_ne,
        .inr (.inr (.inl ⟨hc, heof, hclose, ?_⟩))⟩))
      rw [hop, fail_congr (hts t (hS.suffix.subset (List.mem_cons_self ..)) ht).1]
  · -- an item that fails
    obtain ⟨ys, hys, hS'⟩ := hS.split
    have := hS.length_le
    have hF' := readForm_final hF he hu hmax fun x hx => hts x (hS.suffix.subset hx)
    rw [← hys]
    refine hF'.after (hS'.settled rfl) fun us hus hF => ?_
    obtain ⟨us', rfl⟩ := List.head?_eq_some_iff.1 hus
    exact readItems_error_iff.2 (.inr (.inr ⟨t, us', hS'.reframe hmax hS.peekKind_ne,
      .inr (.inr (.inr ⟨hc, heof, hclose, .inl hF⟩))⟩))
  · -- an item, then items after it that fail
    obtain ⟨g, ts2, hF, hI⟩ := hF
    obtain ⟨ys, hys, hS'⟩ := hS.split
    obtain ⟨zs', hrest, hF2⟩ := hF.split_cons
    have := hS.length_le
    have := hF.length_lt
    have hI' := readItems_final hI he hu hmax
      (fun x hx => hts x (hS.suffix.subset (hF.suffix.subset hx))) hop
    rw [← hys, hrest, ← List.cons_append, ← List.append_assoc]
    refine hI'.after (List.forall_mem_append.2 ⟨hS'.settled rfl, hF2.settled rfl⟩)
      fun us _ hus => ?_
    rw [List.append_assoc, List.cons_append]
    exact readItems_error_iff.2 (.inr (.inr ⟨t, zs' ++ us, hS'.reframe hmax hS.peekKind_ne,
      .inr (.inr (.inr ⟨hc, heof, hclose, .inr ⟨g, us, hF2.reframe hmax us, hus⟩⟩))⟩))
termination_by 3 * ts.length + 2
decreasing_by all_goals omega

theorem skipDiscarded_final {d p m : Nat} {ts : List Token} {e : ParseError}
    (h : skipDiscarded cx d p m ts = .error e) (he : e.kind ≠ .unexpectedEof)
    (hu : e.problem ≠ .unterminatedString) (hmax : cx'.maxDepth = cx.maxDepth)
    (hts : ∀ x ∈ ts, x.Settled → ReadsAlike cx cx' x) (hm : p ≠ 0 → SamePos cx cx' m) :
    DecidedBy (fun us => skipDiscarded cx' d p m us = .error e) ts := by
  match ts with
  | [] =>
    obtain ⟨-, rfl⟩ := skipDiscarded_nil_error.1 h
    exact absurd rfl he
  | t :: rest =>
    have hrest : ∀ x ∈ rest, x.Settled → ReadsAlike cx cx' x :=
      fun x hx => hts x (List.mem_cons_of_mem _ hx)
    rcases skipDiscarded_cons_error_iff.1 h with ⟨hdis, hS⟩ |
      ⟨hdis, hp, ⟨-, rfl⟩ | ⟨heof, hclose, rfl⟩ | ⟨heof, hclose, hF | ⟨g, r1, hF, hS⟩⟩⟩
    · -- a marker, then more to skip
      have ht := Token.settled_of_kind (.inr (.inr (.inr (.inr hdis))))
      exact (skipDiscarded_final hS he hu hmax hrest
        fun _ => (hts t (List.mem_cons_self ..) ht).1).after (W := [t])
        (List.forall_mem_singleton.2 ht)
        fun us _ hus => skipDiscarded_cons_error_iff.2 (.inl ⟨hdis, hus⟩)
    · exact absurd rfl he
    · -- a closer where a discarded form is awaited
      have ht := Token.settled_of_kind (.inr (.inl hclose))
      refine DecidedBy.here ht fun R' => skipDiscarded_cons_error_iff.2
        (.inr ⟨hdis, hp, .inr (.inl ⟨heof, hclose, ?_⟩)⟩)
      rw [fail_congr (hm hp)]
    · -- a discarded form that fails
      exact (readForm_final hF he hu hmax hts).after (W := []) (by simp) fun us hus hF => by
        obtain ⟨us', rfl⟩ := List.head?_eq_some_iff.1 hus
        exact skipDiscarded_cons_error_iff.2 (.inr ⟨hdis, hp, .inr (.inr ⟨heof, hclose, .inl hF⟩)⟩)
    · -- a discarded form, then more to skip that fails
      obtain ⟨zs', hrest', hF2⟩ := hF.split_cons
      have := hF.length_lt
      have hS' := skipDiscarded_final hS he hu hmax
        (fun x hx => hts x (hF.suffix.subset hx)) fun _ => hm hp
      rw [hrest', ← List.cons_append]
      refine hS'.after (hF2.settled rfl) fun us _ hus => ?_
      exact skipDiscarded_cons_error_iff.2 (.inr ⟨hdis, hp, .inr (.inr ⟨heof, hclose,
        .inr ⟨g, us, hF2.reframe hmax us, hus⟩⟩)⟩)
termination_by 3 * ts.length + 1
decreasing_by all_goals (rw [List.length_cons] at *; omega)

end

end

theorem exists_of_settled_append {P R L M : List Token} {y : Token} (h : P ++ R = L ++ y :: M)
    (hP : ∀ x ∈ P, x.Settled) (hy : ¬ y.Settled) : ∃ R0, L = P ++ R0 ∧ R = R0 ++ y :: M := by
  rcases List.append_eq_append_iff.1 h with ⟨as, hL, hR⟩ | ⟨bs, hP', hM⟩
  · exact ⟨as, hL, hR⟩
  · cases bs with
    | nil => exact ⟨[], by simp [hP'], by simp [hM]⟩
    | cons b bs =>
      obtain ⟨rfl, -⟩ := List.cons.inj hM
      exact absurd (hP y (by simp [hP'])) hy

theorem eq_of_settled_append {W V M N : List Token} {t u : Token} (h : W ++ t :: M = V ++ u :: N)
    (hW : ∀ x ∈ W, x.Settled) (hV : ∀ x ∈ V, x.Settled) (ht : ¬ t.Settled) (hu : ¬ u.Settled) :
    W = V ∧ t = u ∧ M = N := by
  obtain ⟨R0, rfl, hR⟩ := exists_of_settled_append h hW hu
  cases R0 with
  | nil =>
    obtain ⟨rfl, rfl⟩ := List.cons.inj hR
    exact ⟨(List.append_nil W).symm, rfl, rfl⟩
  | cons a R0 =>
    obtain ⟨rfl, -⟩ := List.cons.inj hR
    exact absurd (hV t (by simp)) ht

theorem DecidedBy.before {F : List Token → Prop} {L M : List Token} {y : Token}
    (h : DecidedBy F (L ++ y :: M)) (hy : ¬ y.Settled) (B : List Token) : F (L ++ B) := by
  obtain ⟨P, R, hPR, -, hP, hF⟩ := h
  obtain ⟨R0, rfl, -⟩ := exists_of_settled_append hPR.symm hP hy
  rw [List.append_assoc]
  exact hF _

theorem exists_end_split {ys r1 A : List Token} {z : Token} (h : ys ++ r1 = A ++ [z])
    (hys : ∀ y ∈ ys, y.Settled) (hA : ∀ x ∈ A, x.kind ≠ .eof) (hz : z.kind = .eof) :
    ∃ A1, A = ys ++ A1 ∧ r1 = A1 ++ [z] ∧ (∀ x ∈ A1, x.kind ≠ .eof) ∧
      (peekKind r1 = .eof ↔ A1 = []) := by
  obtain ⟨A1, hA1, hr1⟩ := exists_of_settled_append h hys fun h => h.1 hz
  have hA1e : ∀ x ∈ A1, x.kind ≠ .eof := fun x hx => hA x (by rw [hA1]; simp [hx])
  refine ⟨A1, hA1, hr1, hA1e, ?_⟩
  rw [hr1]
  cases A1 with
  | nil => simpa [peekKind] using hz
  | cons a A1 => simpa [peekKind] using hA1e a (List.mem_cons_self ..)

theorem Skips.end_split {cx : ReadContext} {d p m : Nat} {A r1 : List Token} {z : Token}
    (hS : Skips cx d p m (A ++ [z]) r1) (hA : ∀ x ∈ A, x.kind ≠ .eof) (hz : z.kind = .eof) :
    ∃ ys A1, Skips cx d p m (ys ++ r1) r1 ∧ A = ys ++ A1 ∧ r1 = A1 ++ [z] ∧
      (∀ x ∈ A1, x.kind ≠ .eof) ∧ (peekKind r1 = .eof ↔ A1 = []) := by
  obtain ⟨ys, hys, hS'⟩ := hS.split
  obtain ⟨A1, hA1, hr1, hA1e, hend⟩ := exists_end_split hys (hS'.settled rfl) hA hz
  exact ⟨ys, A1, hS', hA1, hr1, hA1e, hend⟩

/-! ### Positions in a longer text -/

theorem advance_append_of_le (here : Position) (P Q : List Char) {b : Nat}
    (hb : b ≤ utf8Length P) : Position.advance here (P ++ Q) b = Position.advance here P b := by
  induction P generalizing here b with
  | nil =>
    obtain rfl : b = 0 := Nat.le_zero.1 hb
    rw [List.nil_append, advance_zero, advance_zero]
  | cons c P ih =>
    rw [utf8Length_cons] at hb
    rw [List.cons_append, Position.advance, Position.advance]
    by_cases hc : c.utf8Size ≤ b
    · rw [if_pos hc, if_pos hc]
      exact ih _ (by omega)
    · rw [if_neg hc, if_neg hc]

theorem ofOffset_append_of_le {s : String} (t : String) {o : Nat} (ho : o ≤ s.utf8ByteSize) :
    Position.ofOffset (s ++ t) o = Position.ofOffset s o := by
  rw [utf8ByteSize_eq_utf8Length] at ho
  rw [Position.ofOffset, Position.ofOffset, String.toList_append, advance_append_of_le _ _ _ ho]

section

variable {cx cx' : ReadContext}

theorem atom_error_congr {t : Token} {e : ParseError} (h : atom cx t = .error e)
    (hpos : SamePos cx cx' t.offset)
    (hesc : t.kind = .string → ∀ k, StuckAt t.text.toList k → SamePos cx cx' (t.offset + 1 + k)) :
    atom cx' t = .error e := by
  unfold atom at h ⊢
  cases hk : t.kind <;> simp only [hk, reduceCtorEq] at h hesc ⊢
  case string =>
    split at h
    · cases h
    · rename_i k e0 hun
      rw [← h, fail_congr (hesc trivial k (unescape_error_iff.1 ⟨e0, hun⟩))]
  all_goals (try split at h) <;> (try split) <;> simp_all [fail_congr hpos]

end

theorem readsAlike_append {s t : String} {d : Nat} {x : Token} (hx : x ∈ tokenize s)
    (hs : x.Settled) :
    ReadsAlike ⟨s, s.utf8ByteSize, d⟩ ⟨s ++ t, (s ++ t).utf8ByteSize, d⟩ x := by
  have hle : ∀ P Q : List Char, s.toList = P ++ Q → utf8Length P ≤ s.utf8ByteSize := by
    intro P Q hPQ
    rw [utf8ByteSize_eq_utf8Length, hPQ, utf8Length_append]
    omega
  obtain ⟨P, Q, hPQ, hoff⟩ := offset_of_mem_tokenize hx hs.1
  have hpos : SamePos ⟨s, s.utf8ByteSize, d⟩ ⟨s ++ t, (s ++ t).utf8ByteSize, d⟩ x.offset :=
    ofOffset_append_of_le t (hoff ▸ hle P Q hPQ)
  refine ⟨hpos, fun e he => atom_error_congr he hpos fun hk k hst => ?_⟩
  obtain ⟨P', Q', hPQ', hP'⟩ := backslash_at_stuck hx hk hst
  exact ofOffset_append_of_le t (hP' ▸ hle P' _ hPQ')

/-! ### Failures at the end -/

theorem Filler.ne_discard {k : TokenKind} (h : Filler k) : k ≠ .discard := by
  rintro rfl
  rcases h with h | h <;> simp [TokenKind.isClose] at h

theorem pairUp_of_even : ∀ items : List Form, items.length % 2 = 0 → ∃ ps, pairUp items = some ps
  | [], _ => ⟨[], rfl⟩
  | [_], h => absurd h (by simp)
  | _ :: _ :: rest, h => by
    obtain ⟨ps, hps⟩ := pairUp_of_even rest (by simp only [List.length_cons] at h; omega)
    exact ⟨_, by rw [pairUp, hps]; rfl⟩

/-- The kinds of tokens that close the collection a `k` opens after `n` items: a `nil` first
where a map's items do not pair up, then its closer. -/
def closing (k : TokenKind) (n : Nat) : List TokenKind :=
  (if k = .lparen ∨ k = .lbracket ∨ k = .setOpen ∨ n % 2 = 0 then [] else [.nilLit]) ++
    [k.closer.getD .rparen]

theorem closing_filler (k : TokenKind) (n : Nat) : ∀ c ∈ closing k n, Filler c := by
  have hcl : Filler (k.closer.getD .rparen) := .inr (Opening.isClose_closer_getD k)
  intro c hc
  unfold closing at hc
  split at hc
  · rw [List.nil_append, List.mem_singleton] at hc
    exact hc ▸ hcl
  · rcases List.mem_append.1 hc with hc | hc
    · exact .inl (List.mem_singleton.1 hc)
    · exact List.mem_singleton.1 hc ▸ hcl

theorem peekKind_closing {k : TokenKind} {n : Nat} {X : List Token}
    (hX : X.map Token.kind = closing k n) (r : List Token) : peekKind (X ++ r) ≠ .discard := by
  cases X with
  | nil => simp [closing] at hX
  | cons x X =>
    have hx : x.kind ∈ closing k n := by
      rw [← hX]
      exact List.mem_map_of_mem (List.mem_cons_self ..)
    exact (closing_filler k n _ hx).ne_discard

section

variable {cx : ReadContext}

theorem atom_eof {t : Token} (ht : t.kind = .eof) :
    atom cx t = .error (cx.fail .unexpectedEnd t.offset) := by
  unfold atom
  rw [ht]

theorem atom_error_not_end {t : Token} {e : ParseError} (h : atom cx t = .error e)
    (ht : t.kind ≠ .eof) (hopen : t.kind.isOpen = false) (htag : t.kind ≠ .tag) :
    e.kind ≠ .unexpectedEof ∧ e.kind ≠ .emptyQuery := by
  unfold atom at h
  cases hk : t.kind <;>
    simp only [hk, reduceCtorEq, TokenKind.isOpen, ne_eq, not_true_eq_false] at h ht hopen htag <;>
    (try split at h) <;> cases h <;> simp [ReadContext.fail, ParseError.kind, Problem.kind]

theorem collection_error_oddMap {opener : Token} {items : List Form} {span : Span}
    {e : ParseError} (h : collection cx opener items span = .error e) :
    e = cx.fail .oddMap span.start := by
  unfold collection at h
  split at h <;> (try split at h) <;> simp_all

theorem readsForm_nil_token {d : Nat} {x : Token} (hx : x.kind = .nilLit) (r : List Token) :
    ReadsForm cx d (x :: r) (.nil ⟨x.offset, x.stop⟩) r :=
  readsForm_cons_iff.2 (.inr (.inr ⟨by simp [hx, TokenKind.isOpen], by simp [hx],
    by unfold atom; rw [hx], rfl⟩))

theorem readsItems_closer {opener c : Token} {d : Nat} {acc : List Form}
    (hc : c.kind = opener.kind.closer.getD .rparen)
    (hpair : opener.kind = .lparen ∨ opener.kind = .lbracket ∨ opener.kind = .setOpen ∨
      acc.length % 2 = 0) (r : List Token) :
    ∃ f, ReadsItems cx opener d acc (c :: r) f r := by
  have hC : ∃ f, collection cx opener acc.reverse ⟨opener.offset, c.stop⟩ = .ok f := by
    unfold collection
    rcases hpair with hk | hk | hk | hk
    · rw [hk]; exact ⟨_, rfl⟩
    · rw [hk]; exact ⟨_, rfl⟩
    · rw [hk]; exact ⟨_, rfl⟩
    · obtain ⟨ps, hps⟩ := pairUp_of_even acc.reverse (by rwa [List.length_reverse])
      split <;> (try rw [hps]) <;> exact ⟨_, rfl⟩
  obtain ⟨f, hf⟩ := hC
  have hpk : peekKind (c :: r) ≠ .discard :=
    Filler.ne_discard (k := c.kind) (.inr (by rw [hc]; exact Opening.isClose_closer_getD _))
  exact ⟨f, readsItems_iff.2 ⟨c, r, skips_self hpk, .inl ⟨hc, hf, rfl⟩⟩⟩

theorem readsItems_closing {opener : Token} {d : Nat} {acc : List Form} {X : List Token}
    (hX : X.map Token.kind = closing opener.kind acc.length) (r : List Token) :
    ∃ f, ReadsItems cx opener d acc (X ++ r) f r := by
  unfold closing at hX
  split at hX
  · rename_i hpair
    obtain ⟨c, rfl, hc⟩ := List.map_eq_singleton_iff.1 hX
    exact readsItems_closer hc hpair r
  · -- a map's odd item count: a `nil` value first
    rename_i hodd
    obtain ⟨x, X', rfl, hx, hX'⟩ := List.map_eq_cons_iff.1 hX
    obtain ⟨c, rfl, hc⟩ := List.map_eq_singleton_iff.1 hX'
    obtain ⟨f, hI⟩ : ∃ f, ReadsItems cx opener d (.nil ⟨x.offset, x.stop⟩ :: acc) (c :: r) f r :=
      readsItems_closer hc (.inr (.inr (.inr (by simp only [List.length_cons]; omega)))) r
    have hxc : x.kind ≠ opener.kind.closer.getD .rparen := by
      rw [hx]
      intro h
      have := Opening.isClose_closer_getD opener.kind
      rw [← h] at this
      cases this
    refine ⟨f, readsItems_iff.2 ⟨x, c :: r, skips_self (by simp [peekKind, hx]), .inr ⟨hxc,
      by simp [hx], by simp [hx, TokenKind.isClose], _, _, readsForm_nil_token hx _, hI⟩⟩⟩

theorem ReadsItems.skipped {opener : Token} {d : Nat} {acc : List Form} {ts us r : List Token}
    {f : Form} (hS : Skips cx (d + 1) 0 0 ts us) (hI : ReadsItems cx opener d acc us f r) :
    ReadsItems cx opener d acc ts f r := by
  obtain ⟨t, rest, hS2, hdec⟩ := readsItems_iff.1 hI
  obtain rfl := hS2.eq_self hS.peekKind_ne
  exact readsItems_iff.2 ⟨t, rest, hS, hdec⟩

theorem skips_nils {d m : Nat} (p : Nat) {X : List Token}
    (hX : X.map Token.kind = List.replicate p .nilLit) {r : List Token}
    (hr : peekKind r ≠ .discard) : Skips cx d p m (X ++ r) r := by
  induction p generalizing X with
  | zero =>
    obtain rfl : X = [] := List.map_eq_nil_iff.1 hX
    exact skips_self hr
  | succ p ih =>
    rw [List.replicate_succ] at hX
    obtain ⟨x, X', rfl, hx, hX'⟩ := List.map_eq_cons_iff.1 hX
    refine skips_cons_iff.2 (.inr (.inr ⟨by simp [hx], by omega, by simp [hx],
      by simp [hx, TokenKind.isClose], _, _, readsForm_nil_token hx _, ?_⟩))
    rw [Nat.add_sub_cancel]
    exact ih hX'

end

/-- Settled tokens `A` that tokens of some kinds, each `nil` or a closer, carry on to what `reads`
asks. -/
def Completable (reads : List Token → Prop) (A : List Token) : Prop :=
  (∀ x ∈ A, x.Settled) ∧ ∃ K : List TokenKind, (∀ k ∈ K, Filler k) ∧
    ∀ X : List Token, X.map Token.kind = K → reads (A ++ X)

/-- A failure at the end of the tokens `A`, then the end token: it is reported at the end of the
text, and `A` is completable as `reads` says. -/
def FailsAtEnd (cx : ReadContext) (e : ParseError) (reads : List Token → Prop) (A : List Token) :
    Prop :=
  e.position = Position.ofOffset cx.input cx.size ∧ Completable reads A

theorem Completable.wrap {F G : List Token → Prop} {A W : List Token} {L : List TokenKind}
    (h : Completable F A) (hW : ∀ x ∈ W, x.Settled) (hL : ∀ k ∈ L, Filler k)
    (hG : ∀ X X2, F (A ++ X) → X2.map Token.kind = L → G (W ++ A ++ X ++ X2)) :
    Completable G (W ++ A) := by
  obtain ⟨hA, K, hK, hF⟩ := h
  refine ⟨List.forall_mem_append.2 ⟨hW, hA⟩, K ++ L, List.forall_mem_append.2 ⟨hK, hL⟩,
    fun X hX => ?_⟩
  obtain ⟨X1, X2, rfl, h1, h2⟩ := List.map_eq_append_iff.1 hX
  rw [← List.append_assoc]
  exact hG X1 X2 (hF X1 h1) h2

theorem FailsAtEnd.wrap {cx : ReadContext} {e : ParseError} {F G : List Token → Prop}
    {A W : List Token} {L : List TokenKind} (h : FailsAtEnd cx e F A)
    (hW : ∀ x ∈ W, x.Settled) (hL : ∀ k ∈ L, Filler k)
    (hG : ∀ X X2, F (A ++ X) → X2.map Token.kind = L → G (W ++ A ++ X ++ X2)) :
    FailsAtEnd cx e G (W ++ A) :=
  ⟨h.1, h.2.wrap hW hL hG⟩

theorem peekKind_append_of_ne_nil {zs : List Token} (h : zs ≠ []) (U V : List Token) :
    peekKind (zs ++ U) = peekKind (zs ++ V) := by
  obtain ⟨z, zs, rfl⟩ := List.exists_cons_of_ne_nil h
  rfl

section

variable {cx : ReadContext} {e : ParseError} {z : Token}

theorem fail_kind_ne_end {p : Problem} {o : Nat} (hp : p.kind ≠ .unexpectedEof)
    (hq : p.kind ≠ .emptyQuery) (he : (cx.fail p o).kind = .unexpectedEof ∨
      (cx.fail p o).kind = .emptyQuery) : False := by
  rcases he with he | he
  · exact hp he
  · exact hq he

mutual

/-- A failure at the end of the tokens is reported at the end of the text, and text that gives
a `nil` for each form still to come and a closer for each collection left open finishes the
form. -/
theorem readForm_completes {d : Nat} {A : List Token} (h : readForm cx d (A ++ [z]) = .error e)
    (he : e.kind = .unexpectedEof ∨ e.kind = .emptyQuery) (hA : ∀ x ∈ A, x.kind ≠ .eof)
    (hz : z.kind = .eof) (hzo : z.offset = cx.size) :
    FailsAtEnd cx e (fun us => ∀ r, ∃ f, ReadsForm cx d (us ++ r) f r) A := by
  match A with
  | [] =>
    -- the end token itself, read as an atom
    rw [List.nil_append] at h
    rcases readForm_cons_error_iff.1 h with ⟨hopen, -⟩ | ⟨htag, -⟩ | ⟨-, -, hat⟩
    · simp [hz, TokenKind.isOpen] at hopen
    · rw [hz] at htag
      cases htag
    rw [atom_eof hz] at hat
    cases hat
    refine ⟨by rw [hzo]; rfl, by simp, [.nilLit], by simp [Filler], fun X hX r => ?_⟩
    obtain ⟨x, rfl, hx⟩ := List.map_eq_singleton_iff.1 hX
    exact ⟨_, readsForm_nil_token hx r⟩
  | t :: A' =>
    rw [List.cons_append] at h
    have ht0 : t.kind ≠ .eof := hA t (List.mem_cons_self ..)
    have hA' : ∀ x ∈ A', x.kind ≠ .eof := fun x hx => hA x (List.mem_cons_of_mem _ hx)
    rcases readForm_cons_error_iff.1 h with
      ⟨hopen, ⟨hdep, rfl⟩ | ⟨hdep, hI⟩⟩ |
      ⟨htag, ⟨hdep, rfl⟩ | ⟨hdep, hS | ⟨r1, hS, ⟨hpk, rfl⟩ | ⟨hpk, hF⟩⟩⟩⟩ |
      ⟨hopen, htag, hat⟩
    · exact (fail_kind_ne_end (by simp [Problem.kind]) (by simp [Problem.kind]) he).elim
    · -- an opener: its items end at the end
      have ht := Token.settled_of_kind (.inl hopen)
      refine (readItems_completes hI he hA' hz hzo).wrap (W := [t]) (L := [])
        (List.forall_mem_singleton.2 ht) (by simp) fun X X2 hI' hX2 r => ?_
      obtain rfl := List.map_eq_nil_iff.1 hX2
      obtain ⟨f, hf⟩ := hI' r
      refine ⟨f, ?_⟩
      simp only [List.append_nil, List.append_assoc, List.singleton_append] at hf ⊢
      exact readsForm_cons_iff.2 (.inl ⟨hopen, hdep, hf⟩)
    · exact (fail_kind_ne_end (by simp [Problem.kind]) (by simp [Problem.kind]) he).elim
    · -- a tag: the markers after it end at the end; a `nil` is its value
      have ht := Token.settled_of_kind (.inr (.inr (.inr (.inl htag))))
      refine (skipDiscarded_completes hS he hA' hz hzo).wrap (W := [t]) (L := [.nilLit])
        (List.forall_mem_singleton.2 ht) (by simp [Filler]) fun X X2 hS' hX2 r => ?_
      obtain ⟨x, rfl, hx⟩ := List.map_eq_singleton_iff.1 hX2
      have hS2 := hS' (x :: r) (by simp [peekKind, hx])
      simp only [List.append_assoc, List.singleton_append] at hS2 ⊢
      exact ⟨_, readsForm_cons_iff.2 (.inr (.inl ⟨htag, hdep, x :: r, hS2,
        by simp [peekKind, hx], _, readsForm_nil_token hx r, rfl⟩))⟩
    · -- a tag, then only markers: a `nil` is its value
      have ht := Token.settled_of_kind (.inr (.inr (.inr (.inl htag))))
      obtain ⟨ys, A1, hS', hA1, -, -, hend⟩ := hS.end_split hA' hz
      obtain rfl := hend.1 hpk
      rw [List.append_nil] at hA1
      refine ⟨rfl, ?_, [.nilLit], by simp [Filler], fun X hX r => ?_⟩
      · exact List.forall_mem_cons.2 ⟨ht, fun x hx => hS'.settled rfl x (hA1 ▸ hx)⟩
      · obtain ⟨x, rfl, hx⟩ := List.map_eq_singleton_iff.1 hX
        have hS2 : Skips cx (d + 1) 0 0 (ys ++ x :: r) (x :: r) :=
          hS'.reframe rfl (by simp [peekKind, hx])
        simp only [hA1, List.cons_append, List.append_assoc]
        exact ⟨_, readsForm_cons_iff.2 (.inr (.inl ⟨htag, hdep, x :: r, hS2,
          by simp [peekKind, hx], _, readsForm_nil_token hx r, rfl⟩))⟩
    · -- a tag, markers, then a value that ends at the end
      have ht := Token.settled_of_kind (.inr (.inr (.inr (.inl htag))))
      obtain ⟨ys, A1, hS', hA1, hr1, hA1e, hend⟩ := hS.end_split hA' hz
      have hlen : A1.length ≤ A'.length := by
        rw [hA1, List.length_append]
        omega
      have hne : A1 ≠ [] := fun h => hpk (hend.2 h)
      rw [hr1] at hF
      have hIH := readForm_completes hF he hA1e hz hzo
      rw [hA1, ← List.cons_append]
      refine hIH.wrap (W := t :: ys) (L := []) (List.forall_mem_cons.2 ⟨ht, hS'.settled rfl⟩)
        (by simp) fun X X2 hF' hX2 r => ?_
      · obtain rfl := List.map_eq_nil_iff.1 hX2
        obtain ⟨v, hv⟩ := hF' r
        have hpk' : peekKind (A1 ++ (X ++ r)) = peekKind r1 := by
          rw [hr1]
          exact peekKind_append_of_ne_nil hne _ _
        have hS2 : Skips cx (d + 1) 0 0 (ys ++ (A1 ++ (X ++ r))) (A1 ++ (X ++ r)) :=
          hS'.reframe rfl (hpk' ▸ hS.peekKind_ne)
        simp only [List.append_nil, List.append_assoc, List.cons_append] at hv ⊢
        exact ⟨_, readsForm_cons_iff.2 (.inr (.inl ⟨htag, hdep, _, hS2, hpk' ▸ hpk, _, hv, rfl⟩))⟩
    · have := atom_error_not_end hat ht0 hopen htag
      exact (he.elim this.1 this.2).elim
termination_by 3 * A.length
decreasing_by all_goals (simp only [List.length_cons]; omega)

theorem readItems_completes {opener : Token} {d : Nat} {acc : List Form} {A : List Token}
    (h : readItems cx opener d acc (A ++ [z]) = .error e)
    (he : e.kind = .unexpectedEof ∨ e.kind = .emptyQuery) (hA : ∀ x ∈ A, x.kind ≠ .eof)
    (hz : z.kind = .eof) (hzo : z.offset = cx.size) :
    FailsAtEnd cx e (fun us => ∀ r, ∃ f, ReadsItems cx opener d acc (us ++ r) f r) A := by
  have hzs : ¬ z.Settled := fun h => h.1 hz
  rcases readItems_error_iff.1 h with hS | ⟨hS, -⟩ |
    ⟨t, rest, hS, ⟨hc, hC⟩ | ⟨hc, heof, rfl⟩ | ⟨hc, heof, hclose, rfl⟩ |
      ⟨hc, heof, hclose, hF | ⟨g, ts2, hF, hI⟩⟩⟩
  · -- the markers end at the end: then the closer
    refine (skipDiscarded_completes hS he hA hz hzo).wrap (W := [])
      (L := closing opener.kind acc.length) (by simp) (closing_filler _ _)
      fun X X2 hS' hX2 r => ?_
    obtain ⟨f, hf⟩ : ∃ f, ReadsItems cx opener d acc (X2 ++ r) f r := readsItems_closing hX2 r
    refine ⟨f, ?_⟩
    simpa only [List.nil_append, List.append_assoc] using
      hf.skipped (hS' (X2 ++ r) (peekKind_closing hX2 r))
  · -- the markers cannot take the end token
    exact absurd (hS.settled (List.append_nil _).symm z (by simp)) hzs
  · exact (fail_kind_ne_end (by simp [Problem.kind]) (by simp [Problem.kind])
      (collection_error_oddMap hC ▸ he)).elim
  · -- the end where the closer is awaited
    obtain ⟨ys, A1, hS', hA1, -, -, hend⟩ := hS.end_split hA hz
    obtain rfl := hend.1 heof
    rw [List.append_nil] at hA1
    refine ⟨rfl, ⟨hA1 ▸ hS'.settled rfl, closing opener.kind acc.length, closing_filler _ _,
      fun X hX r => ?_⟩⟩
    obtain ⟨f, hf⟩ : ∃ f, ReadsItems cx opener d acc (X ++ r) f r := readsItems_closing hX r
    refine ⟨f, ?_⟩
    rw [hA1, List.append_assoc]
    exact hf.skipped (hS'.reframe rfl (peekKind_closing hX r))
  · exact (fail_kind_ne_end (by simp [Problem.kind]) (by simp [Problem.kind]) he).elim
  · -- an item that ends at the end: then what closes the items
    obtain ⟨ys, A1, hS', hA1, hr, hA1e, -⟩ := hS.end_split hA hz
    have hlen : A1.length ≤ A.length := by
      rw [hA1, List.length_append]
      omega
    obtain ⟨A1', rfl⟩ : ∃ A1', A1 = t :: A1' := by
      cases A1 with
      | nil =>
        obtain ⟨rfl, -⟩ := List.cons.inj hr
        exact absurd hz heof
      | cons a A1' =>
        obtain ⟨rfl, -⟩ := List.cons.inj hr
        exact ⟨A1', rfl⟩
    rw [hr] at hF
    have hIH := readForm_completes hF he hA1e hz hzo
    rw [hA1]
    refine hIH.wrap (W := ys) (L := closing opener.kind (acc.length + 1)) (hS'.settled rfl)
      (closing_filler _ _) fun X X2 hF' hX2 r => ?_
    obtain ⟨g, hg⟩ := hF' (X2 ++ r)
    obtain ⟨f, hf⟩ : ∃ f, ReadsItems cx opener d (g :: acc) (X2 ++ r) f r :=
      readsItems_closing hX2 r
    have hS2 : Skips cx (d + 1) 0 0 (ys ++ t :: (A1' ++ X ++ X2 ++ r)) (t :: (A1' ++ X ++ X2 ++ r)) :=
      hS'.reframe rfl hS.peekKind_ne
    refine ⟨f, ?_⟩
    simp only [List.append_assoc, List.cons_append] at hg hS2 ⊢
    exact readsItems_iff.2 ⟨t, _, hS2, .inr ⟨hc, heof, hclose, g, X2 ++ r, hg, hf⟩⟩
  · -- an item, then items that fail at the end
    obtain ⟨ys, hys, hS'⟩ := hS.split
    obtain ⟨zs', hrest, hF2⟩ := hF.split_cons
    have hset : ∀ x ∈ ys ++ t :: zs', x.Settled :=
      List.forall_mem_append.2 ⟨hS'.settled rfl, hF2.settled rfl⟩
    have hsplit : (ys ++ t :: zs') ++ ts2 = A ++ [z] := by
      rw [List.append_assoc, List.cons_append, ← hrest, hys]
    obtain ⟨A2, hA2, hr2, hA2e, -⟩ := exists_end_split hsplit hset hA hz
    have hlen : A2.length < A.length := by
      rw [hA2, List.length_append, List.length_append, List.length_cons]
      omega
    rw [hr2] at hI
    have hIH := readItems_completes hI he hA2e hz hzo
    rw [hA2]
    refine hIH.wrap (W := ys ++ t :: zs') (L := []) hset (by simp) fun X X2 hI' hX2 r => ?_
    obtain rfl := List.map_eq_nil_iff.1 hX2
    obtain ⟨f, hf⟩ := hI' r
    have hS2 : Skips cx (d + 1) 0 0 (ys ++ t :: (zs' ++ (A2 ++ (X ++ r))))
        (t :: (zs' ++ (A2 ++ (X ++ r)))) :=
      hS'.reframe rfl hS.peekKind_ne
    have hF3 := hF2.reframe rfl (A2 ++ (X ++ r))
    refine ⟨f, ?_⟩
    simp only [List.append_nil, List.append_assoc, List.cons_append] at hf hF3 ⊢
    exact readsItems_iff.2 ⟨t, _, hS2, .inr ⟨hc, heof, hclose, g, _, hF3, hf⟩⟩
termination_by 3 * A.length + 2
decreasing_by all_goals omega

theorem skipDiscarded_completes {d p m : Nat} {A : List Token}
    (h : skipDiscarded cx d p m (A ++ [z]) = .error e)
    (he : e.kind = .unexpectedEof ∨ e.kind = .emptyQuery) (hA : ∀ x ∈ A, x.kind ≠ .eof)
    (hz : z.kind = .eof) (hzo : z.offset = cx.size) :
    FailsAtEnd cx e (fun us => ∀ r, peekKind r ≠ .discard → Skips cx d p m (us ++ r) r) A := by
  match A with
  | [] =>
    rw [List.nil_append] at h
    rcases skipDiscarded_cons_error_iff.1 h with ⟨hdis, -⟩ |
      ⟨-, hp, ⟨-, rfl⟩ | ⟨heof, -⟩ | ⟨heof, -⟩⟩
    · rw [hz] at hdis
      cases hdis
    · refine ⟨rfl, by simp, List.replicate p .nilLit, by simp [Filler], fun X hX r hr => ?_⟩
      exact skips_nils p hX hr
    · exact absurd hz heof
    · exact absurd hz heof
  | t :: A' =>
    rw [List.cons_append] at h
    have ht0 : t.kind ≠ .eof := hA t (List.mem_cons_self ..)
    have hA' : ∀ x ∈ A', x.kind ≠ .eof := fun x hx => hA x (List.mem_cons_of_mem _ hx)
    rcases skipDiscarded_cons_error_iff.1 h with ⟨hdis, hS⟩ |
      ⟨hdis, hp, ⟨heof, -⟩ | ⟨heof, hclose, rfl⟩ | ⟨heof, hclose, hF | ⟨g, r1, hF, hS⟩⟩⟩
    · -- a marker, then more to skip
      have ht := Token.settled_of_kind (.inr (.inr (.inr (.inr hdis))))
      refine (skipDiscarded_completes hS he hA' hz hzo).wrap (W := [t]) (L := [])
        (List.forall_mem_singleton.2 ht) (by simp) fun X X2 hS' hX2 r hr => ?_
      obtain rfl := List.map_eq_nil_iff.1 hX2
      have := hS' r hr
      simp only [List.append_nil] at this ⊢
      exact skips_cons_iff.2 (.inl ⟨hdis, this⟩)
    · exact absurd heof ht0
    · exact (fail_kind_ne_end (by simp [Problem.kind]) (by simp [Problem.kind]) he).elim
    · -- a discarded form that ends at the end: then a `nil` for each form still pending
      refine (readForm_completes (A := t :: A') hF he hA hz hzo).wrap (W := [])
        (L := List.replicate (p - 1) .nilLit) (by simp) (by simp [Filler])
        fun X X2 hF' hX2 r hr => ?_
      obtain ⟨g, hg⟩ := hF' (X2 ++ r)
      simp only [List.nil_append, List.append_assoc, List.cons_append] at hg ⊢
      exact skips_cons_iff.2 (.inr (.inr ⟨hdis, hp, heof, hclose, g, _, hg,
        skips_nils (p - 1) hX2 hr⟩))
    · -- a discarded form, then more to skip that ends at the end
      obtain ⟨zs', hrest, hF2⟩ := hF.split_cons
      have hsplit : (t :: zs') ++ r1 = (t :: A') ++ [z] := by
        rw [List.cons_append, List.cons_append, hrest]
      obtain ⟨A2, hA2, hr2, hA2e, -⟩ := exists_end_split hsplit (hF2.settled rfl) hA hz
      have hlen : A2.length < A'.length + 1 := by
        have := hF.length_lt
        rw [hr2, List.length_append] at this
        simp only [List.length_cons, List.length_append, List.length_nil] at this
        omega
      rw [hr2] at hS
      have hIH := skipDiscarded_completes hS he hA2e hz hzo
      rw [hA2]
      refine hIH.wrap (W := t :: zs') (L := []) (hF2.settled rfl) (by simp)
        fun X X2 hS' hX2 r hr => ?_
      obtain rfl := List.map_eq_nil_iff.1 hX2
      have hF3 := hF2.reframe rfl (A2 ++ (X ++ r))
      have hS3 := hS' r hr
      simp only [List.append_nil, List.append_assoc, List.cons_append] at hF3 hS3 ⊢
      exact skips_cons_iff.2 (.inr (.inr ⟨hdis, hp, heof, hclose, g, _, hF3, hS3⟩))
termination_by 3 * A.length + 1
decreasing_by all_goals (simp only [List.length_cons]; omega)

end

end

/-! ### The read of a text -/

section

variable {cx cx' : ReadContext} {e : ParseError} {z : Token}

theorem failsTop_completes {A : List Token} (h : FailsTop cx (A ++ [z]) e)
    (he : e.kind = .unexpectedEof ∨ e.kind = .emptyQuery) (hA : ∀ x ∈ A, x.kind ≠ .eof)
    (hz : z.kind = .eof) (hzo : z.offset = cx.size) :
    (e.kind = .unexpectedEof → e.position = Position.ofOffset cx.input cx.size) ∧
      Completable (fun us => ∀ z', z'.kind = .eof → ∃ f, ReadsTop cx (us ++ [z']) f) A := by
  -- a `nil` where the form is awaited, then the end
  have hnil : ∀ W x z', Skips cx 0 0 0 (W ++ x :: [z']) (x :: [z']) → x.kind = .nilLit →
      z'.kind = .eof → ∃ f, ReadsTop cx (W ++ x :: [z']) f := fun W x z' hS hx hz' =>
    ⟨_, x :: [z'], hS, by simp [peekKind, hx], [z'], readsForm_nil_token hx _, [z'],
      skips_self (by simp [peekKind, hz']), by simp [peekKind, hz']⟩
  rcases h with hS | ⟨r1, hS, ⟨hpk, rfl⟩ | ⟨hpk, hF | ⟨f, r2, hF, hS2 | ⟨t, r3, hS2, ht, rfl⟩⟩⟩⟩
  · -- the markers before the form end at the end
    have H := skipDiscarded_completes hS he hA hz hzo
    refine ⟨fun _ => H.1, H.2.wrap (W := []) (L := [.nilLit]) (by simp) (by simp [Filler])
      fun X X2 hS' hX2 z' hz' => ?_⟩
    obtain ⟨x, rfl, hx⟩ := List.map_eq_singleton_iff.1 hX2
    simpa only [List.nil_append, List.append_assoc, List.singleton_append, List.cons_append] using
      hnil (A ++ X) x z' (hS' (x :: [z']) (by simp [peekKind, hx])) hx hz'
  · -- only markers: no form yet
    obtain ⟨ys, A1, hS', hA1, -, -, hend⟩ := hS.end_split hA hz
    obtain rfl := hend.1 hpk
    rw [List.append_nil] at hA1
    refine ⟨fun hk => absurd hk (by simp [ReadContext.fail, ParseError.kind, Problem.kind]),
      hA1 ▸ hS'.settled rfl, [.nilLit], by simp [Filler], fun X hX z' hz' => ?_⟩
    obtain ⟨x, rfl, hx⟩ := List.map_eq_singleton_iff.1 hX
    rw [hA1, List.append_assoc, List.singleton_append]
    exact hnil ys x z' (hS'.reframe rfl (by simp [peekKind, hx])) hx hz'
  · -- the form ends at the end
    obtain ⟨ys, A1, hS', hA1, hr1, hA1e, hend⟩ := hS.end_split hA hz
    have hne : A1 ≠ [] := fun h => hpk (hend.2 h)
    rw [hr1] at hF
    have H := readForm_completes hF he hA1e hz hzo
    refine ⟨fun _ => H.1, ?_⟩
    rw [hA1]
    refine H.2.wrap (W := ys) (L := []) (hS'.settled rfl) (by simp)
      fun X X2 hF' hX2 z' hz' => ?_
    obtain rfl := List.map_eq_nil_iff.1 hX2
    obtain ⟨f, hf⟩ := hF' [z']
    have hpk' : peekKind (A1 ++ (X ++ [z'])) = peekKind r1 := by
      rw [hr1]
      exact peekKind_append_of_ne_nil hne _ _
    simp only [List.append_nil, List.append_assoc] at hf ⊢
    exact ⟨f, _, hS'.reframe rfl (hpk' ▸ hS.peekKind_ne), hpk' ▸ hpk, [z'], hf, [z'],
      skips_self (by simp [peekKind, hz']), by simp [peekKind, hz']⟩
  · -- the markers after the form end at the end
    obtain ⟨ys, hys, hS'⟩ := hS.split
    obtain ⟨zs, hzne, hzs', hF2⟩ := hF.split
    have hset : ∀ x ∈ ys ++ zs, x.Settled :=
      List.forall_mem_append.2 ⟨hS'.settled rfl, hF2.settled rfl⟩
    have hsplit : (ys ++ zs) ++ r2 = A ++ [z] := by
      rw [List.append_assoc, hzs', hys]
    obtain ⟨A2, hA2, hr2, hA2e, -⟩ := exists_end_split hsplit hset hA hz
    rw [hr2] at hS2
    have H := skipDiscarded_completes hS2 he hA2e hz hzo
    refine ⟨fun _ => H.1, ?_⟩
    rw [hA2]
    refine H.2.wrap (W := ys ++ zs) (L := []) hset (by simp)
      fun X X2 hS3 hX2 z' hz' => ?_
    obtain rfl := List.map_eq_nil_iff.1 hX2
    have hS4 := hS3 [z'] (by simp [peekKind, hz'])
    have hpk' : peekKind (zs ++ (A2 ++ (X ++ [z']))) = peekKind r1 := by
      rw [← hzs']
      exact peekKind_append_of_ne_nil hzne _ _
    have hF3 := hF2.reframe rfl (A2 ++ (X ++ [z']))
    simp only [List.append_nil, List.append_assoc] at hS4 hF3 ⊢
    exact ⟨f, _, hS'.reframe rfl (hpk' ▸ hS.peekKind_ne), hpk' ▸ hpk, _, hF3, [z'], hS4,
      by simp [peekKind, hz']⟩
  · exact (fail_kind_ne_end (by simp [Problem.kind]) (by simp [Problem.kind]) he).elim

/-- A read that fails at a token is decided by the tokens up to it, in any context where they
read alike; but a token left after the form that is an open string, where a token in its place
leaves the same failure for that token. -/
theorem failsTop_final {T : List Token} (h : FailsTop cx T e) (he : e.kind ≠ .unexpectedEof)
    (he' : e.kind ≠ .emptyQuery) (hu : e.problem ≠ .unterminatedString)
    (hmax : cx'.maxDepth = cx.maxDepth) (hts : ∀ x ∈ T, x.Settled → ReadsAlike cx cx' x) :
    DecidedBy (fun us => FailsTop cx' us e) T ∨
      ∃ W t r, T = W ++ t :: r ∧ (∀ x ∈ W, x.Settled) ∧ t.kind = .unterminatedString ∧
        e = cx.fail (.trailing t.kind) t.offset ∧
        ∀ t' R', t'.kind ≠ .eof → t'.kind ≠ .discard →
          FailsTop cx' (W ++ t' :: R') (cx'.fail (.trailing t'.kind) t'.offset) := by
  rcases h with hS | ⟨r1, hS, hrest⟩
  · exact .inl ((skipDiscarded_final hS he hu hmax hts fun h0 => absurd rfl h0).after (W := [])
      (by simp) fun us _ hus => .inl hus)
  obtain ⟨ys, hys, hS'⟩ := hS.split
  rcases hrest with ⟨hpk, rfl⟩ | ⟨hpk, hF | ⟨f, r2, hF, hrest⟩⟩
  · exact absurd rfl he'
  · -- the form fails
    have hF' := readForm_final hF he hu hmax fun x hx => hts x (hS.suffix.subset hx)
    rw [← hys]
    refine .inl (hF'.after (hS'.settled rfl) fun us hus hF => ?_)
    have hpk' := peekKind_eq_of_head? hus
    exact .inr ⟨us, hS'.reframe hmax (hpk' ▸ hS.peekKind_ne), .inr ⟨hpk' ▸ hpk, .inl hF⟩⟩
  obtain ⟨zs, hzne, hzs', hF2⟩ := hF.split
  have hpkz : ∀ U, peekKind (zs ++ U) = peekKind r1 := fun U => by
    rw [← hzs']
    exact peekKind_append_of_ne_nil hzne _ _
  rcases hrest with hS2 | ⟨t, r3, hS2, ht, rfl⟩
  · -- the markers after the form fail
    have hS2' := skipDiscarded_final hS2 he hu hmax
      (fun x hx => hts x (hS.suffix.subset (hF.suffix.subset hx))) fun h0 => absurd rfl h0
    rw [← hys, ← hzs', ← List.append_assoc]
    refine .inl (hS2'.after (List.forall_mem_append.2 ⟨hS'.settled rfl, hF2.settled rfl⟩)
      fun us _ hus => ?_)
    rw [List.append_assoc]
    exact .inr ⟨zs ++ us, hS'.reframe hmax (hpkz us ▸ hS.peekKind_ne),
      .inr ⟨hpkz us ▸ hpk, .inr ⟨f, us, hF2.reframe hmax us, .inl hus⟩⟩⟩
  · -- a token after the form
    obtain ⟨ws, hws, hS3⟩ := hS2.split
    have hT : ys ++ r1 = (ys ++ zs ++ ws) ++ t :: r3 := by
      rw [← hzs', ← hws]
      simp only [List.append_assoc]
    have hW : ∀ x ∈ ys ++ zs ++ ws, x.Settled := List.forall_mem_append.2
      ⟨List.forall_mem_append.2 ⟨hS'.settled rfl, hF2.settled rfl⟩, hS3.settled rfl⟩
    -- any token in its place after the same tokens is left over the same way
    have hcont : ∀ t' R', t'.kind ≠ .eof → t'.kind ≠ .discard →
        FailsTop cx' ((ys ++ zs ++ ws) ++ t' :: R') (cx'.fail (.trailing t'.kind) t'.offset) := by
      intro t' R' h1 h2
      have hS4 : Skips cx 0 0 0 (ws ++ t' :: R') (t' :: R') := hS3.reframe rfl h2
      simp only [List.append_assoc]
      exact .inr ⟨zs ++ (ws ++ t' :: R'), hS'.reframe hmax (hpkz _ ▸ hS.peekKind_ne),
        .inr ⟨hpkz _ ▸ hpk, .inr ⟨f, _, hF2.reframe hmax _,
          .inr ⟨t', R', hS4.reframe hmax h2, h1, rfl⟩⟩⟩⟩
    rw [← hys, hT]
    by_cases hst : t.Settled
    · refine .inl ⟨(ys ++ zs ++ ws) ++ [t], r3, by simp, by simp,
        List.forall_mem_append.2 ⟨hW, List.forall_mem_singleton.2 hst⟩, fun R' => ?_⟩
      have hpos := (hts t (by rw [← hys, hT]; simp) hst).1
      rw [← fail_congr hpos, List.append_assoc, List.singleton_append]
      exact hcont t R' ht hS2.peekKind_ne
    · have hun : t.kind = .unterminatedString := Classical.byContradiction fun hk => hst ⟨ht, hk⟩
      exact .inr ⟨ys ++ zs ++ ws, t, r3, rfl, hW, hun, rfl, hcont⟩

end

/-- A read that fails at the end of its text can be finished: text that supplies a `nil` for each
form still to come and a closer for each collection left open makes it read, and a failure for
the end of input is reported at the end of the text. -/
theorem read_error_completes {s : String} {d : Nat} {e : ParseError} (h : read s d = .error e)
    (he : e.kind = .unexpectedEof ∨ e.kind = .emptyQuery) :
    (∃ t f, read (s ++ t) d = .ok f) ∧
      (e.kind = .unexpectedEof → e.position.offset = s.utf8ByteSize) := by
  obtain ⟨A, -, -, -, -, hA, htok⟩ := tokenize_eq_run s
  have hfail := read_error_iff.1 h
  rw [htok] at hfail
  obtain ⟨hpos, hset, K, hK, hcomp⟩ := failsTop_completes hfail he hA rfl rfl
  obtain ⟨X, z', htok', hX, hz'⟩ := tokenize_append_fillText htok (fun x hx => (hset x hx).2) K hK
  obtain ⟨f, hf⟩ := hcomp X hX z' hz'
  refine ⟨⟨String.ofList ('\n' :: fillText K), f, read_ok_iff.2 ?_⟩, fun hk => ?_⟩
  · rw [htok']
    exact hf.reframe rfl
  · rw [hpos hk]
    have := ofOffset_offset (s := s) (P := s.toList) (Q := []) (List.append_nil _).symm
    rwa [← utf8ByteSize_eq_utf8Length] at this

/-- A read that fails at a token, for a cause other than the end of input or an open string,
fails the same way, at the same position, with more text after a blank. -/
theorem read_error_final {s : String} {d : Nat} {e : ParseError} (h : read s d = .error e)
    (he : e.kind ≠ .unexpectedEof) (he' : e.kind ≠ .emptyQuery)
    (hu : e.problem ≠ .unterminatedString) {t : String} (ht : StartsBlank t.toList) :
    ∃ e', read (s ++ t) d = .error e' ∧ e'.kind = e.kind ∧ e'.position = e.position := by
  have hfail := read_error_iff.1 h
  have halike : ∀ x ∈ tokenize s, x.Settled →
      ReadsAlike ⟨s, s.utf8ByteSize, d⟩ ⟨s ++ t, (s ++ t).utf8ByteSize, d⟩ x :=
    fun x hx hs => readsAlike_append hx hs
  have hzs : ¬ (mkToken .eof [] [] s.utf8ByteSize).Settled := fun h => h.1 rfl
  obtain ⟨A, htok, hAe, hcase⟩ := tokenize_append_blank (s := s) ht
  have hmax : (⟨s ++ t, (s ++ t).utf8ByteSize, d⟩ : ReadContext).maxDepth =
      (⟨s, s.utf8ByteSize, d⟩ : ReadContext).maxDepth := rfl
  rcases failsTop_final hfail he he' hu hmax halike with hD | ⟨W, u, r, hT, hW, hu', rfl, hcont⟩
  · -- decided before the end: the tokens up to there are kept
    refine ⟨e, read_error_iff.2 ?_, rfl, rfl⟩
    rw [htok] at hD
    rcases hcase with ⟨-, B, htok'⟩ | ⟨A0, u, u', B, rfl, -, hu, htok', -, -⟩
    · rw [htok']
      exact hD.before hzs B
    · rw [htok']
      rw [List.append_assoc, List.singleton_append] at hD
      exact hD.before (fun h => h.2 hu) (u' :: B)
  · -- a trailing open string: the text after it runs on in it, from the same byte
    rw [htok] at hT
    have husn : ¬ u.Settled := fun h => h.2 hu'
    rcases hcase with ⟨hAu, -⟩ | ⟨A0, u0, u', B, rfl, hA0, hu0, htok', hoff, hk'⟩
    · -- without an open string among the tokens there is none to leave
      obtain ⟨R0, hR0, hr⟩ := exists_of_settled_append hT.symm hW hzs
      cases R0 with
      | nil =>
        obtain ⟨rfl, -⟩ := List.cons.inj hr
        cases hu'
      | cons a R0 =>
        obtain ⟨rfl, -⟩ := List.cons.inj hr
        exact absurd hu' (hAu u (by rw [hR0]; simp))
    · have hA0s : ∀ x ∈ A0, x.Settled := fun x hx => ⟨hAe x (by simp [hx]), hA0 x hx⟩
      rw [List.append_assoc, List.singleton_append] at hT
      obtain ⟨rfl, rfl, -⟩ := eq_of_settled_append hT.symm hW hA0s husn (fun h => h.2 hu0)
      have hu'k : u'.kind ≠ .eof ∧ u'.kind ≠ .discard := by
        rcases hk' with hk | hk <;> rw [hk] <;> simp
      refine ⟨_, read_error_iff.2 (htok' ▸ hcont u' B hu'k.1 hu'k.2), ?_, ?_⟩
      · simp [ReadContext.fail, ParseError.kind, Problem.kind]
      · have hmem : u ∈ tokenize s := by
          rw [htok]
          simp
        obtain ⟨P, Q, hPQ, hoffP⟩ := offset_of_mem_tokenize hmem (fun h => by rw [hu'] at h; cases h)
        have hle : u.offset ≤ s.utf8ByteSize := by
          rw [utf8ByteSize_eq_utf8Length, hPQ, utf8Length_append, hoffP]
          omega
        simp only [ReadContext.fail]
        rw [hoff]
        exact ofOffset_append_of_le t hle

/-- Reader failures split into those that more input can mend and those it cannot. A failure for
the end of input, or for no form at all, is mended by some text after it, and one for the end
of input is reported at the end of the text. Any other failure but an open string stays, with
its kind and at its position, whatever text follows after a blank. -/
theorem read_error_needs_input_or_final {s : String} {d : Nat} {e : ParseError}
    (h : read s d = .error e) :
    ((e.kind = .unexpectedEof ∨ e.kind = .emptyQuery) → ∃ t f, read (s ++ t) d = .ok f) ∧
    (e.kind = .unexpectedEof → e.position.offset = s.utf8ByteSize) ∧
    (e.kind ≠ .unexpectedEof → e.kind ≠ .emptyQuery → e.problem ≠ .unterminatedString →
      ∀ t : String, (∀ c ∈ t.toList.head?, Unicode.isWhiteSpace c = true) →
        ∃ e', read (s ++ t) d = .error e' ∧ e'.kind = e.kind ∧ e'.position = e.position) := by
  refine ⟨fun he => (read_error_completes h he).1, fun he => (read_error_completes h (.inl he)).2 he,
    fun he he' hu t ht => read_error_final h he he' hu fun c hc => ?_⟩
  simp [isBlank, ht c hc]

/-- An open list fails for the end of input, at the end of the text, and more text mends it. -/
theorem read_open_list_needs_input :
    ∃ e, read "(" 128 = .error e ∧ e.kind = .unexpectedEof ∧
      e.position.offset = "(".utf8ByteSize ∧ ∃ t f, read ("(" ++ t) 128 = .ok f := by
  have h : read "(" 128 = .error ⟨.unclosed .lparen ⟨0, 1, 1⟩, ⟨1, 1, 2⟩⟩ := by
    with_unfolding_all rfl
  exact ⟨_, h, rfl, (read_error_needs_input_or_final h).2.1 rfl,
    (read_error_needs_input_or_final h).1 (.inl rfl)⟩

end Xtql.Edn
