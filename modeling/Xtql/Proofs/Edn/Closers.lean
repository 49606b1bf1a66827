import Xtql.Proofs.Edn.Nesting
import Xtql.Proofs.Edn.TokenStream

/-!
Where a read fails as unbalanced: at a closer that what is open there refuses
(`read_unbalanced_at_refused_closer`).
-/

namespace Xtql.Edn

open Xtql.Text

/-! ### What stands open, with the closer each collection awaits -/

/-- What stands open at a point of a token stream: a collection with the closer it awaits, a tag
whose value is still to come, or a discard marker whose form is still to come. -/
inductive Pending where
  | collection (closer : TokenKind)
  | tag
  | discard
deriving DecidableEq

namespace Pending

/-- What stays open once a form ends: the tags whose value it was end with it, and so does the
discard marker whose form it was. -/
def close : List Pending → List Pending
  | .tag :: ps => close ps
  | .discard :: ps => ps
  | ps => ps

def after (ps : List Pending) (t : Token) : List Pending :=
  if t.kind.isOpen then .collection (t.kind.closer.getD .rparen) :: ps
  else if t.kind = .tag then .tag :: ps
  else if t.kind = .discard then .discard :: ps
  else if t.kind.isClose then close ps.tail
  else close ps

def walk (ps : List Pending) (ts : List Token) : List Pending := ts.foldl after ps

/-- What is open does not take the closer `k`: nothing is open, the innermost collection awaits
another closer, or a tag awaits its value. -/
def Refuses (ps : List Pending) (k : TokenKind) : Prop :=
  ps = [] ∨ (∃ k' rest, ps = .collection k' :: rest ∧ k' ≠ k) ∨ ∃ rest, ps = .tag :: rest

@[simp] theorem close_collection (k : TokenKind) (ps : List Pending) :
    close (.collection k :: ps) = .collection k :: ps := rfl

@[simp] theorem close_tag (ps : List Pending) : close (.tag :: ps) = close ps := rfl

@[simp] theorem close_discard (ps : List Pending) : close (.discard :: ps) = ps := rfl

@[simp] theorem close_nil : close [] = [] := rfl

@[simp] theorem walk_nil (ps : List Pending) : walk ps [] = ps := rfl

@[simp] theorem walk_cons (ps : List Pending) (t : Token) (ts : List Token) :
    walk ps (t :: ts) = walk (after ps t) ts := rfl

theorem walk_append (ps : List Pending) (p q : List Token) :
    walk ps (p ++ q) = walk (walk ps p) q := by
  simp [walk, List.foldl_append]

theorem after_open {ps : List Pending} {t : Token} (h : t.kind.isOpen = true) :
    after ps t = .collection (t.kind.closer.getD .rparen) :: ps := by
  simp [after, h]

theorem after_tag {ps : List Pending} {t : Token} (h : t.kind = .tag) : after ps t = .tag :: ps := by
  simp [after, h, TokenKind.isOpen]

theorem after_discard {ps : List Pending} {t : Token} (h : t.kind = .discard) :
    after ps t = .discard :: ps := by
  simp [after, h, TokenKind.isOpen]

theorem after_close {ps : List Pending} {t : Token} (h : t.kind.isClose = true) :
    after ps t = close ps.tail := by
  have hopen : t.kind.isOpen = false := by revert h; cases t.kind <;> decide
  have htag : t.kind ≠ .tag := by intro e; rw [e] at h; cases h
  have hdis : t.kind ≠ .discard := by intro e; rw [e] at h; cases h
  simp [after, hopen, htag, hdis, h]

theorem after_atom {cx : ReadContext} {ps : List Pending} {t : Token} {f : Form}
    (hopen : t.kind.isOpen = false) (htag : t.kind ≠ .tag) (hA : atom cx t = .ok f) :
    after ps t = close ps := by
  have hdis : t.kind ≠ .discard := by intro e; unfold atom at hA; rw [e] at hA; cases hA
  have hclose : t.kind.isClose = false := by
    revert hA; unfold atom; cases t.kind <;> simp [TokenKind.isClose]
  simp [after, hopen, htag, hdis, hclose]

end Pending

open Pending

/-! ### What a successful reading leaves open -/

variable {cx : ReadContext}

mutual

theorem ReadsForm.pending {d : Nat} {ts : List Token} {f : Form} {r : List Token}
    (h : ReadsForm cx d ts f r) (ps : List Pending) :
    ∃ p, ts = p ++ r ∧ Pending.walk ps p = Pending.close ps := by
  match ts with
  | [] => exact absurd h readsForm_nil
  | t :: rest =>
    rcases readsForm_cons_iff.1 h with ⟨hopen, -, hI⟩ | ⟨htag, -, r1, hS, -, v, hV, rfl⟩ |
      ⟨hopen, htag, hA, rfl⟩
    · obtain ⟨p, rfl, hw⟩ := hI.pending ps
      exact ⟨t :: p, rfl, by rw [walk_cons, after_open hopen, hw]⟩
    · have := hS.length_le
      obtain ⟨p1, rfl, hw1⟩ := hS.pending (.tag :: ps)
      obtain ⟨p2, rfl, hw2⟩ := hV.pending (.tag :: ps)
      simp only [List.replicate_zero, List.nil_append] at hw1
      refine ⟨t :: (p1 ++ p2), by simp, ?_⟩
      rw [walk_cons, after_tag htag, walk_append, hw1, hw2, close_tag]
    · exact ⟨[t], rfl, by rw [walk_cons, walk_nil, after_atom hopen htag hA]⟩
termination_by 3 * ts.length
decreasing_by all_goals (simp only [List.length_cons]; omega)

theorem ReadsItems.pending {opener : Token} {d : Nat} {acc : List Form} {ts : List Token}
    {f : Form} {r : List Token} (h : ReadsItems cx opener d acc ts f r) (ps : List Pending) :
    ∃ p, ts = p ++ r ∧
      Pending.walk (.collection (opener.kind.closer.getD .rparen) :: ps) p = Pending.close ps := by
  obtain ⟨t, rest, hS, hcase⟩ := readsItems_iff.1 h
  have := hS.length_le
  obtain ⟨p1, hts, hw1⟩ := hS.pending (.collection (opener.kind.closer.getD .rparen) :: ps)
  simp only [List.replicate_zero, List.nil_append] at hw1
  rcases hcase with ⟨hc, -, rfl⟩ | ⟨-, -, -, g, ts2, hF, hI⟩
  · -- the closer ends the collection
    have hcl : t.kind.isClose = true := hc ▸ Opening.isClose_closer_getD opener.kind
    refine ⟨p1 ++ [t], by simp [hts], ?_⟩
    rw [walk_append, hw1, walk_cons, walk_nil, after_close hcl]
    rfl
  · -- an item, then the rest of the collection
    have := hF.length_lt
    obtain ⟨p2, hp2, hw2⟩ := hF.pending (.collection (opener.kind.closer.getD .rparen) :: ps)
    obtain ⟨p3, rfl, hw3⟩ := hI.pending ps
    refine ⟨p1 ++ p2 ++ p3, by simp [hts, hp2], ?_⟩
    rw [walk_append, walk_append, hw1, hw2, close_collection, hw3]
termination_by 3 * ts.length + 2
decreasing_by all_goals omega

theorem Skips.pending {d p m : Nat} {ts r : List Token} (h : Skips cx d p m ts r)
    (ps : List Pending) :
    ∃ pre, ts = pre ++ r ∧ Pending.walk (List.replicate p .discard ++ ps) pre = ps := by
  match ts with
  | [] =>
    obtain ⟨rfl, rfl⟩ := skips_nil_iff.1 h
    exact ⟨[], rfl, rfl⟩
  | t :: rest =>
    rcases skips_cons_iff.1 h with ⟨hdis, hS⟩ | ⟨-, rfl, rfl⟩ | ⟨-, hp, -, -, g, r1, hF, hS⟩
    · -- one more marker: one more form pending
      obtain ⟨pre, rfl, hw⟩ := hS.pending ps
      refine ⟨t :: pre, rfl, ?_⟩
      rw [walk_cons, after_discard hdis]
      simpa [List.replicate_succ] using hw
    · exact ⟨[], rfl, rfl⟩
    · -- the form of the last marker pending, which then closes
      have := hF.length_lt
      obtain ⟨q, rfl⟩ : ∃ q, p = q + 1 := ⟨p - 1, by omega⟩
      obtain ⟨p', hp', hw'⟩ := hF.pending (List.replicate (q + 1) .discard ++ ps)
      rw [List.replicate_succ, List.cons_append, close_discard] at hw'
      rw [Nat.add_sub_cancel] at hS
      obtain ⟨pre, rfl, hw⟩ := hS.pending ps
      refine ⟨p' ++ pre, by simp [hp'], ?_⟩
      rw [walk_append, List.replicate_succ, List.cons_append, hw', hw]
termination_by 3 * ts.length + 1
decreasing_by all_goals (rw [List.length_cons] at *; omega)

end

/-! ### Where reading fails as unbalanced -/

theorem atom_unbalanced {t : Token} {e : ParseError} (h : atom cx t = .error e)
    (hk : e.kind = .unbalancedDelimiter) :
    t.kind.isClose = true ∧ e = cx.fail (.nothingToClose t.kind) t.offset := by
  -- every other failure of an atom is of another kind
  cases hkd : t.kind <;> simp only [atom, hkd] at h <;> (try split at h) <;> cases h <;>
    simp [ReadContext.fail, ParseError.kind, Problem.kind] at hk
  all_goals exact ⟨rfl, rfl⟩

theorem collection_error_eq {opener : Token} {items : List Form} {span : Span} {e : ParseError}
    (h : collection cx opener items span = .error e) : e = cx.fail .oddMap span.start := by
  unfold collection at h
  split at h <;> (try split at h) <;> cases h <;> rfl

/-- Reading fails as unbalanced at a closer that what is open refuses, after a run of tokens
walked from `ps`. -/
def UnbalancedAt (cx : ReadContext) (ps : List Pending) (ts : List Token) (e : ParseError) :
    Prop :=
  ∃ p t rest, ts = p ++ t :: rest ∧ t.kind.isClose = true ∧
    e.position = Position.ofOffset cx.input t.offset ∧ Refuses (Pending.walk ps p) t.kind

theorem UnbalancedAt.here {ps : List Pending} {t : Token} {rest : List Token} {e : ParseError}
    (hc : t.kind.isClose = true) (he : e.position = Position.ofOffset cx.input t.offset)
    (hr : Refuses ps t.kind) : UnbalancedAt cx ps (t :: rest) e :=
  ⟨[], t, rest, rfl, hc, he, hr⟩

theorem UnbalancedAt.append {ps : List Pending} {p q : List Token} {e : ParseError}
    (h : UnbalancedAt cx (Pending.walk ps p) q e) : UnbalancedAt cx ps (p ++ q) e := by
  obtain ⟨p', t, rest, rfl, hc, he, hr⟩ := h
  exact ⟨p ++ p', t, rest, by simp, hc, he, by rwa [walk_append]⟩

theorem UnbalancedAt.cons {ps : List Pending} {t : Token} {ts : List Token} {e : ParseError}
    (h : UnbalancedAt cx (Pending.after ps t) ts e) : UnbalancedAt cx ps (t :: ts) e :=
  UnbalancedAt.append (p := [t]) h

mutual

/-- A form read where `ps` is open fails as unbalanced only at a closer that what is open
refuses, provided a closer it starts with is refused. -/
theorem readForm_unbalanced {d : Nat} {ts : List Token} {e : ParseError}
    (h : readForm cx d ts = .error e) (hk : e.kind = .unbalancedDelimiter) {ps : List Pending}
    (hps : ∀ t ∈ ts.head?, t.kind.isClose = true → Refuses ps t.kind) :
    UnbalancedAt cx ps ts e := by
  match ts with
  | [] => rw [readForm_nil_error.1 h] at hk; cases hk
  | t :: rest =>
    rcases readForm_cons_error_iff.1 h with ⟨hopen, ⟨-, rfl⟩ | ⟨-, hI⟩⟩ |
      ⟨htag, ⟨-, rfl⟩ | ⟨-, hS | ⟨r1, hS, ⟨-, rfl⟩ | ⟨-, hV⟩⟩⟩⟩ | ⟨-, -, hA⟩
    · cases hk
    · refine UnbalancedAt.cons ?_
      rw [after_open hopen]
      exact readItems_unbalanced hI hk ps
    · cases hk
    · refine UnbalancedAt.cons ?_
      rw [after_tag htag]
      simpa using skipDiscarded_unbalanced hS hk (.tag :: ps)
    · cases hk
    · -- the value of the tag: a closer standing there is refused, the tag awaiting its value
      have := hS.length_le
      obtain ⟨p1, rfl, hw1⟩ := hS.pending (.tag :: ps)
      simp only [List.replicate_zero, List.nil_append] at hw1
      refine UnbalancedAt.cons ?_
      rw [after_tag htag]
      refine UnbalancedAt.append ?_
      rw [hw1]
      exact readForm_unbalanced hV hk fun _ _ _ => .inr (.inr ⟨ps, rfl⟩)
    · obtain ⟨hc, rfl⟩ := atom_unbalanced hA hk
      exact UnbalancedAt.here hc rfl (hps t rfl hc)
termination_by 3 * ts.length
decreasing_by all_goals (simp only [List.length_cons]; omega)

theorem readItems_unbalanced {opener : Token} {d : Nat} {acc : List Form} {ts : List Token}
    {e : ParseError} (h : readItems cx opener d acc ts = .error e)
    (hk : e.kind = .unbalancedDelimiter) (ps : List Pending) :
    UnbalancedAt cx (.collection (opener.kind.closer.getD .rparen) :: ps) ts e := by
  rcases readItems_error_iff.1 h with hS | ⟨-, rfl⟩ | ⟨t, rest, hS, ⟨-, hC⟩ | ⟨-, -, rfl⟩ |
      ⟨hne, -, hcl, rfl⟩ | ⟨-, -, hcl, hF | ⟨g, ts2, hF, hI⟩⟩⟩
  · simpa using skipDiscarded_unbalanced hS hk (.collection (opener.kind.closer.getD .rparen) :: ps)
  · cases hk
  · rw [collection_error_eq hC] at hk
    cases hk
  · cases hk
  all_goals
    have := hS.length_le
    obtain ⟨p1, hts, hw1⟩ := hS.pending (.collection (opener.kind.closer.getD .rparen) :: ps)
    simp only [List.replicate_zero, List.nil_append] at hw1
    rw [hts]
    refine UnbalancedAt.append ?_
    rw [hw1]
  · -- a closer the collection does not await
    exact UnbalancedAt.here hcl rfl (.inr (.inl ⟨_, ps, rfl, Ne.symm hne⟩))
  · -- an item that fails: it starts with no closer
    exact readForm_unbalanced hF hk fun u hu hc => by
      cases hu
      rw [hcl] at hc
      cases hc
  · -- an item, then the rest of the collection
    have := hF.length_lt
    obtain ⟨p2, hp2, hw2⟩ := hF.pending (.collection (opener.kind.closer.getD .rparen) :: ps)
    rw [close_collection] at hw2
    rw [hp2]
    refine UnbalancedAt.append ?_
    rw [hw2]
    exact readItems_unbalanced hI hk ps
termination_by 3 * ts.length + 2
decreasing_by all_goals omega

theorem skipDiscarded_unbalanced {d p m : Nat} {ts : List Token} {e : ParseError}
    (h : skipDiscarded cx d p m ts = .error e) (hk : e.kind = .unbalancedDelimiter)
    (ps : List Pending) : UnbalancedAt cx (List.replicate p .discard ++ ps) ts e := by
  match ts with
  | [] =>
    obtain ⟨-, rfl⟩ := skipDiscarded_nil_error.1 h
    cases hk
  | t :: rest =>
    rcases skipDiscarded_cons_error_iff.1 h with ⟨hdis, hS⟩ |
      ⟨hdis, hp, ⟨-, rfl⟩ | ⟨-, -, rfl⟩ | ⟨-, hcl, hF | ⟨g, r1, hF, hS⟩⟩⟩
    · refine UnbalancedAt.cons ?_
      rw [after_discard hdis]
      simpa [List.replicate_succ] using skipDiscarded_unbalanced hS hk ps
    · cases hk
    · cases hk
    · exact readForm_unbalanced hF hk fun u hu hc => by
        cases hu
        rw [hcl] at hc
        cases hc
    · have := hF.length_lt
      obtain ⟨q, rfl⟩ : ∃ q, p = q + 1 := ⟨p - 1, by omega⟩
      obtain ⟨p', hp', hw'⟩ := hF.pending (List.replicate (q + 1) .discard ++ ps)
      rw [List.replicate_succ, List.cons_append, close_discard] at hw'
      rw [Nat.add_sub_cancel] at hS
      rw [hp']
      refine UnbalancedAt.append ?_
      rw [List.replicate_succ, List.cons_append, hw']
      exact skipDiscarded_unbalanced hS hk ps
termination_by 3 * ts.length + 1
decreasing_by all_goals (rw [List.length_cons] at *; omega)

end

/-- A read that fails as unbalanced fails at a closer that what is open refuses, walking from
nothing open. -/
theorem FailsTop.unbalanced {ts : List Token} {e : ParseError} (h : FailsTop cx ts e)
    (hk : e.kind = .unbalancedDelimiter) : UnbalancedAt cx [] ts e := by
  rcases h with hS | ⟨r1, hS1, ⟨-, rfl⟩ | ⟨-, hF | ⟨f, r2, hF, hS | ⟨t, r3, -, -, rfl⟩⟩⟩⟩
  · simpa using skipDiscarded_unbalanced hS hk []
  · cases hk
  all_goals
    obtain ⟨p1, rfl, hw1⟩ := hS1.pending []
    simp only [List.replicate_zero, List.nil_append] at hw1
    refine UnbalancedAt.append ?_
    rw [hw1]
  · -- the form at the top: a closer there has nothing to close
    exact readForm_unbalanced hF hk fun _ _ _ => .inl rfl
  · obtain ⟨p2, rfl, hw2⟩ := hF.pending []
    refine UnbalancedAt.append ?_
    rw [hw2, close_nil]
    simpa using skipDiscarded_unbalanced hS hk []
  · cases hk

theorem UnbalancedAt.getElem {ps : List Pending} {ts : List Token} {e : ParseError}
    (h : UnbalancedAt cx ps ts e) :
    ∃ i t, ts[i]? = some t ∧ t.kind.isClose = true ∧
      e.position = Position.ofOffset cx.input t.offset ∧
      Refuses (Pending.walk ps (ts.take i)) t.kind := by
  obtain ⟨p, t, rest, rfl, hc, he, hr⟩ := h
  exact ⟨p.length, t, by simp, hc, he, by simpa using hr⟩

/-! ### Positions of tokens -/

theorem advance_zero (here : Position) (cs : List Char) : Position.advance here cs 0 = here := by
  cases cs with
  | nil => rfl
  | cons c cs => rw [Position.advance, if_neg (by have := Char.utf8Size_pos c; omega)]

theorem advance_offset (here : Position) (P Q : List Char) :
    (Position.advance here (P ++ Q) (utf8Length P)).offset = here.offset + utf8Length P := by
  induction P generalizing here with
  | nil => rw [List.nil_append, utf8Length_nil, advance_zero, Nat.add_zero]
  | cons c P ih =>
    rw [List.cons_append, Position.advance, if_pos (by rw [utf8Length_cons]; omega),
      utf8Length_cons, Nat.add_sub_cancel_left]
    dsimp only
    split
    · next hc =>
      subst hc
      rw [ih]
      have : '\n'.utf8Size = 1 := rfl
      dsimp only
      omega
    · rw [ih]
      dsimp only
      omega

theorem ofOffset_offset {s : String} {P Q : List Char} (h : s.toList = P ++ Q) :
    (Position.ofOffset s (utf8Length P)).offset = utf8Length P := by
  rw [Position.ofOffset, h, advance_offset, Nat.zero_add]

theorem offset_of_mem_tokenize {s : String} {t : Token} (ht : t ∈ tokenize s)
    (hk : t.kind ≠ .eof) : ∃ P Q, s.toList = P ++ Q ∧ t.offset = utf8Length P := by
  obtain ⟨P, c, cs, hs, rfl⟩ := scanned_of_mem_tokenize ht hk
  obtain ⟨w, -, -, hoff, -⟩ := scanToken_consumes (utf8Length P) c cs
  exact ⟨P, c :: cs, hs, hoff⟩

/-- A read that fails as unbalanced fails at a closer token that what is open there refuses:
nothing is open, the innermost collection awaits another closer, or a tag awaits its value. The
failure is reported at the byte where the closer starts. -/
theorem read_unbalanced_at_refused_closer {s : String} {d : Nat} {e : ParseError}
    (h : read s d = .error e) (hk : e.kind = .unbalancedDelimiter) :
    ∃ i t, (tokenize s)[i]? = some t ∧ t.kind.isClose = true ∧ e.position.offset = t.offset ∧
      e.position = Position.ofOffset s t.offset ∧
      Refuses (Pending.walk [] ((tokenize s).take i)) t.kind := by
  obtain ⟨i, t, hi, hc, he, hr⟩ := ((read_error_iff.1 h).unbalanced hk).getElem
  have ht : t ∈ tokenize s := List.mem_of_getElem? hi
  obtain ⟨P, Q, hs, hoff⟩ := offset_of_mem_tokenize ht (by intro h; rw [h] at hc; cases hc)
  refine ⟨i, t, hi, hc, ?_, he, hr⟩
  rw [he, hoff]
  exact ofOffset_offset hs

/-- In `[)` the closer is not the one the vector awaits. -/
theorem read_unbalanced_mismatched_closer :
    ∃ e, read "[)" 128 = .error e ∧ e.kind = .unbalancedDelimiter ∧
      ∃ i t, (tokenize "[)")[i]? = some t ∧ t.kind.isClose = true ∧ e.position.offset = t.offset ∧
        e.position = Position.ofOffset "[)" t.offset ∧
        Refuses (Pending.walk [] ((tokenize "[)").take i)) t.kind := by
  have h : read "[)" 128 = .error ⟨.mismatched .rbracket .lbracket .rparen ⟨0, 1, 1⟩, ⟨1, 1, 2⟩⟩ := by
    with_unfolding_all rfl
  exact ⟨_, h, rfl, read_unbalanced_at_refused_closer h rfl⟩

/-- A tag left without a value before the closer its list awaits: the read fails as unbalanced at
that closer, though the innermost collection open there awaits exactly it. -/
theorem read_tag_before_awaited_closer :
    ∃ e, read "(#t)" 128 = .error e ∧ e.kind = .unbalancedDelimiter ∧ e.position.offset = 3 ∧
      (tokenize "(#t)")[2]? = some ⟨.rparen, ")", 3, 4⟩ ∧
      Pending.walk [] ((tokenize "(#t)").take 2) = [.tag, .collection .rparen] :=
  ⟨⟨.nothingToClose .rparen, ⟨3, 1, 4⟩⟩, by with_unfolding_all rfl, rfl, rfl, by decide +kernel,
    by decide +kernel⟩

end Xtql.Edn
