import Mathlib.Tactic.SplitIfs
import Xtql.Proofs.Edn.ReadErrors
import Xtql.Proofs.Edn.LexPrint

/-!
The nesting limit, read off the tokens alone: every opener the reader takes stands below it, and
reading fails for depth at the first opener or tag that stands at it.
-/

namespace Xtql.Edn

open Xtql.Text

/-! ### The end token comes last -/

theorem numberKind_ne_eof (text : List Char) : numberKind text ≠ .eof := by
  simp only [numberKind]
  split_ifs <;> simp

theorem nameKind_ne_eof (text : List Char) : nameKind text ≠ .eof := by
  unfold nameKind
  split_ifs <;> simp

theorem scanPrefixed_kind_ne_eof {kind : TokenKind} (hk : kind ≠ .eof) (sigil : Char) (pos : Nat)
    (cs : List Char) : (scanPrefixed kind sigil pos cs).1.kind ≠ .eof := by
  simp only [scanPrefixed]
  split_ifs <;> simp [mkToken, hk]

theorem scanDispatch_kind_ne_eof (pos : Nat) (cs : List Char) :
    (scanDispatch pos cs).1.kind ≠ .eof := by
  unfold scanDispatch
  split
  any_goals simp [mkToken]
  · split <;> simp
  · split_ifs <;> simp

theorem scanToken_kind_ne_eof (pos : Nat) (c : Char) (cs : List Char) :
    (scanToken pos c cs).1.kind ≠ .eof := by
  unfold scanToken
  split
  any_goals simp [mkToken]
  · split_ifs <;> simp
  · exact scanDispatch_kind_ne_eof pos cs
  · exact scanPrefixed_kind_ne_eof (by decide) _ _ _
  · exact scanPrefixed_kind_ne_eof (by decide) _ _ _
  · split_ifs
    · exact numberKind_ne_eof _
    · exact nameKind_ne_eof _
    · simp

namespace Lexer

theorem step_eof {l l' : Lexer} {t : Token} (h : l.step = some (t, l')) (ht : t.kind = .eof) :
    l'.step = none := by
  simp only [step] at h
  cases hr : skipTrivia l.rest with
  | nil =>
    simp only [hr] at h
    by_cases hf : l.finished = true
    · simp [hf] at h
    · simp only [hf, Bool.false_eq_true, if_false, Option.some.injEq, Prod.mk.injEq] at h
      obtain ⟨-, rfl⟩ := h
      simp [step, skipTrivia]
  | cons c cs =>
    simp only [hr, Option.some.injEq, Prod.mk.injEq] at h
    obtain ⟨rfl, -⟩ := h
    exact absurd ht (scanToken_kind_ne_eof _ _ _)

theorem tokens_of_step_none {l : Lexer} (h : l.step = none) : l.tokens = [] := by
  rw [tokens, tokensFrom]
  split <;> simp_all

theorem eq_nil_of_eof {t : Token} {rest : List Token} (ht : t.kind = .eof) :
    ∀ (p : List Token) (l : Lexer), l.tokens = p ++ t :: rest → rest = []
  | p, l, h => by
    cases hs : l.step with
    | none => rw [tokens_of_step_none hs] at h; simp at h
    | some q =>
      obtain ⟨u, l'⟩ := q
      rw [tokens_of_step hs] at h
      cases p with
      | nil =>
        simp only [List.nil_append, List.cons.injEq] at h
        obtain ⟨rfl, hrest⟩ := h
        rw [← hrest, tokens_of_step_none (step_eof hs ht)]
      | cons v p =>
        simp only [List.cons_append, List.cons.injEq] at h
        exact eq_nil_of_eof ht p l' h.2
termination_by p => p.length
decreasing_by subst_vars; simp only [List.length_cons]; omega

end Lexer

theorem tokenize_eof_last {s : String} {p rest : List Token} {t : Token}
    (h : tokenize s = p ++ t :: rest) (ht : t.kind = .eof) : rest = [] :=
  Lexer.eq_nil_of_eof ht p _ (by rw [← tokenize_eq_tokens]; exact h)

/-! ### Levels of a token stream -/

/-- What stands open at a point of a token stream: a collection, a tag whose value is still to
come, or a discard marker whose form is still to come. -/
inductive Opening where
  | collection
  | tag
  | discard
deriving DecidableEq

namespace Opening

def level (os : List Opening) : Nat := os.countP (· != .discard)

/-- What stays open once a form ends: the tags whose value it was end with it, and so does the
discard marker whose form it was. -/
def close : List Opening → List Opening
  | .tag :: os => close os
  | .discard :: os => os
  | os => os

def after (os : List Opening) (t : Token) : List Opening :=
  if t.kind.isOpen then .collection :: os
  else if t.kind = .tag then .tag :: os
  else if t.kind = .discard then .discard :: os
  else if t.kind.isClose then close os.tail
  else close os

def walk (os : List Opening) (ts : List Token) : List Opening := ts.foldl after os

/-- Every opener and tag of the tokens stands below level `d`, from `os` on. -/
def Below (d : Nat) : List Opening → List Token → Prop
  | _, [] => True
  | os, t :: ts => ((t.kind.isOpen = true ∨ t.kind = .tag) → level os < d) ∧ Below d (after os t) ts

@[simp] theorem level_nil : level [] = 0 := rfl

@[simp] theorem level_collection (os : List Opening) : level (.collection :: os) = level os + 1 := by
  simp [level]

@[simp] theorem level_tag (os : List Opening) : level (.tag :: os) = level os + 1 := by
  simp [level]

@[simp] theorem level_discard (os : List Opening) : level (.discard :: os) = level os := by
  simp [level]

@[simp] theorem level_replicate_discard (p : Nat) (os : List Opening) :
    level (List.replicate p .discard ++ os) = level os := by
  induction p with
  | zero => rfl
  | succ p ih => rw [List.replicate_succ, List.cons_append, level_discard, ih]

@[simp] theorem close_collection (os : List Opening) : close (.collection :: os) = .collection :: os :=
  rfl

@[simp] theorem close_tag (os : List Opening) : close (.tag :: os) = close os := rfl

@[simp] theorem close_discard (os : List Opening) : close (.discard :: os) = os := rfl

@[simp] theorem close_nil : close [] = [] := rfl

theorem after_open {os : List Opening} {t : Token} (h : t.kind.isOpen = true) :
    after os t = .collection :: os := by
  simp [after, h]

theorem after_tag {os : List Opening} {t : Token} (h : t.kind = .tag) : after os t = .tag :: os := by
  simp [after, h, TokenKind.isOpen]

theorem after_discard {os : List Opening} {t : Token} (h : t.kind = .discard) :
    after os t = .discard :: os := by
  simp [after, h, TokenKind.isOpen]

theorem not_opens_of_isClose {k : TokenKind} (h : k.isClose = true) :
    ¬ (k.isOpen = true ∨ k = .tag) := by
  cases k <;> simp_all [TokenKind.isClose, TokenKind.isOpen]

theorem isClose_closer_getD (k : TokenKind) : (k.closer.getD .rparen).isClose = true := by
  cases k <;> rfl

theorem after_close {os : List Opening} {t : Token} (h : t.kind.isClose = true) :
    after os t = close os.tail := by
  have hopen : t.kind.isOpen = false := by revert h; cases t.kind <;> decide
  have htag : t.kind ≠ .tag := by intro e; rw [e] at h; cases h
  have hdis : t.kind ≠ .discard := by intro e; rw [e] at h; cases h
  simp [after, hopen, htag, hdis, h]

theorem after_atom {cx : ReadContext} {os : List Opening} {t : Token} {f : Form}
    (hopen : t.kind.isOpen = false) (htag : t.kind ≠ .tag) (hA : atom cx t = .ok f) :
    after os t = close os := by
  have hdis : t.kind ≠ .discard := by intro e; unfold atom at hA; rw [e] at hA; cases hA
  have hclose : t.kind.isClose = false := by
    revert hA; unfold atom; cases t.kind <;> simp [TokenKind.isClose]
  simp [after, hopen, htag, hdis, hclose]

@[simp] theorem walk_nil (os : List Opening) : walk os [] = os := rfl

@[simp] theorem walk_cons (os : List Opening) (t : Token) (ts : List Token) :
    walk os (t :: ts) = walk (after os t) ts := rfl

theorem walk_append (os : List Opening) (p q : List Token) :
    walk os (p ++ q) = walk (walk os p) q := List.foldl_append

@[simp] theorem below_nil (d : Nat) (os : List Opening) : Below d os [] := trivial

theorem below_cons {d : Nat} {os : List Opening} {t : Token} {ts : List Token} :
    Below d os (t :: ts) ↔
      ((t.kind.isOpen = true ∨ t.kind = .tag) → level os < d) ∧ Below d (after os t) ts :=
  Iff.rfl

theorem below_append {d : Nat} {os : List Opening} {p q : List Token} :
    Below d os (p ++ q) ↔ Below d os p ∧ Below d (walk os p) q := by
  induction p generalizing os with
  | nil => simp
  | cons t p ih => simp only [List.cons_append, below_cons, ih, walk_cons, and_assoc]

theorem below_iff_getElem {d : Nat} {os : List Opening} {ts : List Token} :
    Below d os ts ↔ ∀ i t, ts[i]? = some t → (t.kind.isOpen = true ∨ t.kind = .tag) →
      level (walk os (ts.take i)) < d := by
  induction ts generalizing os with
  | nil => simp
  | cons u ts ih =>
    rw [below_cons, ih]
    constructor
    · rintro ⟨hu, hts⟩ i t hi hk
      cases i with
      | zero =>
        simp only [List.getElem?_cons_zero, Option.some.injEq] at hi
        subst hi
        exact hu hk
      | succ i => exact hts i t (by simpa using hi) hk
    · intro h
      exact ⟨fun hk => h 0 u rfl hk, fun i t hi hk => h (i + 1) t (by simpa using hi) hk⟩

end Opening

open Opening

variable {cx : ReadContext}

/-! ### What a successful reading takes -/

mutual

/-- A form read at the level of `os` takes a run of tokens whose openers and tags stand below the
limit, and closes what its end closes. -/
theorem ReadsForm.below {d : Nat} {ts : List Token} {f : Form} {r : List Token}
    (h : ReadsForm cx d ts f r) {os : List Opening} (hos : level os = d) :
    ∃ p, ts = p ++ r ∧ Below cx.maxDepth os p ∧ walk os p = close os := by
  match ts with
  | [] => exact absurd h readsForm_nil
  | t :: rest =>
    rcases readsForm_cons_iff.1 h with ⟨hopen, hd, hI⟩ |
      ⟨htag, hd, r1, hS, heof, v, hV, rfl⟩ | ⟨hopen, htag, hA, rfl⟩
    · obtain ⟨p, rfl, hb, hw⟩ := hI.below hos
      refine ⟨t :: p, rfl, below_cons.2 ⟨fun _ => hos ▸ hd, ?_⟩, ?_⟩
      · rwa [after_open hopen]
      · rw [walk_cons, after_open hopen, hw]
    · have := hS.length_le
      have hlev : level (.tag :: os) = d + 1 := by simp [hos]
      obtain ⟨p1, rfl, hb1, hw1⟩ := hS.below hlev
      obtain ⟨p2, rfl, hb2, hw2⟩ := hV.below hlev
      simp only [List.replicate_zero, List.nil_append] at hb1 hw1
      refine ⟨t :: (p1 ++ p2), by simp, below_cons.2 ⟨fun _ => hos ▸ hd, ?_⟩, ?_⟩
      · rw [after_tag htag, below_append, hw1]
        exact ⟨hb1, hb2⟩
      · rw [walk_cons, after_tag htag, walk_append, hw1, hw2, close_tag]
    · refine ⟨[t], rfl, below_cons.2 ⟨?_, trivial⟩, ?_⟩
      · rintro (h | h)
        · rw [hopen] at h; cases h
        · exact absurd h htag
      · rw [walk_cons, walk_nil, after_atom hopen htag hA]
termination_by 3 * ts.length
decreasing_by all_goals (simp only [List.length_cons]; omega)

theorem ReadsItems.below {opener : Token} {d : Nat} {acc : List Form} {ts : List Token} {f : Form}
    {r : List Token} (h : ReadsItems cx opener d acc ts f r) {os : List Opening}
    (hos : level os = d) :
    ∃ p, ts = p ++ r ∧ Below cx.maxDepth (.collection :: os) p ∧
      walk (.collection :: os) p = close os := by
  obtain ⟨t, rest, hS, hcase⟩ := readsItems_iff.1 h
  have := hS.length_le
  have hlev : level (.collection :: os) = d + 1 := by simp [hos]
  obtain ⟨p1, hts, hb1, hw1⟩ := hS.below hlev
  simp only [List.replicate_zero, List.nil_append] at hb1 hw1
  rcases hcase with ⟨hc, -, rfl⟩ | ⟨hc, heof, hclose, g, ts2, hF, hI⟩
  · -- the closer ends the collection
    have hcl : t.kind.isClose = true := hc ▸ isClose_closer_getD opener.kind
    refine ⟨p1 ++ [t], by simp [hts], ?_, ?_⟩
    · rw [below_append, hw1]
      exact ⟨hb1, below_cons.2 ⟨fun hk => absurd hk (not_opens_of_isClose hcl), trivial⟩⟩
    · rw [walk_append, hw1, walk_cons, walk_nil, after_close hcl]
      rfl
  · -- an item, then the rest of the collection
    have := hF.length_lt
    obtain ⟨p2, hp2, hb2, hw2⟩ := hF.below hlev
    rw [close_collection] at hw2
    obtain ⟨p3, rfl, hb3, hw3⟩ := hI.below hos
    refine ⟨p1 ++ p2 ++ p3, by simp [hts, hp2], ?_, ?_⟩
    · rw [below_append, below_append, walk_append, hw1, hw2]
      exact ⟨⟨hb1, hb2⟩, hb3⟩
    · rw [walk_append, walk_append, hw1, hw2, hw3]
termination_by 3 * ts.length + 2
decreasing_by all_goals omega

theorem Skips.below {d p m : Nat} {ts r : List Token} (h : Skips cx d p m ts r)
    {os : List Opening} (hos : level os = d) :
    ∃ pre, ts = pre ++ r ∧ Below cx.maxDepth (List.replicate p .discard ++ os) pre ∧
      walk (List.replicate p .discard ++ os) pre = os := by
  match ts with
  | [] =>
    obtain ⟨rfl, rfl⟩ := skips_nil_iff.1 h
    exact ⟨[], rfl, trivial, rfl⟩
  | t :: rest =>
    rcases skips_cons_iff.1 h with ⟨hdis, hS⟩ | ⟨hdis, rfl, rfl⟩ |
      ⟨hdis, hp, heof, hclose, g, r1, hF, hS⟩
    · -- one more marker: one more form pending
      obtain ⟨pre, rfl, hb, hw⟩ := hS.below hos
      refine ⟨t :: pre, rfl, below_cons.2 ⟨?_, ?_⟩, ?_⟩
      · rintro (h | h)
        · rw [hdis] at h; cases h
        · rw [hdis] at h; cases h
      · rw [after_discard hdis]
        simpa [List.replicate_succ] using hb
      · rw [walk_cons, after_discard hdis]
        simpa [List.replicate_succ] using hw
    · exact ⟨[], rfl, trivial, rfl⟩
    · -- the form of the last marker pending, which then closes
      have := hF.length_lt
      obtain ⟨q, rfl⟩ : ∃ q, p = q + 1 := ⟨p - 1, by omega⟩
      have hlev : level (List.replicate (q + 1) .discard ++ os) = d := by simp [hos]
      obtain ⟨p', hp', hb', hw'⟩ := hF.below hlev
      have hcl : close (List.replicate (q + 1) .discard ++ os) = List.replicate q .discard ++ os := by
        rw [List.replicate_succ, List.cons_append, close_discard]
      rw [hcl] at hw'
      rw [Nat.add_sub_cancel] at hS
      obtain ⟨pre, rfl, hb, hw⟩ := hS.below hos
      refine ⟨p' ++ pre, by simp [hp'], ?_, ?_⟩
      · rw [below_append, hw']
        exact ⟨hb', hb⟩
      · rw [walk_append, hw', hw]
termination_by 3 * ts.length + 1
decreasing_by all_goals (rw [List.length_cons] at *; omega)

end

/-! ### Where reading fails for depth -/

theorem atom_error_kind {t : Token} {e : ParseError} (h : atom cx t = .error e) :
    e.kind ≠ .nestingTooDeep := by
  intro hk
  cases hkd : t.kind <;> simp only [atom, hkd] at h <;> (try split at h) <;> cases h <;>
    simp [ReadContext.fail, ParseError.kind, Problem.kind] at hk

theorem collection_error_kind {opener : Token} {items : List Form} {span : Span} {e : ParseError}
    (h : collection cx opener items span = .error e) : e.kind ≠ .nestingTooDeep := by
  intro hk
  unfold collection at h
  split at h <;> (try split at h) <;> cases h <;>
    simp [ReadContext.fail, ParseError.kind, Problem.kind] at hk

/-- Reading fails for depth at an opener or tag that stands at the limit, after a run of tokens
whose openers and tags all stand below it, the walk starting from `os`. -/
def StopsAtLimit (cx : ReadContext) (os : List Opening) (ts : List Token) (e : ParseError) :
    Prop :=
  ∃ p t rest, ts = p ++ t :: rest ∧ (t.kind.isOpen = true ∨ t.kind = .tag) ∧
    e = cx.fail (.tooDeep cx.maxDepth) t.offset ∧ Below cx.maxDepth os p ∧
    level (walk os p) = cx.maxDepth

theorem StopsAtLimit.append {os : List Opening} {p q : List Token} {e : ParseError}
    (hb : Below cx.maxDepth os p) (h : StopsAtLimit cx (walk os p) q e) :
    StopsAtLimit cx os (p ++ q) e := by
  obtain ⟨p', t, rest, rfl, hk, he, hb', hl⟩ := h
  exact ⟨p ++ p', t, rest, by simp, hk, he, below_append.2 ⟨hb, hb'⟩, by rw [walk_append, hl]⟩

theorem StopsAtLimit.cons {os : List Opening} {t : Token} {ts : List Token} {e : ParseError}
    (ht : (t.kind.isOpen = true ∨ t.kind = .tag) → level os < cx.maxDepth)
    (h : StopsAtLimit cx (after os t) ts e) : StopsAtLimit cx os (t :: ts) e :=
  StopsAtLimit.append (p := [t]) (below_cons.2 ⟨ht, trivial⟩) h

mutual

/-- A form read at the level of `os`, at a depth within the limit, fails for depth only at an
opener or tag standing at the limit. -/
theorem readForm_stopsAtLimit {d : Nat} {ts : List Token} {e : ParseError}
    (h : readForm cx d ts = .error e) (hk : e.kind = .nestingTooDeep) (hd : d ≤ cx.maxDepth)
    {os : List Opening} (hos : level os = d) : StopsAtLimit cx os ts e := by
  match ts with
  | [] => rw [readForm_nil_error.1 h] at hk; cases hk
  | t :: rest =>
    rcases readForm_cons_error_iff.1 h with ⟨hopen, ⟨hmax, rfl⟩ | ⟨hlt, hI⟩⟩ |
      ⟨htag, ⟨hmax, rfl⟩ | ⟨hlt, hS | ⟨r1, hS, ⟨heof, rfl⟩ | ⟨heof, hV⟩⟩⟩⟩ |
      ⟨hopen, htag, hA⟩
    · exact ⟨[], t, rest, rfl, .inl hopen, rfl, trivial, by simp only [walk_nil]; omega⟩
    · refine StopsAtLimit.cons (fun _ => hos ▸ hlt) ?_
      rw [after_open hopen]
      exact readItems_stopsAtLimit hI hk hlt hos
    · exact ⟨[], t, rest, rfl, .inr htag, rfl, trivial, by simp only [walk_nil]; omega⟩
    · refine StopsAtLimit.cons (fun _ => hos ▸ hlt) ?_
      rw [after_tag htag]
      have hlev : level (.tag :: os) = d + 1 := by simp [hos]
      simpa using skipDiscarded_stopsAtLimit hS hk (by omega) hlev
    · cases hk
    · have := hS.length_le
      have hlev : level (.tag :: os) = d + 1 := by simp [hos]
      obtain ⟨p1, rfl, hb1, hw1⟩ := hS.below hlev
      simp only [List.replicate_zero, List.nil_append] at hb1 hw1
      refine StopsAtLimit.cons (fun _ => hos ▸ hlt) ?_
      rw [after_tag htag]
      refine StopsAtLimit.append hb1 ?_
      rw [hw1]
      exact readForm_stopsAtLimit hV hk (by omega) (by simp [hos])
    · exact absurd hk (atom_error_kind hA)
termination_by 3 * ts.length
decreasing_by all_goals (simp only [List.length_cons]; omega)

theorem readItems_stopsAtLimit {opener : Token} {d : Nat} {acc : List Form} {ts : List Token}
    {e : ParseError} (h : readItems cx opener d acc ts = .error e)
    (hk : e.kind = .nestingTooDeep) (hd : d < cx.maxDepth) {os : List Opening}
    (hos : level os = d) : StopsAtLimit cx (.collection :: os) ts e := by
  have hlev : level (.collection :: os) = d + 1 := by simp [hos]
  rcases readItems_error_iff.1 h with hS | ⟨-, rfl⟩ | ⟨t, rest, hS, ⟨-, hC⟩ | ⟨-, -, rfl⟩ |
      ⟨-, -, -, rfl⟩ | ⟨-, -, -, hF | ⟨g, ts2, hF, hI⟩⟩⟩
  · simpa using skipDiscarded_stopsAtLimit hS hk (by omega) hlev
  · cases hk
  · exact absurd hk (collection_error_kind hC)
  · cases hk
  · cases hk
  · have := hS.length_le
    obtain ⟨p1, hts, hb1, hw1⟩ := hS.below hlev
    simp only [List.replicate_zero, List.nil_append] at hb1 hw1
    rw [hts]
    refine StopsAtLimit.append hb1 ?_
    rw [hw1]
    exact readForm_stopsAtLimit hF hk (by omega) hlev
  · have := hS.length_le
    have := hF.length_lt
    obtain ⟨p1, hts, hb1, hw1⟩ := hS.below hlev
    simp only [List.replicate_zero, List.nil_append] at hb1 hw1
    obtain ⟨p2, hp2, hb2, hw2⟩ := hF.below hlev
    rw [close_collection] at hw2
    rw [hts, hp2, ← List.append_assoc]
    refine StopsAtLimit.append (below_append.2 ⟨hb1, by rw [hw1]; exact hb2⟩) ?_
    rw [walk_append, hw1, hw2]
    exact readItems_stopsAtLimit hI hk hd hos
termination_by 3 * ts.length + 2
decreasing_by all_goals omega

theorem skipDiscarded_stopsAtLimit {d p m : Nat} {ts : List Token} {e : ParseError}
    (h : skipDiscarded cx d p m ts = .error e) (hk : e.kind = .nestingTooDeep)
    (hd : d ≤ cx.maxDepth) {os : List Opening} (hos : level os = d) :
    StopsAtLimit cx (List.replicate p .discard ++ os) ts e := by
  match ts with
  | [] =>
    obtain ⟨-, rfl⟩ := skipDiscarded_nil_error.1 h
    cases hk
  | t :: rest =>
    rcases skipDiscarded_cons_error_iff.1 h with ⟨hdis, hS⟩ |
      ⟨hdis, hp, ⟨-, rfl⟩ | ⟨-, -, rfl⟩ | ⟨-, -, hF | ⟨g, r1, hF, hS⟩⟩⟩
    · refine StopsAtLimit.cons (fun hk' => ?_) ?_
      · rcases hk' with h' | h' <;> rw [hdis] at h' <;> cases h'
      · rw [after_discard hdis]
        simpa [List.replicate_succ] using skipDiscarded_stopsAtLimit hS hk hd hos
    · cases hk
    · cases hk
    · exact readForm_stopsAtLimit hF hk hd (by simp [hos])
    · have := hF.length_lt
      obtain ⟨q, rfl⟩ : ∃ q, p = q + 1 := ⟨p - 1, by omega⟩
      have hlev : level (List.replicate (q + 1) .discard ++ os) = d := by simp [hos]
      obtain ⟨p', hp', hb', hw'⟩ := hF.below hlev
      have hcl : close (List.replicate (q + 1) .discard ++ os) =
          List.replicate q .discard ++ os := by
        rw [List.replicate_succ, List.cons_append, close_discard]
      rw [hcl] at hw'
      rw [Nat.add_sub_cancel] at hS
      rw [hp']
      refine StopsAtLimit.append hb' ?_
      rw [hw']
      exact skipDiscarded_stopsAtLimit hS hk hd hos
termination_by 3 * ts.length + 1
decreasing_by all_goals (rw [List.length_cons] at *; omega)

end

theorem StopsAtLimit.getElem {os : List Opening} {ts : List Token} {e : ParseError}
    (h : StopsAtLimit cx os ts e) :
    ∃ i t, ts[i]? = some t ∧ (t.kind.isOpen = true ∨ t.kind = .tag) ∧
      e = cx.fail (.tooDeep cx.maxDepth) t.offset ∧ level (walk os (ts.take i)) = cx.maxDepth ∧
      ∀ j u, j < i → ts[j]? = some u → (u.kind.isOpen = true ∨ u.kind = .tag) →
        level (walk os (ts.take j)) < cx.maxDepth := by
  obtain ⟨p, t, rest, rfl, hk, he, hb, hl⟩ := h
  refine ⟨p.length, t, by simp, hk, he, by simpa using hl, fun j u hj hu hku => ?_⟩
  have hpj : (p ++ t :: rest)[j]? = p[j]? := List.getElem?_append_left hj
  rw [List.take_append_of_le_length (Nat.le_of_lt hj)]
  exact below_iff_getElem.1 hb j u (hpj ▸ hu) hku

/-! ### A whole read -/

theorem ReadsTop.below {ts : List Token} {f : Form} (h : ReadsTop cx ts f)
    (hend : ∀ p t rest, ts = p ++ t :: rest → t.kind = .eof → rest = []) :
    Below cx.maxDepth [] ts := by
  obtain ⟨r1, hS1, -, r2, hF, r3, hS3, hpk3⟩ := h
  obtain ⟨p1, rfl, hb1, hw1⟩ := hS1.below level_nil
  obtain ⟨p2, rfl, hb2, hw2⟩ := hF.below level_nil
  obtain ⟨p3, rfl, hb3, hw3⟩ := hS3.below level_nil
  simp only [List.replicate_zero, List.nil_append] at hb1 hw1 hb3 hw3
  -- what follows the form and the discards after it is at most the end token
  have htail : Below cx.maxDepth [] r3 := by
    cases r3 with
    | nil => trivial
    | cons u rest =>
      have hu : u.kind = .eof := hpk3
      rw [hend (p1 ++ p2 ++ p3) u rest (by simp) hu]
      exact below_cons.2 ⟨(fun hk => by rcases hk with h | h <;> rw [hu] at h <;> cases h), trivial⟩
  refine below_append.2 ⟨hb1, ?_⟩
  rw [hw1]
  refine below_append.2 ⟨hb2, ?_⟩
  rw [hw2, close_nil]
  refine below_append.2 ⟨hb3, ?_⟩
  rw [hw3]
  exact htail

theorem FailsTop.stopsAtLimit {ts : List Token} {e : ParseError} (h : FailsTop cx ts e)
    (hk : e.kind = .nestingTooDeep) : StopsAtLimit cx [] ts e := by
  rcases h with hS | ⟨r1, hS1, ⟨-, rfl⟩ | ⟨-, hF | ⟨f, r2, hF, hS | ⟨t, r3, -, -, rfl⟩⟩⟩⟩
  · simpa using skipDiscarded_stopsAtLimit hS hk (Nat.zero_le _) level_nil
  · cases hk
  · obtain ⟨p1, rfl, hb1, hw1⟩ := hS1.below level_nil
    simp only [List.replicate_zero, List.nil_append] at hb1 hw1
    refine StopsAtLimit.append hb1 ?_
    rw [hw1]
    exact readForm_stopsAtLimit hF hk (Nat.zero_le _) rfl
  · obtain ⟨p1, rfl, hb1, hw1⟩ := hS1.below level_nil
    simp only [List.replicate_zero, List.nil_append] at hb1 hw1
    obtain ⟨p2, rfl, hb2, hw2⟩ := hF.below level_nil
    refine StopsAtLimit.append hb1 ?_
    rw [hw1]
    refine StopsAtLimit.append hb2 ?_
    rw [hw2, close_nil]
    simpa using skipDiscarded_stopsAtLimit hS hk (Nat.zero_le _) level_nil
  · cases hk

def levelAt (ts : List Token) (i : Nat) : Nat := level (walk [] (ts.take i))

/-- A text that reads has every opener and tag below the limit. -/
theorem read_below {s : String} {d : Nat} {f : Form} (h : read s d = .ok f) :
    ∀ i t, (tokenize s)[i]? = some t → (t.kind.isOpen = true ∨ t.kind = .tag) →
      levelAt (tokenize s) i < d :=
  below_iff_getElem.1 ((read_ok_iff.1 h).below fun _ _ _ hts ht => tokenize_eof_last hts ht)

/-- A text that fails to read for depth fails at an opener or tag standing at the limit, every
opener and tag before it standing below. -/
theorem read_stopsAtLimit {s : String} {d : Nat} {e : ParseError} (h : read s d = .error e)
    (hk : e.kind = .nestingTooDeep) :
    ∃ i t, (tokenize s)[i]? = some t ∧ (t.kind.isOpen = true ∨ t.kind = .tag) ∧
      e = ⟨.tooDeep d, Position.ofOffset s t.offset⟩ ∧ levelAt (tokenize s) i = d ∧
      ∀ j u, j < i → (tokenize s)[j]? = some u → (u.kind.isOpen = true ∨ u.kind = .tag) →
        levelAt (tokenize s) j < d :=
  ((read_error_iff.1 h).stopsAtLimit hk).getElem

/-! ### A larger limit -/

section Raise

variable {d' : Nat}

mutual

theorem ReadsForm.raise {d : Nat} {ts : List Token} {f : Form} {r : List Token}
    (h : ReadsForm cx d ts f r) (hle : cx.maxDepth ≤ d') :
    ReadsForm { cx with maxDepth := d' } d ts f r := by
  match ts with
  | [] => exact absurd h readsForm_nil
  | t :: rest =>
    rcases readsForm_cons_iff.1 h with ⟨hopen, hd, hI⟩ | ⟨htag, hd, r1, hS, hpk, v, hV, rfl⟩ |
      ⟨hopen, htag, hA, rfl⟩
    · exact readsForm_cons_iff.2 (.inl ⟨hopen, Nat.lt_of_lt_of_le hd hle, hI.raise hle⟩)
    · have := hS.length_le
      exact readsForm_cons_iff.2 (.inr (.inl ⟨htag, Nat.lt_of_lt_of_le hd hle, r1, hS.raise hle,
        hpk, v, hV.raise hle, rfl⟩))
    · exact readsForm_cons_iff.2 (.inr (.inr ⟨hopen, htag, hA, rfl⟩))
termination_by 3 * ts.length
decreasing_by all_goals (simp only [List.length_cons]; omega)

theorem ReadsItems.raise {opener : Token} {d : Nat} {acc : List Form} {ts : List Token}
    {f : Form} {r : List Token} (h : ReadsItems cx opener d acc ts f r)
    (hle : cx.maxDepth ≤ d') : ReadsItems { cx with maxDepth := d' } opener d acc ts f r := by
  obtain ⟨t, rest, hS, ⟨hc, hC, hr⟩ | ⟨hc, heof, hcl, g, ts2, hF, hI⟩⟩ := readsItems_iff.1 h
  · exact readsItems_iff.2 ⟨t, rest, hS.raise hle, .inl ⟨hc, hC, hr⟩⟩
  · have := hS.length_le
    have := hF.length_lt
    exact readsItems_iff.2 ⟨t, rest, hS.raise hle,
      .inr ⟨hc, heof, hcl, g, ts2, hF.raise hle, hI.raise hle⟩⟩
termination_by 3 * ts.length + 2
decreasing_by all_goals omega

theorem Skips.raise {d p m : Nat} {ts r : List Token} (h : Skips cx d p m ts r)
    (hle : cx.maxDepth ≤ d') : Skips { cx with maxDepth := d' } d p m ts r := by
  match ts with
  | [] => exact skips_nil_iff.2 (skips_nil_iff.1 h)
  | t :: rest =>
    rcases skips_cons_iff.1 h with ⟨hdis, hS⟩ | ⟨hdis, hp, rfl⟩ |
      ⟨hdis, hp, heof, hcl, g, r1, hF, hS⟩
    · exact skips_cons_iff.2 (.inl ⟨hdis, hS.raise hle⟩)
    · exact skips_cons_iff.2 (.inr (.inl ⟨hdis, hp, rfl⟩))
    · have := hF.length_lt
      exact skips_cons_iff.2 (.inr (.inr ⟨hdis, hp, heof, hcl, g, r1, hF.raise hle, hS.raise hle⟩))
termination_by 3 * ts.length + 1
decreasing_by all_goals (rw [List.length_cons] at *; omega)

end

mutual

theorem readForm_error_raise {d : Nat} {ts : List Token} {e : ParseError}
    (h : readForm cx d ts = .error e) (hk : e.kind ≠ .nestingTooDeep) (hle : cx.maxDepth ≤ d') :
    readForm { cx with maxDepth := d' } d ts = .error e := by
  match ts with
  | [] =>
    have he := readForm_nil_error.1 h
    exact readForm_nil_error.2 he
  | t :: rest =>
    rcases readForm_cons_error_iff.1 h with ⟨hopen, ⟨-, rfl⟩ | ⟨hlt, hI⟩⟩ |
      ⟨htag, ⟨-, rfl⟩ | ⟨hlt, hS | ⟨r1, hS, ⟨heof, rfl⟩ | ⟨heof, hV⟩⟩⟩⟩ | ⟨hopen, htag, hA⟩
    · exact absurd rfl hk
    · exact readForm_cons_error_iff.2
        (.inl ⟨hopen, .inr ⟨Nat.lt_of_lt_of_le hlt hle, readItems_error_raise hI hk hle⟩⟩)
    · exact absurd rfl hk
    · exact readForm_cons_error_iff.2 (.inr (.inl ⟨htag,
        .inr ⟨Nat.lt_of_lt_of_le hlt hle, .inl (skipDiscarded_error_raise hS hk hle)⟩⟩))
    · exact readForm_cons_error_iff.2 (.inr (.inl ⟨htag,
        .inr ⟨Nat.lt_of_lt_of_le hlt hle, .inr ⟨r1, hS.raise hle, .inl ⟨heof, rfl⟩⟩⟩⟩))
    · have := hS.length_le
      exact readForm_cons_error_iff.2 (.inr (.inl ⟨htag, .inr ⟨Nat.lt_of_lt_of_le hlt hle,
        .inr ⟨r1, hS.raise hle, .inr ⟨heof, readForm_error_raise hV hk hle⟩⟩⟩⟩))
    · exact readForm_cons_error_iff.2 (.inr (.inr ⟨hopen, htag, hA⟩))
termination_by 3 * ts.length
decreasing_by all_goals (simp only [List.length_cons]; omega)

theorem readItems_error_raise {opener : Token} {d : Nat} {acc : List Form} {ts : List Token}
    {e : ParseError} (h : readItems cx opener d acc ts = .error e)
    (hk : e.kind ≠ .nestingTooDeep) (hle : cx.maxDepth ≤ d') :
    readItems { cx with maxDepth := d' } opener d acc ts = .error e := by
  rcases readItems_error_iff.1 h with hS | ⟨hS, rfl⟩ | ⟨t, rest, hS, ⟨hc, hC⟩ |
      ⟨hc, heof, rfl⟩ | ⟨hc, heof, hcl, rfl⟩ | ⟨hc, heof, hcl, hF | ⟨g, ts2, hF, hI⟩⟩⟩
  · exact readItems_error_iff.2 (.inl (skipDiscarded_error_raise hS hk hle))
  · exact readItems_error_iff.2 (.inr (.inl ⟨hS.raise hle, rfl⟩))
  · exact readItems_error_iff.2 (.inr (.inr ⟨t, rest, hS.raise hle, .inl ⟨hc, hC⟩⟩))
  · exact readItems_error_iff.2 (.inr (.inr ⟨t, rest, hS.raise hle, .inr (.inl ⟨hc, heof, rfl⟩)⟩))
  · exact readItems_error_iff.2
      (.inr (.inr ⟨t, rest, hS.raise hle, .inr (.inr (.inl ⟨hc, heof, hcl, rfl⟩))⟩))
  · have := hS.length_le
    exact readItems_error_iff.2 (.inr (.inr ⟨t, rest, hS.raise hle,
      .inr (.inr (.inr ⟨hc, heof, hcl, .inl (readForm_error_raise hF hk hle)⟩))⟩))
  · have := hS.length_le
    have := hF.length_lt
    exact readItems_error_iff.2 (.inr (.inr ⟨t, rest, hS.raise hle,
      .inr (.inr (.inr ⟨hc, heof, hcl, .inr ⟨g, ts2, hF.raise hle,
        readItems_error_raise hI hk hle⟩⟩))⟩))
termination_by 3 * ts.length + 2
decreasing_by all_goals omega

theorem skipDiscarded_error_raise {d p m : Nat} {ts : List Token} {e : ParseError}
    (h : skipDiscarded cx d p m ts = .error e) (hk : e.kind ≠ .nestingTooDeep)
    (hle : cx.maxDepth ≤ d') : skipDiscarded { cx with maxDepth := d' } d p m ts = .error e := by
  match ts with
  | [] =>
    have he := skipDiscarded_nil_error.1 h
    exact skipDiscarded_nil_error.2 he
  | t :: rest =>
    rcases skipDiscarded_cons_error_iff.1 h with ⟨hdis, hS⟩ | ⟨hdis, hp, hrest⟩
    · exact skipDiscarded_cons_error_iff.2 (.inl ⟨hdis, skipDiscarded_error_raise hS hk hle⟩)
    · refine skipDiscarded_cons_error_iff.2 (.inr ⟨hdis, hp, ?_⟩)
      rcases hrest with ⟨heof, rfl⟩ | ⟨heof, hcl, rfl⟩ | ⟨heof, hcl, hF | ⟨g, r1, hF, hS⟩⟩
      · exact .inl ⟨heof, rfl⟩
      · exact .inr (.inl ⟨heof, hcl, rfl⟩)
      · exact .inr (.inr ⟨heof, hcl, .inl (readForm_error_raise hF hk hle)⟩)
      · have := hF.length_lt
        exact .inr (.inr ⟨heof, hcl,
          .inr ⟨g, r1, hF.raise hle, skipDiscarded_error_raise hS hk hle⟩⟩)
termination_by 3 * ts.length + 1
decreasing_by all_goals (rw [List.length_cons] at *; omega)

end

theorem ReadsTop.raise {ts : List Token} {f : Form} (h : ReadsTop cx ts f)
    (hle : cx.maxDepth ≤ d') : ReadsTop { cx with maxDepth := d' } ts f := by
  obtain ⟨r1, hS1, hpk1, r2, hF, r3, hS3, hpk3⟩ := h
  exact ⟨r1, hS1.raise hle, hpk1, r2, hF.raise hle, r3, hS3.raise hle, hpk3⟩

theorem FailsTop.raise {ts : List Token} {e : ParseError} (h : FailsTop cx ts e)
    (hk : e.kind ≠ .nestingTooDeep) (hle : cx.maxDepth ≤ d') :
    FailsTop { cx with maxDepth := d' } ts e := by
  rcases h with hS | ⟨r1, hS1, ⟨hpk, rfl⟩ | ⟨hpk, hF | ⟨f, r2, hF, hS | ⟨t, r3, hS3, heof, rfl⟩⟩⟩⟩
  · exact .inl (skipDiscarded_error_raise hS hk hle)
  · exact .inr ⟨r1, hS1.raise hle, .inl ⟨hpk, rfl⟩⟩
  · exact .inr ⟨r1, hS1.raise hle, .inr ⟨hpk, .inl (readForm_error_raise hF hk hle)⟩⟩
  · exact .inr ⟨r1, hS1.raise hle,
      .inr ⟨hpk, .inr ⟨f, r2, hF.raise hle, .inl (skipDiscarded_error_raise hS hk hle)⟩⟩⟩
  · exact .inr ⟨r1, hS1.raise hle,
      .inr ⟨hpk, .inr ⟨f, r2, hF.raise hle, .inr ⟨t, r3, hS3.raise hle, heof, rfl⟩⟩⟩⟩

end Raise

/-- A text that does not fail to read for depth reads the same under any larger limit. -/
theorem read_raise {s : String} {d d' : Nat} (hle : d ≤ d')
    (h : ∀ e, read s d = .error e → e.kind ≠ .nestingTooDeep) : read s d' = read s d := by
  cases hr : read s d with
  | ok f => exact read_ok_iff.2 ((read_ok_iff.1 hr).raise hle)
  | error e => exact read_error_iff.2 ((read_error_iff.1 hr).raise (h e hr) hle)

end Xtql.Edn
