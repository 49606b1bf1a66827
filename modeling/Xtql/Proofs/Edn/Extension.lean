import Xtql.Proofs.Edn.SliceScan
import Xtql.Proofs.Edn.Nesting
import Mathlib.Data.List.TakeWhile

/-!
Scanning a text with more text after it: text that opens with a blank leaves the tokens before
it as they were, but for an unterminated string at the very end.
-/

namespace Xtql.Edn

open Xtql.Text

/-- Text that opens with a blank, or is empty: no token runs on into it but an open string. -/
def StartsBlank (C : List Char) : Prop := ∀ c ∈ C.head?, isBlank c = true

section

variable {cs C : List Char}

theorem StartsBlank.not_isSymbolChar (hC : StartsBlank C) :
    ∀ c ∈ C.head?, isSymbolChar c = false := by
  intro c hc
  cases h : isSymbolChar c
  · rfl
  · have := isBlank_of_isSymbolChar h
    rw [hC c hc] at this
    cases this

theorem StartsBlank.not_digit (hC : StartsBlank C) : ∀ d ∈ C.head?, d.isDigit = false := by
  intro d hd
  cases h : d.isDigit
  · rfl
  · have := hC.not_isSymbolChar d hd
    rw [isSymbolChar_of_isDigit h] at this
    cases this

theorem spanName_rest_head (cs : List Char) :
    ∀ c ∈ (spanName cs).2.head?, isSymbolChar c = false := by
  intro c hc
  have := List.head?_dropWhile_not isSymbolChar cs
  simp only [spanName] at hc
  rw [hc] at this
  exact this

theorem spanName_append_blank (hC : StartsBlank C) (cs : List Char) :
    spanName (cs ++ C) = ((spanName cs).1, (spanName cs).2 ++ C) := by
  conv => lhs; rw [← spanName_append cs, List.append_assoc]
  refine spanName_of_stop List.all_takeWhile fun c hc => ?_
  cases hR : (spanName cs).2 with
  | nil =>
    rw [hR, List.nil_append] at hc
    exact hC.not_isSymbolChar c hc
  | cons x xs =>
    rw [hR, List.cons_append] at hc
    exact spanName_rest_head cs c (by rw [hR]; exact hc)

theorem scanStringBody_append_closed (h : (scanStringBody cs).2.1 = true) (C : List Char) :
    scanStringBody (cs ++ C) = ((scanStringBody cs).1, true, (scanStringBody cs).2.2 ++ C) := by
  fun_induction scanStringBody cs with
  | case1 | case3 => cases h
  | case2 => rfl
  | case4 c cs body closed rest hb ih =>
    rw [hb] at ih
    dsimp only at h ih ⊢
    rw [List.cons_append, List.cons_append, scanStringBody, ih h]
  | case5 c cs h1 h2 h3 body closed rest hb ih =>
    rw [hb] at ih
    dsimp only at h ih ⊢
    have h2' : c = '\\' → cs ++ C = [] → False := fun hc hnil =>
      h2 hc (List.append_eq_nil_iff.1 hnil).1
    have h3' : ∀ c' cs', c = '\\' → cs ++ C = c' :: cs' → False := fun c' cs' hc _ => by
      cases cs with
      | nil => exact h2 hc rfl
      | cons x xs => exact h3 x xs hc rfl
    rw [List.cons_append, scanStringBody.eq_5 c (cs ++ C) h1 h2' h3', ih h]

theorem scanStringBody_open (h : (scanStringBody cs).2.1 = false) : (scanStringBody cs).2.2 = [] := by
  fun_induction scanStringBody cs with
  | case1 | case3 => rfl
  | case2 => cases h
  | case4 c cs body closed rest hb ih | case5 c cs _ _ _ body closed rest hb ih =>
    rw [hb] at ih
    exact ih h

theorem startsNumber_append_blank (hC : StartsBlank C) (c : Char) (cs : List Char) :
    startsNumber c (cs ++ C) = startsNumber c cs :=
  startsNumber_append fun _ => hC.not_digit

theorem scanDispatch_append_blank (hC : StartsBlank C) (p : Nat) (cs : List Char) :
    scanDispatch p (cs ++ C) = ((scanDispatch p cs).1, (scanDispatch p cs).2 ++ C) := by
  cases cs with
  | nil =>
    cases C with
    | nil => rfl
    | cons b C =>
      -- a blank after the `#`: the unknown `#` alone
      have hb := hC b rfl
      have hs : isSymbolStart b = false := by
        cases h : isSymbolStart b
        · rfl
        · have := isBlank_of_isSymbolChar (isSymbolChar_of_isSymbolStart h)
          rw [hb] at this
          cases this
      have ne : ∀ x, isBlank x = false → b = x → False := fun x hx h => by
        rw [h, hx] at hb
        cases hb
      rw [List.nil_append, scanDispatch.eq_4 p b C (ne '{' rfl) (ne ':' rfl) (ne '_' rfl), if_neg
        (by rw [hs]; decide)]
      rfl
  | cons x r =>
    rw [List.cons_append]
    by_cases h1 : x = '{'
    · subst h1
      rfl
    by_cases h2 : x = ':'
    · subst h2
      simp only [scanDispatch, spanName_append_blank hC]
      -- the namespace, then a brace, some other text or nothing
      rcases (spanName r).1 with _ | ⟨a, as⟩ <;> rcases hR : (spanName r).2 with _ | ⟨y, r'⟩
      · rfl
      · rfl
      · cases C with
        | nil => rfl
        | cons b C =>
          have hb : b ≠ '{' := by
            rintro rfl
            exact absurd (hC _ rfl) (by decide)
          simp [hb]
      · by_cases hy : y = '{'
        · subst hy
          rfl
        · simp [hy]
    by_cases h3 : x = '_'
    · subst h3
      rfl
    rw [scanDispatch.eq_4 p x (r ++ C) h1 h2 h3, scanDispatch.eq_4 p x r h1 h2 h3,
      spanName_append_blank hC]
    split <;> rfl

theorem scanPrefixed_append_blank (hC : StartsBlank C) (k : TokenKind) (sigil : Char) (p : Nat)
    (cs : List Char) :
    scanPrefixed k sigil p (cs ++ C) =
      ((scanPrefixed k sigil p cs).1, (scanPrefixed k sigil p cs).2 ++ C) := by
  unfold scanPrefixed
  rw [spanName_append_blank hC]
  dsimp only
  split <;> rfl

/-- A token followed by a blank is scanned the same whatever follows the blank, unless it is a
string still open. -/
theorem scanToken_append_blank (hC : StartsBlank C) {p : Nat} {c : Char}
    (hk : (scanToken p c cs).1.kind ≠ .unterminatedString) :
    scanToken p c (cs ++ C) = ((scanToken p c cs).1, (scanToken p c cs).2 ++ C) := by
  unfold scanToken at hk ⊢
  split
  case h_7 =>
    simp only at hk ⊢
    rcases hb : scanStringBody cs with ⟨body, closed, rest⟩
    rw [hb] at hk
    cases closed with
    | false => exact absurd rfl hk
    | true =>
      have := scanStringBody_append_closed (C := C) (by rw [hb])
      rw [hb] at this
      simp only [this]
      rfl
  case h_8 => exact scanDispatch_append_blank hC p cs
  case h_9 | h_10 => exact scanPrefixed_append_blank hC _ _ p cs
  case h_11 =>
    simp only
    rw [startsNumber_append_blank hC, spanName_append_blank hC]
    split <;> rfl
  all_goals rfl

theorem scanToken_unterminated {p : Nat} {c : Char}
    (hk : (scanToken p c cs).1.kind = .unterminatedString) :
    c = '"' ∧ (scanToken p c cs).2 = [] := by
  unfold scanToken at hk ⊢
  split at hk
  case h_7 =>
    refine ⟨rfl, ?_⟩
    simp only at hk ⊢
    rcases hb : scanStringBody cs with ⟨body, closed, rest⟩
    rw [hb] at hk
    cases closed with
    | true => cases hk
    | false =>
      have hopen : (scanStringBody cs).2.1 = false := by rw [hb]
      have := scanStringBody_open hopen
      rw [hb] at this
      exact this
  case h_8 =>
    revert hk
    unfold scanDispatch
    split
    any_goals simp [mkToken]
    all_goals split <;> simp
  case h_9 | h_10 =>
    unfold scanPrefixed at hk
    dsimp only at hk
    split at hk <;> cases hk
  case h_11 =>
    split at hk
    · have hnum : numberKind (c :: (spanName cs).1) ≠ .unterminatedString := by
        simp only [numberKind]
        split_ifs <;> simp
      have hname : nameKind (c :: (spanName cs).1) ≠ .unterminatedString := by
        unfold nameKind
        split_ifs <;> simp
      dsimp only at hk
      split at hk
      · exact absurd hk hnum
      · exact absurd hk hname
    · cases hk
  all_goals cases hk

theorem scanToken_quote (p : Nat) (cs : List Char) :
    (scanToken p '"' cs).1.offset = p ∧
      ((scanToken p '"' cs).1.kind = .string ∨ (scanToken p '"' cs).1.kind = .unterminatedString) := by
  simp only [scanToken]
  rcases scanStringBody cs with ⟨body, closed, rest⟩
  cases closed <;> simp [mkToken]

end

/-! ### Blanks and comments -/

section

variable {X : List Char}

theorem skipTrivia_append (h : skipTrivia X ≠ []) (C : List Char) :
    skipTrivia (X ++ C) = skipTrivia X ++ C := by
  fun_induction skipTrivia X with
  | case1 => exact absurd rfl h
  | case2 c cs hc ih =>
    rw [List.cons_append, skipTrivia, if_pos hc]
    exact ih h
  | case3 cs hc ih =>
    rw [List.cons_append, skipTrivia, if_neg hc, if_pos rfl, List.dropWhile_append]
    split
    next hE =>
      -- the comment runs to the end of the text, which then has no token left
      rw [List.isEmpty_iff.1 hE, skipTrivia] at h
      exact absurd rfl h
    next => exact ih h
  | case4 c cs h1 h2 => rw [List.cons_append, skipTrivia, if_neg h1, if_neg h2]

theorem skipTrivia_append_newline (h : skipTrivia X = []) (W : List Char) :
    skipTrivia (X ++ '\n' :: W) = skipTrivia W := by
  have hnl : skipTrivia ('\n' :: W) = skipTrivia W := by
    rw [skipTrivia, if_pos (by decide)]
  fun_induction skipTrivia X with
  | case1 => exact hnl
  | case2 c cs hc ih =>
    rw [List.cons_append, skipTrivia, if_pos hc]
    exact ih h
  | case3 cs hc ih =>
    rw [List.cons_append, skipTrivia, if_neg hc, if_pos rfl, List.dropWhile_append]
    split
    · rw [List.dropWhile_cons_of_neg (by decide)]
      exact hnl
    · exact ih h
  | case4 c cs h1 h2 => cases h

theorem triviaBytes_of_skipTrivia_nil (h : skipTrivia X = []) : triviaBytes X = utf8Length X := by
  have := triviaBytes_add_utf8Length X
  rw [h, utf8Length_nil, Nat.add_zero] at this
  exact this

end

namespace Lexer

variable {l : Lexer} {xs : List Token}

theorem step_append_blank {X R C : List Char} {p : Nat} {b : Bool} {t : Token}
    (hC : StartsBlank C) (h : step ⟨X, p, b⟩ = some (t, ⟨R, t.stop, false⟩)) (ht : t.kind ≠ .eof)
    (hu : t.kind ≠ .unterminatedString) :
    step ⟨X ++ C, p, b⟩ = some (t, ⟨R ++ C, t.stop, false⟩) := by
  rcases step_eq_some h with ⟨-, -, rfl, -⟩ | ⟨c, cs, hcs, hscan, -⟩
  · exact absurd rfl ht
  dsimp only at hcs hscan
  have hne : skipTrivia X ≠ [] := by
    rw [hcs]
    exact List.cons_ne_nil _ _
  have hskip : skipTrivia (X ++ C) = (c :: cs) ++ C := by
    rw [skipTrivia_append hne, hcs]
  have hbytes := triviaBytes_of_append hskip (List.cons_ne_nil _ _)
  have hk : (scanToken (p + triviaBytes X) c cs).1.kind ≠ .unterminatedString := by
    rw [hscan]
    exact hu
  have hscan' := scanToken_append_blank hC hk
  rw [hscan] at hscan'
  simp only [step, hskip, hbytes, List.cons_append, hscan']

/-- A run of tokens that are neither the end nor an open string, ending before a blank, runs the
same whatever follows the blank. -/
theorem Run.append_blank {X R C : List Char} {p q : Nat} {b : Bool} (hC : StartsBlank C)
    (h : Run ⟨X, p, b⟩ xs ⟨R, q, false⟩)
    (hxs : ∀ x ∈ xs, x.kind ≠ .eof ∧ x.kind ≠ .unterminatedString) :
    Run ⟨X ++ C, p, b⟩ xs ⟨R ++ C, q, false⟩ := by
  generalize hl : (⟨X, p, b⟩ : Lexer) = l at h
  generalize hl' : (⟨R, q, false⟩ : Lexer) = l' at h
  induction h generalizing X p b with
  | refl l =>
    subst hl
    simp only [Lexer.mk.injEq] at hl'
    obtain ⟨rfl, rfl, rfl⟩ := hl'
    exact .refl _
  | @step l l1 l2 t ts hs hr ih =>
    subst hl hl'
    obtain ⟨ht, hu⟩ := hxs t (List.mem_cons_self ..)
    -- the step scanned a token, so it left a state at the token's end
    have hl1 : l1 = ⟨l1.rest, t.stop, false⟩ := by
      rcases step_eq_some hs with ⟨-, -, rfl, -⟩ | ⟨-, -, -, -, hl'⟩
      · exact absurd rfl ht
      · exact hl'
    exact .step (step_append_blank hC (hl1 ▸ hs) ht hu)
      (ih (fun x hx => hxs x (List.mem_cons_of_mem _ hx)) hl1.symm rfl)

theorem tokens_to_end (rest : List Char) (pos : Nat) :
    ∃ xs R q, Run ⟨rest, pos, false⟩ xs ⟨R, q, false⟩ ∧ skipTrivia R = [] ∧
      (∀ x ∈ xs, x.kind ≠ .eof) ∧
      (⟨rest, pos, false⟩ : Lexer).tokens = xs ++ [mkToken .eof [] [] (pos + utf8Length rest)] := by
  cases hs : skipTrivia rest with
  | nil =>
    -- only blanks and comments are left: the end token comes next, and nothing after it
    have hstep : step ⟨rest, pos, false⟩ =
        some (mkToken .eof [] [] (pos + utf8Length rest), ⟨[], pos + utf8Length rest, true⟩) := by
      simp only [step, hs, triviaBytes_of_skipTrivia_nil hs]
      rfl
    refine ⟨[], rest, pos, .refl _, hs, by simp, ?_⟩
    rw [tokens_of_step hstep, tokens_of_step_none (step_eof hstep rfl)]
    rfl
  | cons c cs =>
    -- a token, then the rest of the run
    have hstep : step ⟨rest, pos, false⟩ =
        some ((scanToken (pos + triviaBytes rest) c cs).1,
          ⟨(scanToken (pos + triviaBytes rest) c cs).2,
            (scanToken (pos + triviaBytes rest) c cs).1.stop, false⟩) := by
      simp only [step, hs]
    obtain ⟨B, hB, hpos, -⟩ := step_consumes hstep
    have hlen : utf8Length rest = utf8Length B + utf8Length (scanToken (pos + triviaBytes rest) c cs).2 := by
      rw [← utf8Length_append, ← hB]
    have hlt : (scanToken (pos + triviaBytes rest) c cs).2.length < rest.length := by
      have h1 := length_scanToken_le (pos + triviaBytes rest) c cs
      have h2 := length_skipTrivia_le rest
      rw [hs, List.length_cons] at h2
      omega
    obtain ⟨xs, R, q, hrun, hR, hxs, htoks⟩ := tokens_to_end (scanToken (pos + triviaBytes rest) c cs).2
      (scanToken (pos + triviaBytes rest) c cs).1.stop
    refine ⟨_ :: xs, R, q, .step hstep hrun, hR,
      List.forall_mem_cons.2 ⟨scanToken_kind_ne_eof _ _ _, hxs⟩, ?_⟩
    rw [tokens_of_step hstep, htoks, List.cons_append]
    dsimp only at hpos
    rw [hpos, hlen, Nat.add_assoc]
termination_by rest.length
decreasing_by all_goals omega

theorem Run.split {l l' : Lexer} {xs ys : List Token} (h : Run l (xs ++ ys) l') :
    ∃ l1, Run l xs l1 ∧ Run l1 ys l' := by
  induction xs generalizing l with
  | nil => exact ⟨l, .refl l, h⟩
  | cons x xs ih =>
    cases h with
    | step hs hr =>
      obtain ⟨l1, h1, h2⟩ := ih hr
      exact ⟨l1, .step hs h1, h2⟩

theorem Run.unterminated_last {xs ys : List Token} {x : Token} {l l' : Lexer}
    (h : Run l (xs ++ x :: ys) l') (hx : x.kind = .unterminatedString)
    (hys : ∀ y ∈ ys, y.kind ≠ .eof) : ys = [] := by
  obtain ⟨l1, -, h1⟩ := h.split
  cases h1 with
  | @step _ l2 _ _ _ hs hr =>
  -- the string took all of the text
  have hrest : l2.rest = [] := by
    rcases step_eq_some hs with ⟨-, -, rfl, -⟩ | ⟨c, cs, -, hscan, -⟩
    · cases hx
    · have hk : (scanToken (l1.pos + triviaBytes l1.rest) c cs).1.kind = .unterminatedString := by
        rw [hscan]
        exact hx
      have := scanToken_unterminated hk
      rw [hscan] at this
      exact this.2
  cases hr with
  | refl => rfl
  | @step _ _ _ y _ hs' _ =>
    rcases step_eq_some hs' with ⟨-, -, rfl, -⟩ | ⟨c, cs, hcs, -, -⟩
    · exact absurd rfl (hys _ (List.mem_cons_self ..))
    · rw [hrest, skipTrivia] at hcs
      cases hcs

end Lexer

/-- The tokens of a text: a run up to where only blanks and comments are left, then the end token
at the end of the text. -/
theorem tokenize_eq_run (s : String) :
    ∃ A R q, Lexer.Run (Lexer.start s) A ⟨R, q, false⟩ ∧ skipTrivia R = [] ∧
      (∀ x ∈ A, x.kind ≠ .eof) ∧ tokenize s = A ++ [mkToken .eof [] [] s.utf8ByteSize] := by
  obtain ⟨A, R, q, hrun, hR, hA, htoks⟩ := Lexer.tokens_to_end s.toList 0
  refine ⟨A, R, q, hrun, hR, hA, ?_⟩
  rw [tokenize_eq_tokens, Lexer.start, htoks, utf8ByteSize_eq_utf8Length, Nat.zero_add]

/-- Text that opens with a blank keeps the tokens of a text before it, but an unterminated string
at its end: that one is scanned on from the same byte, as a string closed or not. -/
theorem tokenize_append_blank {s t : String} (ht : StartsBlank t.toList) :
    ∃ A, tokenize s = A ++ [mkToken .eof [] [] s.utf8ByteSize] ∧ (∀ x ∈ A, x.kind ≠ .eof) ∧
      (((∀ x ∈ A, x.kind ≠ .unterminatedString) ∧ ∃ B, tokenize (s ++ t) = A ++ B) ∨
        ∃ A0 u u' B, A = A0 ++ [u] ∧ (∀ x ∈ A0, x.kind ≠ .unterminatedString) ∧
          u.kind = .unterminatedString ∧ tokenize (s ++ t) = A0 ++ u' :: B ∧ u'.offset = u.offset ∧
          (u'.kind = .string ∨ u'.kind = .unterminatedString)) := by
  obtain ⟨A, R, q, hrun, -, hA, htok⟩ := tokenize_eq_run s
  refine ⟨A, htok, hA, ?_⟩
  have hstart : Lexer.start (s ++ t) = ⟨s.toList ++ t.toList, 0, false⟩ := by
    simp only [Lexer.start, String.toList_append]
  by_cases hu : ∀ x ∈ A, x.kind ≠ .unterminatedString
  · refine .inl ⟨hu, (⟨R ++ t.toList, q, false⟩ : Lexer).tokens, ?_⟩
    rw [tokenize_eq_tokens, hstart]
    exact (hrun.append_blank ht fun x hx => ⟨hA x hx, hu x hx⟩).tokens
  -- the first open string among the tokens, which is the last of them
  have hex : ∃ x ∈ A, x.kind = .unterminatedString := by
    simpa only [ne_eq, Classical.not_forall, Classical.not_not, exists_prop] using hu
  let p : Token → Bool := fun x => x.kind != .unterminatedString
  have hsplit := @List.takeWhile_append_dropWhile _ p A
  obtain ⟨x, A2, hD⟩ : ∃ x A2, A.dropWhile p = x :: A2 := by
    refine List.exists_cons_of_ne_nil fun hD => ?_
    obtain ⟨x, hxA, hx⟩ := hex
    simpa [p, hx] using List.dropWhile_eq_nil_iff.1 hD x hxA
  have hx : x.kind = .unterminatedString := by
    have := List.head?_dropWhile_not p A
    rw [hD] at this
    simpa [p] using this
  have hA1 : ∀ y ∈ A.takeWhile p, y.kind ≠ .unterminatedString := by
    intro y hy
    have := List.all_eq_true.1 (@List.all_takeWhile _ p A) y hy
    simpa [p] using this
  rw [hD] at hsplit
  rw [← hsplit] at hrun hA
  obtain rfl : A2 = [] := hrun.unterminated_last hx fun y hy => hA y (by simp [hy])
  refine .inr ⟨A.takeWhile p, x, ?_⟩
  obtain ⟨l1, h1, h2⟩ := hrun.split
  have hf : l1.finished = false := by
    cases hT : A.takeWhile p with
    | nil =>
      rw [hT] at h1
      cases h1
      rfl
    | cons y ys =>
      rw [hT] at h1
      exact h1.finished_eq fun z hz => hA z (by rw [hT]; exact List.mem_append_left _ hz)
  have hfin : l1 = ⟨l1.rest, l1.pos, false⟩ := by
    rw [← hf]
  cases h2 with
  | @step _ l2 _ _ _ hs hr =>
  rcases Lexer.step_eq_some hs with ⟨-, -, rfl, -⟩ | ⟨c, cs, hcs, hscan, -⟩
  · cases hx
  have hk : (scanToken (l1.pos + triviaBytes l1.rest) c cs).1.kind = .unterminatedString := by
    rw [hscan]
    exact hx
  obtain ⟨rfl, -⟩ := scanToken_unterminated hk
  -- in the longer text the tokens before the string are as they were, and the string starts at
  -- the same byte
  rw [hfin] at h1
  have hrun' := h1.append_blank ht fun y hy => ⟨hA y (by simp [hy]), hA1 y hy⟩
  have hne : skipTrivia l1.rest ≠ [] := by
    rw [hcs]
    exact List.cons_ne_nil _ _
  have hskip : skipTrivia (l1.rest ++ t.toList) = ('"' :: cs) ++ t.toList := by
    rw [skipTrivia_append hne, hcs]
  have hbytes := triviaBytes_of_append hskip (List.cons_ne_nil _ _)
  have hq := scanToken_quote (l1.pos + triviaBytes l1.rest) cs
  have hq' := scanToken_quote (l1.pos + triviaBytes l1.rest) (cs ++ t.toList)
  rw [hscan] at hq
  have hstep : Lexer.step ⟨l1.rest ++ t.toList, l1.pos, false⟩ =
      some ((scanToken (l1.pos + triviaBytes l1.rest) '"' (cs ++ t.toList)).1,
        ⟨(scanToken (l1.pos + triviaBytes l1.rest) '"' (cs ++ t.toList)).2,
          (scanToken (l1.pos + triviaBytes l1.rest) '"' (cs ++ t.toList)).1.stop, false⟩) := by
    simp only [Lexer.step, hskip, hbytes, List.cons_append]
  refine ⟨_, (⟨(scanToken (l1.pos + triviaBytes l1.rest) '"' (cs ++ t.toList)).2,
    (scanToken (l1.pos + triviaBytes l1.rest) '"' (cs ++ t.toList)).1.stop, false⟩ : Lexer).tokens,
    hsplit.symm, hA1, hx, ?_, by rw [hq'.1, hq.1], hq'.2⟩
  rw [tokenize_eq_tokens, hstart, hrun'.tokens, Lexer.tokens_of_step hstep]

/-! ### Text that finishes what is open -/

namespace Lexer

theorem tokens_trivia_newline {R : List Char} (hR : skipTrivia R = []) (q : Nat) (W : List Char) :
    (⟨R ++ '\n' :: W, q, false⟩ : Lexer).tokens = (⟨W, q + utf8Length R + 1, false⟩ : Lexer).tokens := by
  have hskip := skipTrivia_append_newline hR W
  have hbytes : triviaBytes (R ++ '\n' :: W) = utf8Length R + 1 + triviaBytes W := by
    have h1 := triviaBytes_add_utf8Length (R ++ '\n' :: W)
    have h2 := triviaBytes_add_utf8Length W
    rw [hskip, utf8Length_append, utf8Length_cons] at h1
    have : '\n'.utf8Size = 1 := rfl
    omega
  apply tokens_congr
  simp only [step, hskip, hbytes, Nat.add_assoc]

end Lexer

/-- A kind a continuation may supply for what a read awaits: `nil`, or a closer. -/
def Filler (k : TokenKind) : Prop := k = .nilLit ∨ k.isClose = true

def fillWord : TokenKind → List Char
  | .rparen => [')']
  | .rbracket => [']']
  | .rbrace => ['}']
  | _ => "nil".toList

def fillText : List TokenKind → List Char
  | [] => []
  | k :: ks => ' ' :: (fillWord k ++ fillText ks)

theorem tokens_fillText (K : List TokenKind) (hK : ∀ k ∈ K, Filler k) (p : Nat) :
    ∃ X q, (⟨fillText K, p, false⟩ : Lexer).tokens = X ++ [mkToken .eof [] [] q] ∧
      X.map Token.kind = K := by
  induction K generalizing p with
  | nil => exact ⟨[], p, Lexer.tokens_end p, rfl⟩
  | cons k K ih =>
    have hends : EndsName (fillText K) := by
      cases K with
      | nil => trivial
      | cons _ _ => exact .inl rfl
    -- the word of `k` scans to one token of kind `k`, and leaves the words after it
    have hword : ∃ x, (⟨fillWord k ++ fillText K, p + ' '.utf8Size, false⟩ : Lexer).tokens =
        x :: (⟨fillText K, x.stop, false⟩ : Lexer).tokens ∧ x.kind = k := by
      rcases hK k (List.mem_cons_self ..) with rfl | hc
      · have hscan : scanToken (p + ' '.utf8Size) 'n' (['i', 'l'] ++ fillText K) =
            (mkToken .nilLit "nil".toList "nil".toList (p + ' '.utf8Size), fillText K) := by
          rw [scanToken_word _ (by decide) (by decide) (by decide) hends
            (by rw [Bool.or_eq_true]; exact .inr (by decide))]
          rfl
        refine ⟨mkToken .nilLit "nil".toList "nil".toList (p + ' '.utf8Size), ?_, rfl⟩
        rw [show fillWord .nilLit ++ fillText K = 'n' :: (['i', 'l'] ++ fillText K) from rfl,
          Lexer.tokens_scan (c := 'n') _ _ (by decide) (by decide), hscan]
      · cases k <;> try cases hc
        all_goals
          rw [fillWord, List.cons_append, List.nil_append]
          refine ⟨_, Lexer.tokens_scan _ _ ?_ ?_, rfl⟩ <;> decide
    obtain ⟨x, hx, hxk⟩ := hword
    obtain ⟨X, q, hX, hXK⟩ := ih (fun k hk => hK k (List.mem_cons_of_mem _ hk)) x.stop
    refine ⟨x :: X, q, ?_, by rw [List.map_cons, hxk, hXK]⟩
    rw [fillText, Lexer.tokens_blank _ _ (by decide), hx, hX, List.cons_append]

/-- A text whose tokens hold no open string, followed by a newline and the words of kinds that
continuations supply, scans to its tokens, one token of each of those kinds, and the end. -/
theorem tokenize_append_fillText {s : String} {A : List Token}
    (htok : tokenize s = A ++ [mkToken .eof [] [] s.utf8ByteSize])
    (hA : ∀ x ∈ A, x.kind ≠ .unterminatedString) (K : List TokenKind) (hK : ∀ k ∈ K, Filler k) :
    ∃ X z, tokenize (s ++ String.ofList ('\n' :: fillText K)) = A ++ X ++ [z] ∧
      X.map Token.kind = K ∧ z.kind = .eof := by
  obtain ⟨A', R, q, hrun, hR, hA', htok'⟩ := tokenize_eq_run s
  obtain rfl : A' = A := List.append_cancel_right (htok'.symm.trans htok)
  have hC : StartsBlank ('\n' :: fillText K) := fun c hc => by
    obtain rfl : '\n' = c := Option.some.inj hc
    decide
  have hrun' := hrun.append_blank hC fun x hx => ⟨hA' x hx, hA x hx⟩
  obtain ⟨X, q', hX, hXK⟩ := tokens_fillText K hK (q + utf8Length R + 1)
  refine ⟨X, mkToken .eof [] [] q', ?_, hXK, rfl⟩
  rw [tokenize_eq_tokens]
  have hstart : Lexer.start (s ++ String.ofList ('\n' :: fillText K)) =
      ⟨s.toList ++ '\n' :: fillText K, 0, false⟩ := by
    simp only [Lexer.start, String.toList_append, String.toList_ofList]
  rw [hstart, hrun'.tokens, Lexer.tokens_trivia_newline hR, hX, List.append_assoc]

end Xtql.Edn
