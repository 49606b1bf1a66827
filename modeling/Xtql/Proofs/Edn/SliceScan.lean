import Xtql.Proofs.Edn.TokenStream
import Xtql.Proofs.Edn.Relocate

/-!
Scanning a stretch of text on its own gives the tokens a run gave over it, moved to start at
zero (`Lexer.Run.tokens_slice`).
-/

namespace Xtql.Edn

open Xtql.Text

/-! ### Positions only count bytes -/

section

variable {o p : Nat}

theorem mkToken_sub (h : o ≤ p) (k : TokenKind) (text w : List Char) :
    mkToken k text w (p - o) = (mkToken k text w p).mapPos (· - o) := by
  simp only [mkToken, Token.mapPos, Token.mk.injEq, true_and]
  omega

theorem scanDispatch_sub (h : o ≤ p) (cs : List Char) :
    scanDispatch (p - o) cs = ((scanDispatch p cs).1.mapPos (· - o), (scanDispatch p cs).2) := by
  unfold scanDispatch
  split
  · rw [mkToken_sub h]
  · dsimp only
    split <;> rw [mkToken_sub h]
  · rw [mkToken_sub h]
  · split <;> rw [mkToken_sub h]
  · rw [mkToken_sub h]

theorem scanPrefixed_sub (h : o ≤ p) (k : TokenKind) (sigil : Char) (cs : List Char) :
    scanPrefixed k sigil (p - o) cs =
      ((scanPrefixed k sigil p cs).1.mapPos (· - o), (scanPrefixed k sigil p cs).2) := by
  unfold scanPrefixed
  dsimp only
  split <;> rw [mkToken_sub h]

theorem scanToken_sub (h : o ≤ p) (c : Char) (cs : List Char) :
    scanToken (p - o) c cs = ((scanToken p c cs).1.mapPos (· - o), (scanToken p c cs).2) := by
  unfold scanToken
  split
  case h_7 =>
    rcases scanStringBody cs with ⟨body, closed, rest⟩
    dsimp only
    split <;> rw [mkToken_sub h]
  case h_8 => exact scanDispatch_sub h cs
  case h_9 | h_10 => exact scanPrefixed_sub h _ _ cs
  case h_11 =>
    dsimp only
    split <;> rw [mkToken_sub h]
  all_goals rw [mkToken_sub h]

end

/-! ### What follows a token does not matter -/

section

variable {cs C R : List Char}

theorem spanName_of_append {A : List Char} (h : spanName (cs ++ C) = (A, R ++ C)) :
    spanName cs = (A, R) := by
  have hs := spanName_append (cs ++ C)
  rw [h] at hs
  obtain rfl : cs = A ++ R := by
    rw [← List.append_assoc] at hs
    exact (List.append_cancel_right hs).symm
  have hA : (A ++ R ++ C).takeWhile isSymbolChar = A := congrArg Prod.fst h
  have hQ : (A ++ R ++ C).dropWhile isSymbolChar = R ++ C := congrArg Prod.snd h
  refine spanName_of_stop (hA ▸ List.all_takeWhile) fun c hc => ?_
  cases R with
  | nil => cases hc
  | cons x R =>
    obtain rfl : x = c := Option.some.inj hc
    have hne : (A ++ x :: R ++ C).dropWhile isSymbolChar ≠ [] := by
      rw [hQ]
      exact List.cons_ne_nil _ _
    have := List.head_dropWhile_not isSymbolChar hne
    simpa only [hQ, List.cons_append, List.head_cons] using this

theorem skipTrivia_of_append {X Z : List Char} (h : skipTrivia (X ++ C) = Z ++ C)
    (hZ : Z ≠ []) : skipTrivia X = Z := by
  fun_induction skipTrivia X with
  | case1 =>
    -- nothing is left of the text, so what is left lies in `C` alone
    have hl := (skipTrivia_suffix C).length_le
    rw [List.nil_append] at h
    rw [h, List.length_append] at hl
    exact absurd (List.eq_nil_iff_length_eq_zero.2 (by omega)) hZ
  | case2 c cs hc ih =>
    rw [List.cons_append, skipTrivia, if_pos hc] at h
    exact ih h
  | case3 cs hc ih =>
    rw [List.cons_append, skipTrivia, if_neg hc, if_pos rfl, List.dropWhile_append] at h
    split at h
    next =>
      -- the comment runs on past the text, so again what is left lies in `C`
      have hl := ((skipTrivia_suffix (C.dropWhile (· != '\n'))).trans
        (List.dropWhile_suffix _)).length_le
      rw [h, List.length_append] at hl
      exact absurd (List.eq_nil_iff_length_eq_zero.2 (by omega)) hZ
    next => exact ih h
  | case4 c cs h1 h2 =>
    rw [List.cons_append, skipTrivia, if_neg h1, if_neg h2, ← List.cons_append] at h
    exact List.append_cancel_right h

theorem triviaBytes_of_append {X Z : List Char} (h : skipTrivia (X ++ C) = Z ++ C)
    (hZ : Z ≠ []) : triviaBytes (X ++ C) = triviaBytes X := by
  have h1 := triviaBytes_add_utf8Length (X ++ C)
  have h2 := triviaBytes_add_utf8Length X
  rw [h, utf8Length_append, utf8Length_append] at h1
  rw [skipTrivia_of_append h hZ] at h2
  omega

theorem scanStringBody_of_append {body : List Char} {closed : Bool}
    (h : scanStringBody (cs ++ C) = (body, closed, R ++ C)) :
    scanStringBody cs = (body, closed, R) := by
  fun_induction scanStringBody cs generalizing body closed R with
  | case1 =>
    -- the body took nothing of `C`: no closing quote, and nothing before it
    have hl := length_scanStringBody_le C
    have ha := scanStringBody_append C
    rw [List.nil_append] at h
    rw [h] at hl ha
    dsimp only at hl ha
    obtain rfl : R = [] := by
      rw [List.length_append] at hl
      exact List.eq_nil_iff_length_eq_zero.2 (by omega)
    have hlen := congrArg List.length ha
    cases closed
    · simp only [List.nil_append, Bool.false_eq_true, if_false, List.length_append] at hlen
      obtain rfl : body = [] := List.eq_nil_iff_length_eq_zero.2 (by omega)
      rfl
    · simp only [List.nil_append, if_true, List.length_append, List.length_cons] at hlen
      omega
  | case2 cs =>
    rw [List.cons_append, scanStringBody] at h
    simp only [Prod.mk.injEq] at h
    obtain ⟨rfl, rfl, hr⟩ := h
    rw [List.append_cancel_right hr]
  | case3 =>
    cases C with
    | nil =>
      rw [List.append_nil, List.append_nil] at h
      exact h
    | cons c C =>
      -- the backslash takes `c` with it, which the body would then have taken from `C`
      exfalso
      have hl := length_scanStringBody_le C
      rw [List.cons_append, List.nil_append, scanStringBody] at h
      rcases hb : scanStringBody C with ⟨b, cl, r⟩
      rw [hb] at h hl
      dsimp only at h hl
      simp only [Prod.mk.injEq] at h
      have hlen := congrArg List.length h.2.2
      simp only [List.length_append, List.length_cons] at hlen
      omega
  | case4 c cs b cl r hb ih =>
    rw [List.cons_append, List.cons_append, scanStringBody] at h
    rcases hb' : scanStringBody (cs ++ C) with ⟨b', cl', r'⟩
    rw [hb'] at h
    dsimp only at h
    simp only [Prod.mk.injEq] at h
    obtain ⟨rfl, rfl, rfl⟩ := h
    rw [ih hb'] at hb
    simp only [Prod.mk.injEq] at hb
    obtain ⟨rfl, rfl, rfl⟩ := hb
    rfl
  | case5 c cs h1 h2 h3 b cl r hb ih =>
    have hc : c ≠ '\\' := by
      intro hc
      cases cs with
      | nil => exact h2 hc rfl
      | cons x xs => exact h3 x xs hc rfl
    rw [List.cons_append, scanStringBody.eq_5 c (cs ++ C) h1 (fun hc' _ => hc hc')
      (fun _ _ hc' _ => hc hc')] at h
    rcases hb' : scanStringBody (cs ++ C) with ⟨b', cl', r'⟩
    rw [hb'] at h
    dsimp only at h
    simp only [Prod.mk.injEq] at h
    obtain ⟨rfl, rfl, rfl⟩ := h
    rw [ih hb'] at hb
    simp only [Prod.mk.injEq] at hb
    obtain ⟨rfl, rfl, rfl⟩ := hb
    rfl

theorem scan_of_append {t t' : Token} (h : (t', cs ++ C) = (t, R ++ C)) : (t', cs) = (t, R) := by
  simp only [Prod.mk.injEq] at h ⊢
  exact ⟨h.1, List.append_cancel_right h.2⟩

theorem head_not_isSymbolChar_of_spanName {X : List Char} (h : (spanName X).1 = []) :
    ∀ d ∈ X.head?, isSymbolChar d = false := by
  cases X with
  | nil => exact fun d hd => absurd hd (by simp)
  | cons x X =>
    intro d hd
    obtain rfl : x = d := Option.some.inj hd
    simp only [spanName, List.takeWhile_cons] at h
    cases hx : isSymbolChar x
    · rfl
    · simp [hx] at h

theorem startsNumber_append {c : Char} (h : cs = [] → ∀ d ∈ C.head?, d.isDigit = false) :
    startsNumber c (cs ++ C) = startsNumber c cs := by
  cases cs with
  | cons x r => rfl
  | nil =>
    cases C with
    | nil => rfl
    | cons d C => simp [startsNumber, h rfl d rfl]

theorem startsNumber_of_append {c : Char} (h : startsNumber c cs = true) :
    startsNumber c (cs ++ C) = true := by
  cases cs with
  | cons x r => exact h
  | nil =>
    have hd : c.isDigit = true := by simpa [startsNumber] using h
    simp [startsNumber, hd]

theorem scanDispatch_cons (p : Nat) (x : Char) (r : List Char) :
    (scanDispatch p (x :: r)).2.length ≤ r.length ∨
      scanDispatch p (x :: r) = (mkToken .unknown ['#'] ['#'] p, x :: r) := by
  unfold scanDispatch
  split
  next heq =>
    obtain ⟨-, rfl⟩ := List.cons.inj heq
    exact .inl (Nat.le_refl _)
  next r' heq =>
    obtain ⟨-, rfl⟩ := List.cons.inj heq
    have hs := length_spanName_le r
    refine .inl ?_
    dsimp only
    split
    next heq' =>
      rw [heq'] at hs
      simp only [List.length_cons] at hs ⊢
      omega
    next => exact hs
  next heq =>
    obtain ⟨-, rfl⟩ := List.cons.inj heq
    exact .inl (Nat.le_refl _)
  next c r' _ _ _ heq =>
    obtain ⟨rfl, rfl⟩ := List.cons.inj heq
    split
    next => exact .inl (length_spanName_le r)
    next => exact .inr rfl
  next heq => cases heq

theorem scanDispatch_of_rest {p : Nat} {t : Token} (h : scanDispatch p C = (t, R ++ C)) :
    scanDispatch p [] = (t, R) := by
  obtain rfl : R = [] := by
    have hl := length_scanDispatch_le p C
    rw [h, List.length_append] at hl
    exact List.eq_nil_iff_length_eq_zero.2 (by omega)
  rw [List.nil_append] at h
  cases C with
  | nil => exact h
  | cons x r =>
    rcases scanDispatch_cons p x r with hl | hu
    · rw [h, List.length_cons] at hl
      omega
    · rw [hu, Prod.mk.injEq] at h
      rw [← h.1]
      rfl

theorem scanDispatch_of_append {p : Nat} {t : Token} (h : scanDispatch p (cs ++ C) = (t, R ++ C)) :
    scanDispatch p cs = (t, R) := by
  cases cs with
  | nil => exact scanDispatch_of_rest h
  | cons x r =>
    rw [List.cons_append] at h
    unfold scanDispatch
    split
    next heq =>
      obtain ⟨rfl, rfl⟩ := List.cons.inj heq
      exact scan_of_append h
    next heq =>
      obtain ⟨rfl, rfl⟩ := List.cons.inj heq
      simp only [scanDispatch] at h
      rcases hs : spanName (r ++ C) with ⟨ns, Q⟩
      rw [hs] at h
      dsimp only at h ⊢
      split at h
      next a as r' =>
        -- `#:ns{`: the brace lies inside the text
        simp only [Prod.mk.injEq] at h
        obtain ⟨rfl, rfl⟩ := h
        rw [spanName_of_append (R := '{' :: R) hs]
        rfl
      next hno =>
        simp only [Prod.mk.injEq] at h
        obtain ⟨rfl, rfl⟩ := h
        rw [spanName_of_append hs]
        split
        next a as r' hns hR =>
          dsimp only at hns hR
          exact absurd (by rw [hR]; rfl) (hno a as (r' ++ C) hns)
        next => rfl
    next heq =>
      obtain ⟨rfl, rfl⟩ := List.cons.inj heq
      exact scan_of_append h
    next c r' h1 h2 h3 heq =>
      obtain ⟨rfl, rfl⟩ := List.cons.inj heq
      rw [scanDispatch.eq_4 p x (r ++ C) h1 h2 h3] at h
      split at h
      next hs =>
        rcases hsp : spanName (r ++ C) with ⟨A, Q⟩
        rw [hsp] at h
        simp only [Prod.mk.injEq] at h
        obtain ⟨rfl, rfl⟩ := h
        rw [if_pos hs, spanName_of_append hsp]
      next hs =>
        rw [if_neg hs]
        exact scan_of_append h
    next heq => cases heq

theorem scanPrefixed_of_append {k : TokenKind} {sigil : Char} {p : Nat} {t : Token}
    (h : scanPrefixed k sigil p (cs ++ C) = (t, R ++ C)) : scanPrefixed k sigil p cs = (t, R) := by
  unfold scanPrefixed at h ⊢
  rcases hs : spanName (cs ++ C) with ⟨A, Q⟩
  rw [hs] at h
  dsimp only at h ⊢
  split at h
  next hA =>
    -- a lone sigil: no name character after it
    obtain rfl : A = [] := List.isEmpty_iff.1 hA
    have hQ : Q = cs ++ C := by
      have := spanName_append (cs ++ C)
      rwa [hs, List.nil_append] at this
    subst hQ
    rw [spanName_of_append (R := cs) hs]
    exact scan_of_append h
  next hA =>
    simp only [Prod.mk.injEq] at h
    obtain ⟨rfl, rfl⟩ := h
    rw [spanName_of_append hs, if_neg hA]

/-- A token that ends inside a text is scanned the same whatever follows the text. -/
theorem scanToken_of_append {p : Nat} {c : Char} {t : Token}
    (h : scanToken p c (cs ++ C) = (t, R ++ C)) : scanToken p c cs = (t, R) := by
  unfold scanToken at h ⊢
  split
  case h_7 =>
    simp only at h
    rcases hb : scanStringBody (cs ++ C) with ⟨body, closed, rest⟩
    rw [hb] at h
    dsimp only at h ⊢
    -- closed or not, the string leaves what follows its body
    split at h
    next hc =>
      simp only [Prod.mk.injEq] at h
      obtain ⟨rfl, rfl⟩ := h
      rw [scanStringBody_of_append hb]
      dsimp only
      rw [if_pos hc]
    next hc =>
      simp only [Prod.mk.injEq] at h
      obtain ⟨rfl, rfl⟩ := h
      rw [scanStringBody_of_append hb]
      dsimp only
      rw [if_neg hc]
  case h_8 =>
    simp only at h
    exact scanDispatch_of_append h
  case h_9 | h_10 =>
    simp only at h
    exact scanPrefixed_of_append h
  case h_11 =>
    simp only at h
    dsimp only
    split at h
    next hs =>
      rcases hsp : spanName (cs ++ C) with ⟨A, Q⟩
      rw [hsp] at h
      simp only [Prod.mk.injEq] at h
      obtain ⟨rfl, rfl⟩ := h
      have hsn := spanName_of_append hsp
      have hnum : startsNumber c (cs ++ C) = startsNumber c cs := by
        refine startsNumber_append fun hcs => ?_
        subst hcs
        rw [List.nil_append] at hsp
        obtain ⟨hA, -⟩ : A = [] ∧ R = [] := by simpa [spanName] using hsn
        intro d hd
        have := head_not_isSymbolChar_of_spanName (by rw [hsp, hA]) d hd
        cases hdig : d.isDigit
        · rfl
        · exact absurd (isSymbolChar_of_isDigit hdig) (by simp [this])
      rw [hnum] at hs ⊢
      rw [if_pos hs, hsn]
    next hs =>
      rw [if_neg fun h' => hs ?_]
      · exact scan_of_append h
      · simp only [Bool.or_eq_true] at h' ⊢
        exact h'.imp_left startsNumber_of_append
  all_goals
    simp only at h
    exact scan_of_append h

end

namespace Lexer

variable {l l' : Lexer} {t : Token} {xs : List Token}

theorem step_sub {o : Nat} (h : l.step = some (t, l')) (ho : o ≤ l.pos) :
    (⟨l.rest, l.pos - o, l.finished⟩ : Lexer).step =
      some (t.mapPos (· - o), ⟨l'.rest, l'.pos - o, l'.finished⟩) := by
  have e : l.pos - o + triviaBytes l.rest = l.pos + triviaBytes l.rest - o := by omega
  rcases step_eq_some h with ⟨hnil, hf, rfl, rfl⟩ | ⟨c, cs, hcs, hscan, hl'⟩
  · simp only [step, hnil, hf, e, mkToken_sub (by omega : o ≤ l.pos + triviaBytes l.rest)]
    rfl
  · have hs := scanToken_sub (by omega : o ≤ l.pos + triviaBytes l.rest) c cs
    rw [hscan] at hs
    rw [hl']
    simp only [step, hcs, e, hs, Token.stop_mapPos]

theorem Run.sub {o : Nat} (h : Run l xs l') (ho : o ≤ l.pos) :
    Run ⟨l.rest, l.pos - o, l.finished⟩ (xs.map (Token.mapPos (· - o)))
      ⟨l'.rest, l'.pos - o, l'.finished⟩ := by
  induction h with
  | refl => exact .refl _
  | step hs _ ih =>
    obtain ⟨B, -, hp, -⟩ := step_consumes hs
    exact .step (step_sub hs ho) (ih (by omega))

/-! ### Scanning a stretch on its own -/

theorem skipTrivia_skipTrivia (cs : List Char) : skipTrivia (skipTrivia cs) = skipTrivia cs := by
  fun_induction skipTrivia cs with
  | case1 => rw [skipTrivia]
  | case2 _ _ _ ih | case3 _ _ ih => exact ih
  | case4 c cs h1 h2 => rw [skipTrivia, if_neg h1, if_neg h2]

theorem triviaBytes_skipTrivia (cs : List Char) : triviaBytes (skipTrivia cs) = 0 := by
  fun_induction skipTrivia cs with
  | case1 => rw [triviaBytes]
  | case2 _ _ _ ih | case3 _ _ ih => exact ih
  | case4 c cs h1 h2 => rw [triviaBytes, if_neg h1, if_neg h2]

theorem step_settle (h : skipTrivia l.rest ≠ []) :
    (⟨skipTrivia l.rest, l.pos + triviaBytes l.rest, false⟩ : Lexer).step = l.step := by
  obtain ⟨c, cs, hcs⟩ := List.exists_cons_of_ne_nil h
  simp only [step, skipTrivia_skipTrivia, triviaBytes_skipTrivia, Nat.add_zero]
  rw [hcs]

theorem step_of_append {X C R : List Char} {p : Nat} {b : Bool}
    (h : step ⟨X ++ C, p, b⟩ = some (t, ⟨R ++ C, t.stop, false⟩)) (ht : t.kind ≠ .eof) :
    step ⟨X, p, b⟩ = some (t, ⟨R, t.stop, false⟩) := by
  rcases step_eq_some h with ⟨-, -, rfl, -⟩ | ⟨c, cs, hcs, hscan, -⟩
  · exact absurd rfl ht
  dsimp only at hcs hscan
  -- the token and what is left of the text lie inside the text
  obtain ⟨w, hw, hcw, -, -⟩ := scanToken_consumes (p + triviaBytes (X ++ C)) c cs
  rw [hscan] at hcw
  obtain ⟨c', w', rfl⟩ := List.exists_cons_of_ne_nil hw
  rw [List.cons_append, List.cons.injEq] at hcw
  obtain ⟨rfl, rfl⟩ := hcw
  have hZ : skipTrivia (X ++ C) = (c :: (w' ++ R)) ++ C := by
    rw [hcs, List.cons_append, List.append_assoc]
  rw [← List.append_assoc] at hscan
  simp only [step, skipTrivia_of_append hZ (List.cons_ne_nil _ _),
    ← triviaBytes_of_append hZ (List.cons_ne_nil _ _), scanToken_of_append hscan]

theorem Run.finished_eq {x : Token} (h : Run l (x :: xs) l')
    (hxs : ∀ t ∈ x :: xs, t.kind ≠ .eof) : l'.finished = false := by
  induction xs generalizing l x with
  | nil =>
    cases h with
    | step hs hr =>
      cases hr
      rcases step_eq_some hs with ⟨-, -, rfl, -⟩ | ⟨-, -, -, -, hl'⟩
      · exact absurd rfl (hxs _ (List.mem_cons_self ..))
      · rw [hl']
  | cons y ys ih =>
    cases h with
    | step hs hr => exact ih hr fun t ht => hxs t (List.mem_cons_of_mem _ ht)

/-- A run that gives no end token and ends where some text begins runs the same on the text
before it, and ends at the end of that text. -/
theorem Run.of_append {X C : List Char} {p q : Nat} {b : Bool}
    (h : Run ⟨X ++ C, p, b⟩ xs ⟨C, q, false⟩) (hxs : ∀ t ∈ xs, t.kind ≠ .eof) :
    Run ⟨X, p, b⟩ xs ⟨[], q, false⟩ := by
  generalize hl : (⟨X ++ C, p, b⟩ : Lexer) = l at h
  generalize hl' : (⟨C, q, false⟩ : Lexer) = l' at h
  induction h generalizing X p b with
  | refl l =>
    subst hl
    simp only [Lexer.mk.injEq] at hl'
    obtain ⟨hX, rfl, rfl⟩ := hl'
    obtain rfl : X = [] := by simpa using hX
    exact .refl _
  | @step l l1 l2 t ts hs hr ih =>
    subst hl hl'
    obtain ⟨B, hB, -⟩ := hr.consumes
    have ht := hxs t (List.mem_cons_self ..)
    -- the step scanned a token, so it left a state at the token's end
    have hl1 : l1 = ⟨B ++ C, t.stop, false⟩ := by
      rcases step_eq_some hs with ⟨-, -, rfl, -⟩ | ⟨-, -, -, -, hl'⟩
      · exact absurd rfl ht
      · rw [hl', hB]
    subst hl1
    exact .step (step_of_append hs ht)
      (ih (fun t' ht' => hxs t' (List.mem_cons_of_mem _ ht')) rfl rfl)

/-- The text a run passed over, from its first token to the end of its last, scans on its own to
the run's tokens moved to start at zero, then the end token. -/
theorem Run.tokens_slice {x : Token} (h : Run l (x :: xs) l')
    (hxs : ∀ t ∈ x :: xs, t.kind ≠ .eof) :
    ∃ T B, l.rest = T ++ B ++ l'.rest ∧ x.offset = l.pos + utf8Length T ∧
      l'.pos = x.offset + utf8Length B ∧
      (Lexer.start (String.ofList B)).tokens =
        (x :: xs).map (Token.mapPos (· - x.offset)) ++ [mkToken .eof [] [] (utf8Length B)] := by
  have hfin := h.finished_eq hxs
  cases h with
  | @step _ l1 _ _ _ hs hr =>
  obtain ⟨T, hT, hTb⟩ := exists_trivia l.rest
  rcases step_eq_some hs with ⟨-, -, rfl, -⟩ | ⟨c, cs, hcs, hscan, -⟩
  · exact absurd rfl (hxs _ (List.mem_cons_self ..))
  have hoff : x.offset = l.pos + triviaBytes l.rest := by
    obtain ⟨-, -, -, hoff, -⟩ := scanToken_consumes (l.pos + triviaBytes l.rest) c cs
    rwa [hscan] at hoff
  -- the run from the first token on
  have hrun : Run ⟨skipTrivia l.rest, x.offset, false⟩ (x :: xs) l' := by
    refine .step ?_ hr
    rw [hoff, step_settle (by rw [hcs]; exact List.cons_ne_nil _ _), hs]
  obtain ⟨B, hB, hpos⟩ := hrun.consumes
  dsimp only at hB hpos
  have hl' : l' = ⟨l'.rest, l'.pos, false⟩ := by
    rw [← hfin]
  rw [hB, hl'] at hrun
  have hslice := (hrun.of_append hxs).sub (Nat.le_refl x.offset)
  rw [Nat.sub_self, show l'.pos - x.offset = utf8Length B by omega] at hslice
  refine ⟨T, B, by rw [hT, hB, List.append_assoc], by rw [hoff, hTb], hpos, ?_⟩
  simp only [start, String.toList_ofList]
  rw [hslice.tokens, tokens_end]

end Lexer

end Xtql.Edn
