import Xtql.Proofs.Edn.LexPrint

/-!
Where tokens stand: every token but the end token is a scan of the text at the byte where it
stands.
-/

namespace Xtql.Edn

open Xtql.Text

/-! ### What one scan consumes -/

/-- A scan at byte `p` of the text `cs` gave the token `t` and left `rest`: the token covers the
nonempty text it consumed, which `rest` follows. -/
def Consumes (p : Nat) (cs : List Char) (t : Token) (rest : List Char) : Prop :=
  ∃ w, w ≠ [] ∧ cs = w ++ rest ∧ t.offset = p ∧ t.stop = p + utf8Length w

theorem consumes_mkToken {p : Nat} {cs w rest : List Char} (k : TokenKind) (text : List Char)
    (hw : w ≠ []) (hcs : cs = w ++ rest) : Consumes p cs (mkToken k text w p) rest :=
  ⟨w, hw, hcs, rfl, rfl⟩

theorem scanStringBody_append (cs : List Char) :
    (scanStringBody cs).1 ++ (if (scanStringBody cs).2.1 then '"' :: (scanStringBody cs).2.2
      else (scanStringBody cs).2.2) = cs := by
  fun_induction scanStringBody cs with
  | case1 | case2 | case3 => rfl
  | case4 c cs body closed rest h ih | case5 c cs _ _ _ body closed rest h ih =>
    rw [h] at ih
    dsimp only at ih ⊢
    simp only [List.cons_append, ih]

theorem scanDispatch_consumes (p : Nat) (cs : List Char) :
    Consumes p ('#' :: cs) (scanDispatch p cs).1 (scanDispatch p cs).2 := by
  unfold scanDispatch
  split
  · exact consumes_mkToken _ _ (by simp) rfl
  next r =>
    have hr := spanName_append r
    dsimp only
    split
    next ns' r' _ hrest =>
      refine consumes_mkToken _ _ (by simp) ?_
      conv => lhs; rw [← hr]
      simp [hrest]
    next =>
      refine consumes_mkToken _ _ (by simp) ?_
      conv => lhs; rw [← hr]
      simp
  · exact consumes_mkToken _ _ (by simp) rfl
  next c r _ _ _ =>
    split
    · exact consumes_mkToken _ _ (by simp) (by simp [spanName_append])
    · exact consumes_mkToken _ _ (by simp) rfl
  · exact consumes_mkToken _ _ (by simp) rfl

theorem scanDispatch_kind_isAtom (pos : Nat) (cs : List Char) :
    (scanDispatch pos cs).1.kind.isAtom = false := by
  unfold scanDispatch
  split
  any_goals rfl
  · dsimp only
    split <;> rfl
  · split <;> rfl

theorem scanPrefixed_consumes (k : TokenKind) (sigil : Char) (p : Nat) (cs : List Char) :
    Consumes p (sigil :: cs) (scanPrefixed k sigil p cs).1 (scanPrefixed k sigil p cs).2 := by
  unfold scanPrefixed
  dsimp only
  split
  · exact consumes_mkToken _ _ (by simp) rfl
  · exact consumes_mkToken _ _ (by simp) (by simp [spanName_append])

theorem scanToken_consumes (p : Nat) (c : Char) (cs : List Char) :
    Consumes p (c :: cs) (scanToken p c cs).1 (scanToken p c cs).2 := by
  unfold scanToken
  split
  case h_7 =>
    have hs := scanStringBody_append cs
    rcases hb : scanStringBody cs with ⟨body, closed, rest⟩
    rw [hb] at hs
    dsimp only at hs ⊢
    split
    next hc => exact consumes_mkToken _ _ (by simp) (by simp [← hs, hc])
    next hc => exact consumes_mkToken _ _ (by simp) (by simp [← hs, hc])
  case h_8 => exact scanDispatch_consumes p cs
  case h_9 => exact scanPrefixed_consumes _ _ p cs
  case h_10 => exact scanPrefixed_consumes _ _ p cs
  case h_11 =>
    split
    · exact consumes_mkToken _ _ (by simp) (by simp [spanName_append])
    · exact consumes_mkToken _ _ (by simp) rfl
  all_goals exact consumes_mkToken _ _ (by simp) rfl

theorem utf8Length_pos {w : List Char} (hw : w ≠ []) : 0 < utf8Length w := by
  obtain ⟨c, cs, rfl⟩ := List.exists_cons_of_ne_nil hw
  have := Char.utf8Size_pos c
  simp only [utf8Length_cons]
  omega

theorem utf8ByteSize_eq_utf8Length (s : String) : s.utf8ByteSize = utf8Length s.toList := by
  suffices h : ∀ l : List Char, (String.ofList l).utf8ByteSize = utf8Length l by
    rw [← h, String.ofList_toList]
  intro l
  induction l with
  | nil => rfl
  | cons c l ih => rw [String.ofList_cons, String.utf8ByteSize_append,
      String.utf8ByteSize_singleton, ih, utf8Length_cons]

theorem exists_trivia (cs : List Char) :
    ∃ T, cs = T ++ skipTrivia cs ∧ utf8Length T = triviaBytes cs := by
  obtain ⟨T, hT⟩ := skipTrivia_suffix cs
  have h1 := triviaBytes_add_utf8Length cs
  have h2 : utf8Length cs = utf8Length T + utf8Length (skipTrivia cs) := by
    rw [← utf8Length_append, hT]
  exact ⟨T, hT.symm, by omega⟩

namespace Lexer

variable {l l' l'' : Lexer} {t : Token} {xs ys : List Token}

/-! ### One step -/

/-- What one step does: at the end of the text it gives the end token once; anywhere else it
passes over blanks and comments and scans one token from where they end. -/
theorem step_eq_some (h : l.step = some (t, l')) :
    (skipTrivia l.rest = [] ∧ l.finished = false ∧
      t = mkToken .eof [] [] (l.pos + triviaBytes l.rest) ∧ l' = ⟨[], t.stop, true⟩) ∨
    (∃ c cs, skipTrivia l.rest = c :: cs ∧
      scanToken (l.pos + triviaBytes l.rest) c cs = (t, l'.rest) ∧
      l' = ⟨l'.rest, t.stop, false⟩) := by
  simp only [step] at h
  split at h
  next heq =>
    split at h
    · cases h
    next hf =>
      simp only [Option.some.injEq, Prod.mk.injEq] at h
      obtain ⟨rfl, rfl⟩ := h
      exact .inl ⟨heq, by simpa using hf, rfl, by simp [mkToken]⟩
  next c cs heq =>
    simp only [Option.some.injEq, Prod.mk.injEq] at h
    obtain ⟨rfl, rfl⟩ := h
    exact .inr ⟨c, cs, heq, rfl, rfl⟩

/-- One step passes over a stretch of text and moves the position by its bytes. The token lies
in that stretch and ends where the new state starts; only the end token is empty. -/
theorem step_consumes (h : l.step = some (t, l')) :
    ∃ B, l.rest = B ++ l'.rest ∧ l'.pos = l.pos + utf8Length B ∧ l.pos ≤ t.offset ∧
      t.offset ≤ t.stop ∧ t.stop = l'.pos ∧ (t.kind ≠ .eof → t.offset < t.stop) := by
  obtain ⟨T, hT, hTb⟩ := exists_trivia l.rest
  rcases step_eq_some h with ⟨hnil, -, rfl, rfl⟩ | ⟨c, cs, hcs, hscan, hl'⟩
  · rw [hnil, List.append_nil] at hT
    refine ⟨T, by simpa using hT, ?_, ?_⟩ <;> simp [mkToken, hTb]
  · obtain ⟨w, hw, hcw, hoff, hstop⟩ := scanToken_consumes (l.pos + triviaBytes l.rest) c cs
    rw [hscan] at hcw hoff hstop
    dsimp only at hcw hoff hstop
    have hpos := utf8Length_pos hw
    refine ⟨T ++ w, ?_, ?_, ?_⟩
    · rw [hT, hcs, hcw, List.append_assoc]
    · rw [hl', utf8Length_append]
      dsimp only
      omega
    · rw [hl']
      dsimp only
      omega

/-! ### Runs -/

/-- The scanner goes from `l` to `l'` giving the tokens `ts`. -/
inductive Run : Lexer → List Token → Lexer → Prop
  | refl (l : Lexer) : Run l [] l
  | step {l l' l'' : Lexer} {t : Token} {ts : List Token} (h : l.step = some (t, l'))
      (hr : Run l' ts l'') : Run l (t :: ts) l''

theorem Run.tokens (h : Run l xs l') : l.tokens = xs ++ l'.tokens := by
  induction h with
  | refl => rfl
  | step hs _ ih => rw [tokens_of_step hs, ih, List.cons_append]

theorem Run.append (h1 : Run l xs l') (h2 : Run l' ys l'') : Run l (xs ++ ys) l'' := by
  induction h1 with
  | refl => exact h2
  | step hs _ ih => exact .step hs (ih h2)

theorem step_of_tokens (h : l.tokens = t :: xs) : ∃ l', l.step = some (t, l') ∧ l'.tokens = xs := by
  rw [tokens, tokensFrom] at h
  split at h
  · cases h
  next t' l1 hs =>
    simp only [List.map_cons, List.cons.injEq] at h
    exact ⟨l1, h.1 ▸ hs, h.2⟩

theorem run_of_tokens (h : l.tokens = xs ++ ys) : ∃ l', Run l xs l' ∧ l'.tokens = ys := by
  induction xs generalizing l with
  | nil => exact ⟨l, .refl l, h⟩
  | cons x xs ih =>
    obtain ⟨l1, hs, h1⟩ := step_of_tokens h
    obtain ⟨l', hr, h'⟩ := ih h1
    exact ⟨l', .step hs hr, h'⟩

theorem Run.consumes (h : Run l xs l') :
    ∃ B, l.rest = B ++ l'.rest ∧ l'.pos = l.pos + utf8Length B := by
  induction h with
  | refl l => exact ⟨[], rfl, rfl⟩
  | step hs _ ih =>
    obtain ⟨B1, h1, hp1, -⟩ := step_consumes hs
    obtain ⟨B2, h2, hp2⟩ := ih
    refine ⟨B1 ++ B2, by rw [h1, h2, List.append_assoc], ?_⟩
    rw [hp2, hp1, utf8Length_append, Nat.add_assoc]

end Lexer

theorem scanned_of_mem_tokenize {s : String} {t : Token} (ht : t ∈ tokenize s)
    (hk : t.kind ≠ .eof) :
    ∃ P c cs, s.toList = P ++ c :: cs ∧ (scanToken (utf8Length P) c cs).1 = t := by
  rw [tokenize_eq_tokens] at ht
  obtain ⟨as, bs, hts⟩ := List.append_of_mem ht
  obtain ⟨l, hrun, hl⟩ := Lexer.run_of_tokens hts
  obtain ⟨l', hstep, -⟩ := Lexer.step_of_tokens hl
  obtain ⟨B, hB, hpos⟩ := hrun.consumes
  obtain ⟨T, hT, hTb⟩ := exists_trivia l.rest
  rcases Lexer.step_eq_some hstep with ⟨-, -, rfl, -⟩ | ⟨c, cs, hcs, hscan, -⟩
  · exact absurd rfl hk
  refine ⟨B ++ T, c, cs, ?_, ?_⟩
  · rw [List.append_assoc, ← hcs, ← hT]
    exact hB
  · have hB0 : l.pos = utf8Length B := by rw [hpos, Lexer.start, Nat.zero_add]
    rw [utf8Length_append, hTb, ← hB0, hscan]

end Xtql.Edn
