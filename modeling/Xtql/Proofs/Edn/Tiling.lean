import Xtql.Proofs.Edn.FormSpans
import Xtql.Proofs.Text.Positions

/-!
The tokens of a text, with the blanks and comments before each, tile it exactly
(`tokenize_tiles_input`).
-/

namespace Xtql.Edn

open Xtql.Text

/-- Blanks and comments, with `after` following them. A comment runs from `;` up to a newline or
the end of the text. -/
inductive Trivia : List Char → List Char → Prop
  | nil (after : List Char) : Trivia [] after
  | blank {c : Char} {G after : List Char} (hc : isBlank c = true) (h : Trivia G after) :
      Trivia (c :: G) after
  | comment {body G after : List Char} (hbody : ∀ x ∈ body, x ≠ '\n')
      (hend : ∀ x ∈ (G ++ after).head?, x = '\n') (h : Trivia G after) :
      Trivia (';' :: body ++ G) after

/-- The text a token was scanned from: what it displays, but an open string has no closing
quote. -/
def Token.written (t : Token) : List Char :=
  if t.kind = .unterminatedString then '"' :: t.text.toList else t.display.toList

/-- The text `R`, from byte `p` on, is tiled by the tokens `ts`: blanks and comments, then the text
of a token where the token stands, token after token, up to the end token after the last blanks. -/
inductive Tiles : Nat → List Char → List Token → Prop
  | last {p : Nat} {G : List Char} (h : Trivia G []) :
      Tiles p G [⟨.eof, "", p + utf8Length G, p + utf8Length G⟩]
  | next {p : Nat} {G R : List Char} {t : Token} {ts : List Token} (hk : t.kind ≠ .eof)
      (hne : t.written ≠ []) (hG : Trivia G (t.written ++ R)) (hoff : t.offset = p + utf8Length G)
      (hstop : t.stop = t.offset + utf8Length t.written) (h : Tiles t.stop R ts) :
      Tiles p (G ++ t.written ++ R) (t :: ts)

/-! ### Blanks and comments -/

theorem trivia_skipTrivia (cs : List Char) :
    ∃ G, cs = G ++ skipTrivia cs ∧ Trivia G (skipTrivia cs) := by
  fun_induction skipTrivia cs with
  | case1 => exact ⟨[], rfl, .nil _⟩
  | case2 c cs hc ih =>
    obtain ⟨G, hG, hT⟩ := ih
    exact ⟨c :: G, by rw [List.cons_append, ← hG], .blank hc hT⟩
  | case3 cs _ ih =>
    obtain ⟨G, hG, hT⟩ := ih
    refine ⟨';' :: cs.takeWhile (· != '\n') ++ G, ?_, .comment ?_ ?_ hT⟩
    · simp only [List.cons_append, List.append_assoc]
      rw [← hG, List.takeWhile_append_dropWhile]
    · intro x hx
      simpa using List.mem_takeWhile_imp hx
    · -- the comment stops at the first newline, or at the end of the text
      intro x hx
      rw [← hG] at hx
      have := List.head?_dropWhile_not (· != '\n') cs
      rw [hx] at this
      simpa using this
  | case4 => exact ⟨[], rfl, .nil _⟩

theorem exists_trivia_bytes (cs : List Char) :
    ∃ G, cs = G ++ skipTrivia cs ∧ utf8Length G = triviaBytes cs ∧ Trivia G (skipTrivia cs) := by
  obtain ⟨G, hG, hT⟩ := trivia_skipTrivia cs
  obtain ⟨T, hT', hb⟩ := exists_trivia cs
  obtain rfl : T = G := List.append_cancel_right (hT'.symm.trans hG)
  exact ⟨T, hG, hb, hT⟩

/-! ### What a token was scanned from -/

theorem scanDispatch_written (p : Nat) (cs : List Char) :
    '#' :: cs = (scanDispatch p cs).1.written ++ (scanDispatch p cs).2 := by
  unfold scanDispatch
  split
  · simp [Token.written, Token.display, mkToken]
  next r =>
    have hr := spanName_append r
    dsimp only
    split
    next ns' r' _ hrest =>
      conv => lhs; rw [← hr]
      simp [Token.written, Token.display, mkToken, hrest]
    next =>
      conv => lhs; rw [← hr]
      simp [Token.written, Token.display, mkToken]
  · simp [Token.written, Token.display, mkToken]
  next c r _ _ _ =>
    split
    · simp [Token.written, Token.display, mkToken, spanName_append]
    · simp [Token.written, Token.display, mkToken]
  · simp [Token.written, Token.display, mkToken]

theorem scanPrefixed_written {k : TokenKind} {sigil : Char}
    (hk : k = .keyword ∧ sigil = ':' ∨ k = .param ∧ sigil = '$') (p : Nat) (cs : List Char) :
    sigil :: cs = (scanPrefixed k sigil p cs).1.written ++ (scanPrefixed k sigil p cs).2 := by
  unfold scanPrefixed
  dsimp only
  split
  · simp [Token.written, Token.display, mkToken]
  · rcases hk with ⟨rfl, rfl⟩ | ⟨rfl, rfl⟩
    · simp [Token.written, Token.display, mkToken, spanName_append]
    · simp [Token.written, Token.display, mkToken, spanName_append]

theorem word_kind {k : TokenKind} {text : List Char} (hk : k = numberKind text ∨ k = nameKind text) :
    k = .integer ∨ k = .float ∨ k = .unknown ∨ k = .trueLit ∨ k = .falseLit ∨ k = .nilLit ∨
      k = .symbol := by
  rcases hk with rfl | rfl
  · simp only [numberKind]
    split_ifs <;> simp
  · unfold nameKind
    split_ifs <;> simp

theorem written_word {k : TokenKind} {text w : List Char} {p : Nat}
    (hk : k = numberKind text ∨ k = nameKind text) : (mkToken k text w p).written = text := by
  rcases word_kind hk with rfl | rfl | rfl | rfl | rfl | rfl | rfl <;>
    simp [Token.written, Token.display, mkToken]

theorem scanToken_written (p : Nat) (c : Char) (cs : List Char) :
    c :: cs = (scanToken p c cs).1.written ++ (scanToken p c cs).2 := by
  unfold scanToken
  split
  case h_7 =>
    have hs := scanStringBody_append cs
    rcases hb : scanStringBody cs with ⟨body, closed, rest⟩
    rw [hb] at hs
    dsimp only at hs ⊢
    split
    next hc => simp [Token.written, Token.display, mkToken, ← hs, hc]
    next hc => simp [Token.written, mkToken, ← hs, hc]
  case h_8 => exact scanDispatch_written p cs
  case h_9 => exact scanPrefixed_written (.inl ⟨rfl, rfl⟩) p cs
  case h_10 => exact scanPrefixed_written (.inr ⟨rfl, rfl⟩) p cs
  case h_11 =>
    split
    · rw [written_word (by split <;> simp)]
      simp [spanName_append]
    · simp [Token.written, Token.display, mkToken]
  all_goals simp [Token.written, Token.display, mkToken]

/-! ### A tiling and what it says -/

namespace Tiles

variable {p : Nat} {R : List Char} {ts : List Token}

theorem eof_last (h : Tiles p R ts) :
    ∃ A, ts = A ++ [⟨.eof, "", p + utf8Length R, p + utf8Length R⟩] ∧ ∀ t ∈ A, t.kind ≠ .eof := by
  induction h with
  | last => exact ⟨[], rfl, by simp⟩
  | @next p G R t ts hk _ _ hoff hstop _ ih =>
    obtain ⟨A, rfl, hA⟩ := ih
    refine ⟨t :: A, ?_, ?_⟩
    · rw [List.cons_append, hstop, hoff, utf8Length_append, utf8Length_append, Nat.add_assoc,
        Nat.add_assoc, Nat.add_assoc]
    · exact List.forall_mem_cons.2 ⟨hk, hA⟩

theorem length_le (h : Tiles p R ts) : ts.length ≤ utf8Length R + 1 := by
  induction h with
  | last => simp
  | next _ hne _ _ _ _ ih =>
    have := utf8Length_pos hne
    rw [List.length_cons, utf8Length_append, utf8Length_append]
    omega

theorem isChain (h : Tiles p R ts) :
    ∃ u us, ts = u :: us ∧ p ≤ u.offset ∧
      (u :: us).IsChain fun a b => a.offset < a.stop ∧ a.stop ≤ b.offset := by
  induction h with
  | last => exact ⟨_, [], rfl, Nat.le_add_right _ _, .singleton _⟩
  | @next p G R t ts _ hne _ hoff hstop _ ih =>
    obtain ⟨u, us, rfl, hu, hc⟩ := ih
    have := utf8Length_pos hne
    exact ⟨t, u :: us, rfl, by omega, .cons_cons ⟨by omega, hu⟩ hc⟩

theorem slices (h : Tiles p R ts) :
    ∀ t ∈ ts, ∃ P Q, R = P ++ t.written ++ Q ∧ t.offset = p + utf8Length P ∧
      t.stop = t.offset + utf8Length t.written := by
  induction h with
  | @last p G _ =>
    intro t ht
    obtain rfl := List.mem_singleton.1 ht
    exact ⟨G, [], by simp [Token.written, Token.display], rfl, by simp [Token.written, Token.display]⟩
  | @next p G R t ts _ _ _ hoff hstop _ ih =>
    intro u hu
    rcases List.mem_cons.1 hu with rfl | hu
    · exact ⟨G, R, rfl, hoff, hstop⟩
    · obtain ⟨P, Q, rfl, huoff, hustop⟩ := ih u hu
      refine ⟨G ++ t.written ++ P, Q, by simp only [List.append_assoc], ?_, hustop⟩
      rw [huoff, hstop, hoff, utf8Length_append, utf8Length_append]
      omega

end Tiles

theorem mkToken_eof (q : Nat) : mkToken .eof [] [] q = ⟨.eof, "", q, q⟩ := by
  simp [mkToken]

namespace Lexer

/-- From a state that has not given the end token, the tokens tile the unread text. -/
theorem tiles_tokens (rest : List Char) (pos : Nat) :
    Tiles pos rest (⟨rest, pos, false⟩ : Lexer).tokens := by
  obtain ⟨G, hG, hGb, hT⟩ := exists_trivia_bytes rest
  cases hs : skipTrivia rest with
  | nil =>
    -- only blanks and comments are left: then the end token, at the end of the text
    have hstep : step ⟨rest, pos, false⟩ =
        some (mkToken .eof [] [] (pos + utf8Length rest), ⟨[], pos + utf8Length rest, true⟩) := by
      simp only [step, hs, triviaBytes_of_skipTrivia_nil hs]
      rfl
    rw [tokens_of_step hstep, tokens_of_step_none (step_eof hstep rfl), mkToken_eof]
    rw [hs, List.append_nil] at hG
    rw [hs] at hT
    rw [hG]
    exact .last hT
  | cons c cs =>
    obtain ⟨t, rest', hsc⟩ : ∃ t rest', scanToken (pos + triviaBytes rest) c cs = (t, rest') :=
      ⟨_, _, rfl⟩
    have hstep : step ⟨rest, pos, false⟩ = some (t, ⟨rest', t.stop, false⟩) := by
      simp only [step, hs, hsc]
    have hw := scanToken_written (pos + triviaBytes rest) c cs
    obtain ⟨w, hne, hcw, hoff, hstop⟩ := scanToken_consumes (pos + triviaBytes rest) c cs
    rw [hsc] at hw hcw hoff hstop
    dsimp only at hw hcw hoff hstop
    obtain rfl : w = t.written := List.append_cancel_right (hcw.symm.trans hw)
    have hlt : rest'.length < rest.length := by
      have h1 := length_scanToken_le (pos + triviaBytes rest) c cs
      have h2 := length_skipTrivia_le rest
      rw [hsc] at h1
      rw [hs, List.length_cons] at h2
      dsimp only at h1
      omega
    have hk : t.kind ≠ .eof := by
      have := scanToken_kind_ne_eof (pos + triviaBytes rest) c cs
      rwa [hsc] at this
    have key : Tiles pos (G ++ t.written ++ rest') (t :: (⟨rest', t.stop, false⟩ : Lexer).tokens) :=
      .next hk hne (by rw [← hw, ← hs]; exact hT) (by rw [hoff, hGb]) (by rw [hoff]; exact hstop)
        (tiles_tokens rest' t.stop)
    rw [tokens_of_step hstep, hG, hs, hw, ← List.append_assoc]
    exact key
termination_by rest.length
decreasing_by all_goals omega

end Lexer

theorem tokenize_tiles (s : String) : Tiles 0 s.toList (tokenize s) :=
  Lexer.tiles_tokens s.toList 0

theorem tokenize_length_le (s : String) : (tokenize s).length ≤ s.utf8ByteSize + 1 := by
  rw [utf8ByteSize_eq_utf8Length]
  exact (tokenize_tiles s).length_le

theorem step_eq_none_of_tokens {l : Lexer} (h : l.tokens = []) : l.step = none := by
  cases hs : l.step with
  | none => rfl
  | some q =>
    obtain ⟨t, l'⟩ := q
    rw [Lexer.tokens_of_step hs] at h
    cases h

theorem written_display {t : Token} (ht : t.kind ≠ .unterminatedString) :
    String.ofList t.written = t.display := by
  rw [Token.written, if_neg ht, String.ofList_toList]

/-- The scanner tiles its input. Its tokens end, with nothing after the end token, which is the
only one and stands at the end of the text; there are at most one more of them than the text has
bytes. Each token but the end covers a byte or more and ends where the next begins, or before.
Between tokens the scanner stands at a character boundary with the rest of the text unread, and
each token starts and ends at a boundary and covers the text it displays, or an open string its
quote and its text. Blanks and comments fill what lies before and between the tokens, so together
with the tokens' texts they make up the text. -/
theorem tokenize_tiles_input (s : String) :
    (∃ l, Lexer.Run (Lexer.start s) (tokenize s) l ∧ l.step = none) ∧
    (tokenize s).length ≤ s.utf8ByteSize + 1 ∧
    (∃ A, tokenize s = A ++ [⟨.eof, "", s.utf8ByteSize, s.utf8ByteSize⟩] ∧
      ∀ t ∈ A, t.kind ≠ .eof) ∧
    (∀ i (h : i + 1 < (tokenize s).length), (tokenize s)[i].offset < (tokenize s)[i].stop ∧
      (tokenize s)[i].stop ≤ (tokenize s)[i + 1].offset) ∧
    (∀ xs ys, tokenize s = xs ++ ys → ∃ l, Lexer.Run (Lexer.start s) xs l ∧
      (⟨l.pos⟩ : String.Pos.Raw).IsValid s ∧ ∃ P, s.toList = P ++ l.rest ∧ utf8Length P = l.pos) ∧
    (∀ t ∈ tokenize s, (⟨t.offset⟩ : String.Pos.Raw).IsValid s ∧
      (⟨t.stop⟩ : String.Pos.Raw).IsValid s ∧
      ∃ P W Q, s.toList = P ++ W ++ Q ∧ utf8Length P = t.offset ∧ utf8Length (P ++ W) = t.stop ∧
        (t.kind ≠ .unterminatedString → String.ofList W = t.display) ∧
        (t.kind = .unterminatedString → W = '"' :: t.text.toList)) ∧
    Tiles 0 s.toList (tokenize s) := by
  have htiles := tokenize_tiles s
  have hsize := utf8ByteSize_eq_utf8Length s
  refine ⟨?_, tokenize_length_le s, ?_, ?_, ?_, ?_, htiles⟩
  · obtain ⟨l, hrun, hl⟩ : ∃ l, Lexer.Run (Lexer.start s) (tokenize s) l ∧ l.tokens = [] :=
      Lexer.run_of_tokens (by rw [List.append_nil, tokenize_eq_tokens])
    exact ⟨l, hrun, step_eq_none_of_tokens hl⟩
  · obtain ⟨A, hA, hk⟩ := htiles.eof_last
    rw [Nat.zero_add, ← hsize] at hA
    exact ⟨A, hA, hk⟩
  · obtain ⟨u, us, heq, -, hc⟩ := htiles.isChain
    rw [← heq] at hc
    exact List.isChain_iff_getElem.1 hc
  · intro xs ys h
    obtain ⟨l, hrun, -⟩ := Lexer.run_of_tokens (by rw [← tokenize_eq_tokens]; exact h)
    obtain ⟨B, hB, hpos⟩ := hrun.consumes
    rw [Lexer.start, Nat.zero_add] at hpos
    exact ⟨l, hrun, isValid_iff_split.2 ⟨B, l.rest, hB, hpos.symm⟩, B, hB, hpos.symm⟩
  · intro t ht
    obtain ⟨P, Q, hs, hoff, hstop⟩ := htiles.slices t ht
    rw [Nat.zero_add] at hoff
    have hlen : utf8Length (P ++ t.written) = t.stop := by rw [utf8Length_append, hstop, hoff]
    refine ⟨isValid_iff_split.2 ⟨P, t.written ++ Q, by rw [hs, List.append_assoc], hoff.symm⟩,
      isValid_iff_split.2 ⟨P ++ t.written, Q, hs, hlen⟩, P, t.written, Q, hs, hoff.symm, hlen,
      written_display, fun hu => by rw [Token.written, if_pos hu]⟩

end Xtql.Edn
