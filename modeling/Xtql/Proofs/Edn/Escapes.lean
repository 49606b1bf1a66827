import Mathlib.Data.Nat.Digits.Defs
import Mathlib.Data.List.Forall2
import Mathlib.Tactic.IntervalCases
import Xtql.Proofs.Edn.ReadErrors
import Xtql.Proofs.Edn.TokenStream

/-!
String escapes against a reference decoder: decoding succeeds exactly on runs of escape units
and otherwise fails at the first backslash that starts none (`unescape_reference`).
-/

namespace Xtql.Edn

open Xtql.Text

/-! ### Units of string text -/

def HexDigit (c : Char) (n : Nat) : Prop :=
  n < 16 ∧ (c = n.digitChar ∨ c = n.digitChar.toUpper)

instance (c : Char) (n : Nat) : Decidable (HexDigit c n) :=
  inferInstanceAs (Decidable (_ ∧ _))

theorem toNat_bounds_of_le {a b c : Char} (h : a ≤ c ∧ c ≤ b) :
    a.toNat ≤ c.toNat ∧ c.toNat ≤ b.toNat := by
  simpa only [Char.le_def, UInt32.le_iff_toNat_le, Char.toNat_val] using h

theorem hexDigit_of_value {c : Char} {n : Nat} (h : hexDigitValue c = some n) : HexDigit c n := by
  unfold hexDigitValue at h
  rw [← Char.ofNat_toNat c]
  -- each of the three ranges holds a few characters, each checked by evaluation
  split_ifs at h <;> cases h
  all_goals
    obtain ⟨hlo, hhi⟩ := toNat_bounds_of_le ‹_ ≤ c ∧ c ≤ _›
    generalize c.toNat = k at hlo hhi ⊢
    simp only [Char.reduceToNat] at hlo hhi ⊢
    interval_cases k <;> decide

theorem value_of_hexDigit {c : Char} {n : Nat} (h : HexDigit c n) : hexDigitValue c = some n := by
  obtain ⟨hn, rfl | rfl⟩ := h <;> interval_cases n <;> decide

theorem hexDigitValue_eq_some_iff {c : Char} {n : Nat} : hexDigitValue c = some n ↔ HexDigit c n :=
  ⟨hexDigit_of_value, value_of_hexDigit⟩

def HexQuad (ds : List Char) (v : Nat) : Prop :=
  ∃ ns : List Nat, List.Forall₂ HexDigit ds ns ∧ ns.length = 4 ∧ v = Nat.ofDigits 16 ns.reverse

theorem hex4Value_eq_some_iff {ds : List Char} {v : Nat} : hex4Value ds = some v ↔ HexQuad ds v := by
  constructor
  · intro h
    unfold hex4Value at h
    split at h
    case h_1 a b c d =>
      simp only [Option.bind_eq_bind, Option.bind_eq_some_iff, Option.some.injEq] at h
      obtain ⟨na, ha, nb, hb, nc, hc, nd, hd, rfl⟩ := h
      refine ⟨[na, nb, nc, nd], ?_, rfl, ?_⟩
      · simp [hexDigit_of_value, ha, hb, hc, hd]
      · simp [Nat.ofDigits]
        ring
    case h_2 => cases h
  · rintro ⟨ns, hds, hlen, rfl⟩
    obtain ⟨na, nb, nc, nd, rfl⟩ := List.length_eq_four.1 hlen
    obtain ⟨a, b, c, d, rfl⟩ := List.length_eq_four.1 (hds.length_eq.trans hlen)
    simp only [List.forall₂_cons, List.forall₂_nil_left_iff, and_true] at hds
    obtain ⟨ha, hb, hc, hd⟩ := hds
    simp only [hex4Value, value_of_hexDigit ha, value_of_hexDigit hb, value_of_hexDigit hc,
      value_of_hexDigit hd, Option.bind_eq_bind, Option.bind_some, Option.some.injEq]
    simp [Nat.ofDigits]
    ring

example : hex4Value ['0', '0', 'e', '9'] = some 0xe9 := by decide

theorem HexDigit.utf8Size {c : Char} {n : Nat} (h : HexDigit c n) : c.utf8Size = 1 := by
  obtain ⟨hn, rfl | rfl⟩ := h <;> interval_cases n <;> decide

theorem HexDigit.ne_backslash {c : Char} {n : Nat} (h : HexDigit c n) : c ≠ '\\' := by
  obtain ⟨hn, rfl | rfl⟩ := h <;> interval_cases n <;> decide

theorem HexQuad.length {ds : List Char} {v : Nat} (h : HexQuad ds v) : ds.length = 4 := by
  obtain ⟨ns, hds, hlen, -⟩ := h
  rw [hds.length_eq, hlen]

theorem HexQuad.utf8Length {ds : List Char} {v : Nat} (h : HexQuad ds v) : utf8Length ds = 4 := by
  obtain ⟨ns, hds, hlen, -⟩ := h
  rw [← hlen, ← hds.length_eq]
  clear hlen
  induction hds with
  | nil => rfl
  | cons hc _ ih => rw [utf8Length_cons, hc.utf8Size, ih, List.length_cons, Nat.add_comm]

/-- One unit of string text and the character it stands for. -/
inductive EscapeUnit : List Char → Char → Prop
  | plain {c : Char} (h : c ≠ '\\') : EscapeUnit [c] c
  | quote : EscapeUnit ['\\', '"'] '"'
  | backslash : EscapeUnit ['\\', '\\'] '\\'
  | slash : EscapeUnit ['\\', '/'] '/'
  | newline : EscapeUnit ['\\', 'n'] '\n'
  | tab : EscapeUnit ['\\', 't'] '\t'
  | carriageReturn : EscapeUnit ['\\', 'r'] '\r'
  | backspace : EscapeUnit ['\\', 'b'] (Char.ofNat 0x8)
  | formFeed : EscapeUnit ['\\', 'f'] (Char.ofNat 0xC)
  | code {ds : List Char} {v : Nat} (hv : HexQuad ds v) (hs : v < 0xD800 ∨ 0xDFFF < v) :
      EscapeUnit ('\\' :: 'u' :: ds) (Char.ofNat v)
  | pair {ds es : List Char} {hi lo : Nat} (hh : HexQuad ds hi) (hl : HexQuad es lo)
      (hhi : 0xD800 ≤ hi ∧ hi ≤ 0xDBFF) (hlo : 0xDC00 ≤ lo ∧ lo ≤ 0xDFFF) :
      EscapeUnit ('\\' :: 'u' :: ds ++ '\\' :: 'u' :: es)
        (Char.ofNat (0x10000 + ((hi - 0xD800) <<< 10) + (lo - 0xDC00)))

/-- `r` is a run of units that stand for the characters `v`. -/
inductive Decodes : List Char → List Char → Prop
  | nil : Decodes [] []
  | cons {u r v : List Char} {c : Char} (hu : EscapeUnit u c) (hr : Decodes r v) :
      Decodes (u ++ r) (c :: v)

theorem lowHalf_of_quad {es : List Char} {lo : Nat} (hl : HexQuad es lo)
    (hlo : 0xDC00 ≤ lo ∧ lo ≤ 0xDFFF) (r : List Char) :
    lowHalf ('\\' :: 'u' :: (es ++ r)) = some (lo, r) := by
  have h4 : hex4Value ((es ++ r).take 4) = some lo := by
    rw [List.take_left' hl.length]
    exact hex4Value_eq_some_iff.2 hl
  have hlow : isLowSurrogate lo = true := by simp [isLowSurrogate]; omega
  simp only [lowHalf, h4, hlow, if_true, List.drop_left' hl.length]

theorem unescapeFrom_unit {u : List Char} {c : Char} (hu : EscapeUnit u c) (o : Nat)
    (r : List Char) : unescapeFrom o (u ++ r) = (c :: ·) <$> unescapeFrom (o + utf8Length u) r := by
  cases hu
  case plain h =>
    rw [List.singleton_append, unescapeFrom.eq_5 _ _ _ h, utf8Length_cons, utf8Length_nil,
      Nat.add_zero]
  case code ds v hv hs =>
    have h4 : hex4Value ((ds ++ r).take 4) = some v := by
      rw [List.take_left' hv.length]
      exact hex4Value_eq_some_iff.2 hv
    have hhi : isHighSurrogate v = false := by simp [isHighSurrogate]; omega
    have hlo : isLowSurrogate v = false := by simp [isLowSurrogate]; omega
    have hlen : utf8Length ('\\' :: 'u' :: ds) = 6 := by
      rw [utf8Length_cons, utf8Length_cons, hv.utf8Length]; rfl
    rw [List.cons_append, List.cons_append, unescapeFrom.eq_3]
    simp only [h4, hhi, hlo, Bool.false_eq_true, if_false, List.drop_left' hv.length, hlen]
  case pair ds es hi lo hh hl hhi hlo =>
    have h4 : hex4Value ((ds ++ '\\' :: 'u' :: (es ++ r)).take 4) = some hi := by
      rw [List.take_left' hh.length]
      exact hex4Value_eq_some_iff.2 hh
    have hhigh : isHighSurrogate hi = true := by simp [isHighSurrogate]; omega
    have hlen : utf8Length ('\\' :: 'u' :: ds ++ '\\' :: 'u' :: es) = 12 := by
      simp only [List.cons_append, utf8Length_cons, utf8Length_append, hh.utf8Length,
        hl.utf8Length]
      rfl
    have hcode : 0x10000 + (hi - 0xD800) * 1024 + (lo - 0xDC00) =
        0x10000 + ((hi - 0xD800) <<< 10) + (lo - 0xDC00) := by
      rw [Nat.shiftLeft_eq]
    simp only [List.cons_append, List.append_assoc] at hlen ⊢
    rw [unescapeFrom.eq_3]
    simp only [h4, hhigh, if_true, hlen]
    split
    next low r' heq =>
      rw [List.drop_left' hh.length, lowHalf_of_quad hl hlo] at heq
      obtain ⟨rfl, rfl⟩ := Prod.mk.inj (Option.some.inj heq).symm
      rw [hcode]
    next heq =>
      rw [List.drop_left' hh.length, lowHalf_of_quad hl hlo] at heq
      cases heq
  all_goals
    simp only [List.cons_append, List.nil_append]
    rw [unescapeFrom.eq_4 _ _ _ (by decide)]
    simp only [simpleEscape]
    rfl

/-! ### Decoding one unit at a time -/

def NoUnitAt (r : List Char) : Prop := ∀ u c rest, EscapeUnit u c → r ≠ u ++ rest

theorem HexQuad.take_append {ds : List Char} {v : Nat} (h : HexQuad ds v) (rest : List Char) :
    hex4Value ((ds ++ rest).take 4) = some v := by
  rw [List.take_left' h.length]
  exact hex4Value_eq_some_iff.2 h

theorem escapeUnit_of_simpleEscape {c d : Char} (h : simpleEscape c = some d) :
    EscapeUnit ['\\', c] d := by
  unfold simpleEscape at h
  split at h <;> cases h
  exacts [.quote, .backslash, .slash, .newline, .tab, .carriageReturn, .backspace, .formFeed]

theorem EscapeUnit.simpleEscape_of_cons {u : List Char} {c y : Char} {r rest : List Char}
    (hu : EscapeUnit u c) (heq : '\\' :: y :: r = u ++ rest) (hy : y ≠ 'u') :
    simpleEscape y = some c := by
  cases hu
  case plain h => exact absurd (List.cons.inj heq).1.symm h
  case code => exact absurd (List.cons.inj (List.cons.inj heq).2).1 hy
  case pair => exact absurd (List.cons.inj (List.cons.inj heq).2).1 hy
  all_goals
    obtain ⟨-, rfl, -⟩ : '\\' = '\\' ∧ y = _ ∧ r = rest := by simpa using heq
    rfl

theorem EscapeUnit.hex_of_cons {u : List Char} {c : Char} {r rest : List Char}
    (hu : EscapeUnit u c) (heq : '\\' :: 'u' :: r = u ++ rest) :
    (∃ ds v, HexQuad ds v ∧ (v < 0xD800 ∨ 0xDFFF < v) ∧ r = ds ++ rest) ∨
      (∃ ds es hi lo, HexQuad ds hi ∧ HexQuad es lo ∧ (0xD800 ≤ hi ∧ hi ≤ 0xDBFF) ∧
        (0xDC00 ≤ lo ∧ lo ≤ 0xDFFF) ∧ r = ds ++ '\\' :: 'u' :: (es ++ rest)) := by
  cases hu
  case plain h => exact absurd (List.cons.inj heq).1.symm h
  case code ds v hv hs =>
    simp only [List.cons_append, List.cons.injEq, true_and] at heq
    exact .inl ⟨ds, v, hv, hs, heq⟩
  case pair ds es hi lo hh hl hhi hlo =>
    simp only [List.cons_append, List.cons.injEq, List.append_assoc, true_and] at heq
    exact .inr ⟨ds, es, hi, lo, hh, hl, hhi, hlo, heq⟩
  all_goals simp at heq

theorem lowHalf_eq_some {cs r' : List Char} {lo : Nat} (h : lowHalf cs = some (lo, r')) :
    ∃ es, HexQuad es lo ∧ (0xDC00 ≤ lo ∧ lo ≤ 0xDFFF) ∧ cs = '\\' :: 'u' :: (es ++ r') := by
  unfold lowHalf at h
  split at h
  next r =>
    split at h
    next lo' h4 =>
      split at h
      next hlow =>
        obtain ⟨rfl, rfl⟩ := Prod.mk.inj (Option.some.inj h)
        refine ⟨r.take 4, hex4Value_eq_some_iff.1 h4, ?_, by rw [List.take_append_drop]⟩
        simp only [isLowSurrogate, Bool.and_eq_true, decide_eq_true_eq] at hlow
        exact hlow
      next => cases h
    next => cases h
  next => cases h

theorem EscapeUnit.ne_nil {u : List Char} {c : Char} (hu : EscapeUnit u c) : u ≠ [] := by
  cases hu <;> simp

theorem noUnitAt_backslash : NoUnitAt ['\\'] := by
  intro u c rest hu heq
  cases hu
  case plain h => exact h (List.cons.inj heq).1.symm
  all_goals simp at heq

/-- One step of decoding: a unit starts the text, or decoding fails right there, at a backslash
that starts no unit. -/
theorem unescapeFrom_step (o : Nat) {r : List Char} (hr : r ≠ []) :
    (∃ u c r', EscapeUnit u c ∧ r = u ++ r') ∨
      ((∃ p, unescapeFrom o r = .error (o, p)) ∧ r.head? = some '\\' ∧ NoUnitAt r) := by
  obtain ⟨x, r, rfl⟩ := List.exists_cons_of_ne_nil hr
  by_cases hx : x = '\\'
  case neg => exact .inl ⟨[x], x, r, .plain hx, rfl⟩
  subst hx
  cases r with
  | nil => exact .inr ⟨⟨_, unescapeFrom.eq_2 o⟩, rfl, noUnitAt_backslash⟩
  | cons y r =>
    by_cases hy : y = 'u'
    case neg =>
      cases hs : simpleEscape y with
      | some d => exact .inl ⟨['\\', y], d, r, escapeUnit_of_simpleEscape hs, rfl⟩
      | none =>
        refine .inr ⟨⟨_, by rw [unescapeFrom.eq_4 _ _ _ hy, hs]⟩, rfl, ?_⟩
        intro u c rest hu heq
        rw [hu.simpleEscape_of_cons heq hy] at hs
        cases hs
    subst hy
    cases h4 : hex4Value (r.take 4) with
    | none =>
      refine .inr ⟨⟨_, by rw [unescapeFrom.eq_3, h4]⟩, rfl, ?_⟩
      intro u c rest hu heq
      rcases hu.hex_of_cons heq with ⟨ds, v, hv, -, rfl⟩ | ⟨ds, es, hi, lo, hh, -, -, -, rfl⟩
      · rw [hv.take_append] at h4; cases h4
      · rw [hh.take_append] at h4; cases h4
    | some high =>
      have hq := hex4Value_eq_some_iff.1 h4
      by_cases hhigh : isHighSurrogate high = true
      · cases hl : lowHalf (r.drop 4) with
        | some q =>
          obtain ⟨lo, r'⟩ := q
          obtain ⟨es, hes, hlo, hdrop⟩ := lowHalf_eq_some hl
          simp only [isHighSurrogate, Bool.and_eq_true, decide_eq_true_eq] at hhigh
          have hsplit : r = r.take 4 ++ '\\' :: 'u' :: (es ++ r') := by
            rw [← hdrop, List.take_append_drop]
          refine .inl ⟨_, _, r', .pair hq hes hhigh hlo, ?_⟩
          conv_lhs => rw [hsplit]
          simp
        | none =>
          refine .inr ⟨⟨EscapeProblem.unpairedSurrogate high, ?_⟩, rfl, ?_⟩
          · rw [unescapeFrom.eq_3]
            simp only [h4, hhigh, if_true]
            split
            next heq => rw [hl] at heq; cases heq
            next => rfl
          · intro u c rest hu heq
            simp only [isHighSurrogate, Bool.and_eq_true, decide_eq_true_eq] at hhigh
            rcases hu.hex_of_cons heq with ⟨ds, v, hv, hs, rfl⟩ |
              ⟨ds, es, hi, lo, hh, hl', -, hlo, rfl⟩
            · rw [hv.take_append] at h4
              cases h4
              omega
            · rw [List.drop_left' hh.length, lowHalf_of_quad hl' hlo] at hl
              cases hl
      · by_cases hlow : isLowSurrogate high = true
        · refine .inr ⟨⟨EscapeProblem.unpairedSurrogate high, ?_⟩, rfl, ?_⟩
          · rw [unescapeFrom.eq_3]
            simp only [h4, hhigh, hlow, Bool.false_eq_true, if_false, if_true]
          · intro u c rest hu heq
            simp only [isLowSurrogate, Bool.and_eq_true, decide_eq_true_eq] at hlow
            rcases hu.hex_of_cons heq with ⟨ds, v, hv, hs, rfl⟩ |
              ⟨ds, es, hi, lo, hh, -, hhi, -, rfl⟩
            · rw [hv.take_append] at h4
              cases h4
              omega
            · rw [hh.take_append] at h4
              cases h4
              omega
        · simp only [isHighSurrogate, isLowSurrogate, Bool.and_eq_true, decide_eq_true_eq] at hhigh hlow
          refine .inl ⟨_, _, r.drop 4, .code hq (by omega), ?_⟩
          simp

theorem EscapeUnit.length_lt {u : List Char} {c : Char} {r r' : List Char} (hu : EscapeUnit u c)
    (h : r = u ++ r') : r'.length < r.length := by
  have := List.length_pos_of_ne_nil hu.ne_nil
  rw [h, List.length_append]
  omega

theorem map_cons_eq_ok {c : Char} {x : Except (Nat × EscapeProblem) (List Char)} {v : List Char}
    (h : (c :: ·) <$> x = .ok v) : ∃ w, x = .ok w ∧ v = c :: w := by
  cases x with
  | error e => cases h
  | ok w => exact ⟨w, rfl, (Except.ok.inj h).symm⟩

theorem map_cons_eq_error {c : Char} {x : Except (Nat × EscapeProblem) (List Char)}
    {e : Nat × EscapeProblem} (h : (c :: ·) <$> x = .error e) : x = .error e := by
  cases x with
  | error e' => exact h
  | ok w => cases h

theorem unescapeFrom_of_decodes {r v : List Char} (h : Decodes r v) (o : Nat) :
    unescapeFrom o r = .ok v := by
  induction h generalizing o with
  | nil => rw [unescapeFrom.eq_1]
  | cons hu _ ih => rw [unescapeFrom_unit hu, ih, Except.map_ok]

theorem decodes_of_unescapeFrom {o : Nat} {r v : List Char} (h : unescapeFrom o r = .ok v) :
    Decodes r v := by
  by_cases hr : r = []
  · subst hr
    rw [unescapeFrom.eq_1] at h
    cases h
    exact .nil
  rcases unescapeFrom_step o hr with ⟨u, c, r', hu, rfl⟩ | ⟨⟨p, hp⟩, -⟩
  · have : r'.length < (u ++ r').length := hu.length_lt rfl
    rw [unescapeFrom_unit hu] at h
    obtain ⟨w, hw, rfl⟩ := map_cons_eq_ok h
    exact .cons hu (decodes_of_unescapeFrom hw)
  · rw [hp] at h
    cases h
termination_by r.length
decreasing_by all_goals (subst_vars; omega)

theorem unescapeFrom_eq_ok_iff {o : Nat} {r v : List Char} :
    unescapeFrom o r = .ok v ↔ Decodes r v :=
  ⟨decodes_of_unescapeFrom, fun h => unescapeFrom_of_decodes h o⟩

/-- Decoding `r` gets stuck `k` bytes in: up to there `r` is a run of units, and there stands a
backslash that starts no unit. -/
def StuckAt (r : List Char) (k : Nat) : Prop :=
  ∃ pre post, r = pre ++ post ∧ (∃ v, Decodes pre v) ∧ post.head? = some '\\' ∧
    NoUnitAt post ∧ k = utf8Length pre

theorem StuckAt.cons {u r : List Char} {c : Char} {k : Nat} (hu : EscapeUnit u c)
    (h : StuckAt r k) : StuckAt (u ++ r) (utf8Length u + k) := by
  obtain ⟨pre, post, rfl, ⟨v, hv⟩, hhead, hno, rfl⟩ := h
  exact ⟨u ++ pre, post, by rw [List.append_assoc], ⟨c :: v, .cons hu hv⟩, hhead, hno,
    by rw [utf8Length_append]⟩

theorem stuckAt_of_unescapeFrom {o o' : Nat} {r : List Char} {p : EscapeProblem}
    (h : unescapeFrom o r = .error (o', p)) : ∃ k, o' = o + k ∧ StuckAt r k := by
  by_cases hr : r = []
  · subst hr
    rw [unescapeFrom.eq_1] at h
    cases h
  rcases unescapeFrom_step o hr with ⟨u, c, r', hu, rfl⟩ | ⟨⟨p', hp⟩, hhead, hno⟩
  · have : r'.length < (u ++ r').length := hu.length_lt rfl
    rw [unescapeFrom_unit hu] at h
    obtain ⟨k, rfl, hk⟩ := stuckAt_of_unescapeFrom (map_cons_eq_error h)
    exact ⟨utf8Length u + k, by omega, hk.cons hu⟩
  · rw [hp] at h
    obtain ⟨rfl, -⟩ := Prod.mk.inj (Except.error.inj h)
    exact ⟨0, rfl, [], r, rfl, ⟨[], .nil⟩, hhead, hno, rfl⟩
termination_by r.length
decreasing_by all_goals (subst_vars; omega)

theorem unescapeFrom_of_stuckAt {r : List Char} {k : Nat} (h : StuckAt r k) (o : Nat) :
    ∃ p, unescapeFrom o r = .error (o + k, p) := by
  obtain ⟨pre, post, rfl, ⟨v, hv⟩, hhead, hno, rfl⟩ := h
  induction hv generalizing o with
  | nil =>
    have hpost : post ≠ [] := by rintro rfl; cases hhead
    rcases unescapeFrom_step o hpost with ⟨u, c, r', hu, heq⟩ | ⟨hp, -⟩
    · exact absurd heq (hno u c r' hu)
    · simpa using hp
  | cons hu _ ih =>
    obtain ⟨p, hp⟩ := ih (o + utf8Length _)
    refine ⟨p, ?_⟩
    rw [List.append_assoc, unescapeFrom_unit hu, hp, utf8Length_append, Nat.add_assoc]
    rfl

/-- Decoding fails exactly where it gets stuck, at the byte of the backslash that starts no
unit. -/
theorem unescapeFrom_error_iff {o k : Nat} {r : List Char} :
    (∃ p, unescapeFrom o r = .error (o + k, p)) ↔ StuckAt r k := by
  constructor
  · rintro ⟨p, h⟩
    obtain ⟨k', hk, hst⟩ := stuckAt_of_unescapeFrom h
    obtain rfl : k = k' := by omega
    exact hst
  · exact fun h => unescapeFrom_of_stuckAt h o

/-! ### What the scanner hands over -/

/-- Text cut into characters other than a backslash and backslash pairs: how the scanner reads
the body of a string, a backslash taking the next character with it. -/
inductive Paired : List Char → Prop
  | nil : Paired []
  | char {c : Char} {r : List Char} (h : c ≠ '\\') (hr : Paired r) : Paired (c :: r)
  | escape (c : Char) {r : List Char} (hr : Paired r) : Paired ('\\' :: c :: r)

theorem Paired.tail_of_char {c : Char} {r : List Char} (h : Paired (c :: r)) (hc : c ≠ '\\') :
    Paired r := by
  cases h
  · assumption
  · exact absurd rfl hc

theorem Paired.tail_of_escape {c : Char} {r : List Char} (h : Paired ('\\' :: c :: r)) :
    Paired r := by
  cases h
  · contradiction
  · assumption

theorem Paired.of_append {xs r : List Char} (h : Paired (xs ++ r)) (hxs : ∀ c ∈ xs, c ≠ '\\') :
    Paired r := by
  induction xs with
  | nil => exact h
  | cons x xs ih =>
    exact ih (h.tail_of_char (hxs x (List.mem_cons_self ..)))
      fun c hc => hxs c (List.mem_cons_of_mem x hc)

theorem HexQuad.ne_backslash {ds : List Char} {v : Nat} (h : HexQuad ds v) :
    ∀ c ∈ ds, c ≠ '\\' := by
  obtain ⟨ns, hds, -, -⟩ := h
  induction hds with
  | nil => simp
  | cons hc _ ih => exact List.forall_mem_cons.2 ⟨hc.ne_backslash, ih⟩

theorem paired_scanStringBody (cs : List Char) (h : (scanStringBody cs).2.1 = true) :
    Paired (scanStringBody cs).1 := by
  fun_induction scanStringBody cs with
  | case1 => cases h
  | case2 => exact .nil
  | case3 => cases h
  | case4 c cs body closed rest hb ih =>
    rw [hb] at ih
    exact .escape c (ih h)
  | case5 c cs _ _ _ body closed rest hb ih =>
    rw [hb] at ih
    have hc : c ≠ '\\' := by
      rintro rfl
      cases cs <;> simp_all
    exact .char hc (ih h)

theorem unescapeFrom_ne_dangling {o o' : Nat} {r : List Char} (h : Paired r) :
    unescapeFrom o r ≠ .error (o', .dangling) := by
  fun_induction unescapeFrom o r with
  | case1 | case3 | case5 | case6 | case9 => simp
  | case2 => cases h; contradiction
  | case4 o r high h4 hhigh low r' hl code ih =>
    obtain ⟨es, hes, -, hdrop⟩ := lowHalf_eq_some hl
    have hr := h.tail_of_escape
    rw [← List.take_append_drop 4 r, hdrop] at hr
    have hr' := hr.of_append (hex4Value_eq_some_iff.1 h4).ne_backslash
    exact fun he => ih (hr'.tail_of_escape.of_append hes.ne_backslash) (map_cons_eq_error he)
  | case7 o r high h4 _ _ ih =>
    have hr := h.tail_of_escape
    rw [← List.take_append_drop 4 r] at hr
    exact fun he => ih (hr.of_append (hex4Value_eq_some_iff.1 h4).ne_backslash)
      (map_cons_eq_error he)
  | case8 o c r _ d _ ih => exact fun he => ih h.tail_of_escape (map_cons_eq_error he)
  | case10 o c rest hc ih => exact fun he => ih (h.tail_of_char hc) (map_cons_eq_error he)

/-! ### Strings in the token stream -/

theorem numberKind_ne_string (text : List Char) : numberKind text ≠ .string := by
  simp only [numberKind]
  split_ifs <;> simp

theorem nameKind_ne_string (text : List Char) : nameKind text ≠ .string := by
  unfold nameKind
  split_ifs <;> simp

theorem scanToken_string {p : Nat} {c : Char} {cs : List Char}
    (h : (scanToken p c cs).1.kind = .string) :
    c = '"' ∧ ∃ body rest, scanStringBody cs = (body, true, rest) ∧
      (scanToken p c cs).1 = mkToken .string body ('"' :: body ++ ['"']) p := by
  unfold scanToken at h ⊢
  split at h
  case h_7 =>
    refine ⟨rfl, ?_⟩
    rcases hb : scanStringBody cs with ⟨body, closed, rest⟩
    simp only [hb] at h ⊢
    cases closed
    · simp [mkToken] at h
    · exact ⟨body, rest, rfl, rfl⟩
  case h_8 =>
    have := scanDispatch_kind_isAtom p cs
    rw [h] at this
    cases this
  case h_9 | h_10 =>
    simp only [scanPrefixed] at h
    split_ifs at h <;> simp [mkToken] at h
  case h_11 =>
    split_ifs at h
    · exact absurd h (numberKind_ne_string _)
    · exact absurd h (nameKind_ne_string _)
    · simp [mkToken] at h
  all_goals simp [mkToken] at h

/-- A string token stands in its text as an opening quote, its text and a closing quote, the
text cut into characters and backslash pairs. -/
theorem string_token_located {s : String} {t : Token} (ht : t ∈ tokenize s)
    (hk : t.kind = .string) :
    Paired t.text.toList ∧
      ∃ P Q, s.toList = P ++ '"' :: (t.text.toList ++ '"' :: Q) ∧ utf8Length P = t.offset := by
  obtain ⟨P, c, cs, hs, rfl⟩ := scanned_of_mem_tokenize ht (by rw [hk]; decide)
  obtain ⟨rfl, body, rest, hb, htok⟩ := scanToken_string hk
  have hcs := scanStringBody_append cs
  have hpaired := paired_scanStringBody cs (by rw [hb])
  rw [hb] at hcs hpaired
  rw [htok]
  refine ⟨by simpa [mkToken] using hpaired, P, rest, ?_, rfl⟩
  rw [hs, ← hcs]
  simp [mkToken]

theorem unescape_eq_ok_iff {r v : String} : unescape r = .ok v ↔ Decodes r.toList v.toList := by
  rw [← unescapeFrom_eq_ok_iff (o := 0), unescape]
  constructor
  · intro h
    cases hr : unescapeFrom 0 r.toList with
    | error e => rw [hr] at h; cases h
    | ok w =>
      rw [hr] at h
      cases h
      simp
  · intro h
    rw [h]
    simp

theorem unescape_error_iff {r : String} {k : Nat} :
    (∃ p, unescape r = .error (k, p)) ↔ StuckAt r.toList k := by
  rw [← unescapeFrom_error_iff (o := 0), Nat.zero_add, unescape]
  constructor
  · rintro ⟨p, h⟩
    cases hr : unescapeFrom 0 r.toList with
    | error e => rw [hr] at h; exact ⟨p, by simpa using h⟩
    | ok w => rw [hr] at h; cases h
  · rintro ⟨p, h⟩
    exact ⟨p, by rw [h]; rfl⟩

theorem unescape_ne_dangling {r : String} (h : Paired r.toList) (k : Nat) :
    unescape r ≠ .error (k, .dangling) := by
  intro he
  rw [unescape] at he
  cases hr : unescapeFrom 0 r.toList with
  | error e =>
    rw [hr] at he
    exact unescapeFrom_ne_dangling h (hr.trans (by simpa using he))
  | ok w => rw [hr] at he; cases he

theorem backslash_at_stuck {s : String} {t : Token} (ht : t ∈ tokenize s) (hk : t.kind = .string)
    {k : Nat} (hst : StuckAt t.text.toList k) :
    ∃ P Q, s.toList = P ++ '\\' :: Q ∧ utf8Length P = t.offset + 1 + k := by
  obtain ⟨-, P, Q, hs, hP⟩ := string_token_located ht hk
  obtain ⟨pre, post, htext, -, hhead, -, rfl⟩ := hst
  obtain ⟨post', rfl⟩ : ∃ post', post = '\\' :: post' := by
    cases post with
    | nil => cases hhead
    | cons x post' => cases hhead; exact ⟨post', rfl⟩
  refine ⟨P ++ '"' :: pre, post' ++ '"' :: Q, ?_, ?_⟩
  · rw [hs, htext]
    simp
  · have hq : '"'.utf8Size = 1 := rfl
    rw [utf8Length_append, utf8Length_cons, ← hP, hq]
    omega

theorem readForm_string_error {cx : ReadContext} {d : Nat} {t : Token} {rest : List Token}
    {k : Nat} {p : EscapeProblem} (hk : t.kind = .string) (h : unescape t.text = .error (k, p)) :
    readForm cx d (t :: rest) = .error (cx.fail (.escape p) (t.offset + 1 + k)) := by
  exact readForm_atom_error (by rw [hk]; rfl) (by simp [atom, hk, h])

/-- String literals decode as the reference decoder says: exactly the runs of units decode, to
their characters; otherwise decoding fails at the byte of the backslash that starts the first
unit that does not decode. The scanner hands the reader texts of characters and backslash pairs,
so no text ends in a dangling backslash, and the reader reports a failure at the byte of that
backslash in the input. -/
theorem unescape_reference :
    (∀ r v : String, unescape r = .ok v ↔ Decodes r.toList v.toList) ∧
    (∀ (r : String) (k : Nat), (∃ p, unescape r = .error (k, p)) ↔ StuckAt r.toList k) ∧
    ∀ (s : String) (t : Token), t ∈ tokenize s → t.kind = .string →
      Paired t.text.toList ∧ ∀ k p, unescape t.text = .error (k, p) →
        p ≠ .dangling ∧ (∃ P Q, s.toList = P ++ '\\' :: Q ∧ utf8Length P = t.offset + 1 + k) ∧
        ∀ cx d rest, readForm cx d (t :: rest) = .error (cx.fail (.escape p) (t.offset + 1 + k)) := by
  refine ⟨fun r v => unescape_eq_ok_iff, fun r k => unescape_error_iff, ?_⟩
  intro s t ht hk
  have hpaired := (string_token_located ht hk).1
  refine ⟨hpaired, fun k p he => ⟨?_, backslash_at_stuck ht hk (unescape_error_iff.1 ⟨p, he⟩),
    fun cx d rest => readForm_string_error hk he⟩⟩
  rintro rfl
  exact unescape_ne_dangling hpaired k he

example : unescape "a\\u00e9\\uD83D\\uDE00" = .ok "aé😀" := by decide +kernel

/-- In `"a\qb"` the escape `\q` fails, and the backslash stands at byte 2 of the input. -/
theorem unescape_reference_bad_escape :
    ∃ P Q, "\"a\\qb\"".toList = P ++ '\\' :: Q ∧ utf8Length P = 0 + 1 + 1 :=
  ((unescape_reference.2.2 "\"a\\qb\"" ⟨.string, "a\\qb", 0, 6⟩ (by decide +kernel) rfl).2 1
    (.badEscape 'q') (by decide +kernel)).2.1

end Xtql.Edn
