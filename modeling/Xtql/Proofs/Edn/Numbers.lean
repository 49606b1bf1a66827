import Mathlib.Data.Nat.Digits.Defs
import Xtql.Proofs.Edn.ReadErrors
import Xtql.Proofs.Edn.ReadPrint
import Xtql.Proofs.Edn.TokenStream
import Xtql.Proofs.Number.Rounding

/-!
Number literals against their grammar: the classifier answers as the grammar does, and the
reader rejects number text only for range (`number_literals_read_by_grammar`).
-/

namespace Xtql.Edn

open Xtql.Text Xtql.Number

/-! ### The grammar of number literals -/

def digitValue (c : Char) : Nat := c.toNat - '0'.toNat

def decimalValue (ds : List Char) : Nat := Nat.ofDigits 10 (ds.map digitValue).reverse

def IsDigits (ds : List Char) : Prop := ds ≠ [] ∧ ∀ c ∈ ds, c.isDigit = true

inductive SignText : List Char → Bool → Prop
  | absent : SignText [] false
  | plus : SignText ['+'] false
  | minus : SignText ['-'] true

/-- `[+-]?[0-9]+` and its value; a plus sign and leading zeros are allowed. -/
inductive IntegerText : List Char → Int → Prop
  | mk {sg ds : List Char} {neg : Bool} (hs : SignText sg neg) (hd : IsDigits ds) :
      IntegerText (sg ++ ds) (if neg then -(decimalValue ds : Int) else decimalValue ds)

inductive FractionText : List Char → Option (List Char) → Prop
  | absent : FractionText [] none
  | point {fs : List Char} (hf : ∀ c ∈ fs, c.isDigit = true) : FractionText ('.' :: fs) (some fs)

inductive ExponentText : List Char → Option Int → Prop
  | absent : ExponentText [] none
  | marked {e : Char} {es : List Char} {v : Int} (he : e = 'e' ∨ e = 'E') (hv : IntegerText es v) :
      ExponentText (e :: es) (some v)

/-- `[+-]?[0-9]+(\.[0-9]*)?([eE][+-]?[0-9]+)?` with a fraction or an exponent, and the decimal it
spells: its sign, all its digits as one natural, and the power of ten that scales them. -/
inductive FloatText : List Char → Bool → Nat → Int → Prop
  | mk {sg ds fr ex : List Char} {neg : Bool} {fs : Option (List Char)} {x : Option Int}
      (hs : SignText sg neg) (hd : IsDigits ds) (hf : FractionText fr fs) (hx : ExponentText ex x)
      (hsome : fr ≠ [] ∨ ex ≠ []) :
      FloatText (sg ++ ds ++ fr ++ ex) neg (decimalValue (ds ++ fs.getD []))
        (x.getD 0 - (fs.getD []).length)

/-! ### Pieces of the classifier -/

theorem allDigits_eq_true_iff {ds : List Char} : allDigits ds = true ↔ IsDigits ds := by
  simp [allDigits, IsDigits]

theorem IsDigits.exists_cons {ds : List Char} (h : IsDigits ds) :
    ∃ c r, ds = c :: r ∧ c.isDigit = true := by
  obtain ⟨c, r, rfl⟩ := List.exists_cons_of_ne_nil h.1
  exact ⟨c, r, rfl, h.2 c (List.mem_cons_self ..)⟩

theorem dropSign_append {sg ds : List Char} {neg : Bool} (hs : SignText sg neg)
    (hd : IsDigits ds) (r : List Char) : dropSign (sg ++ (ds ++ r)) = ds ++ r := by
  obtain ⟨c, cs, rfl, hc⟩ := hd.exists_cons
  cases hs
  · exact dropSign_of_isDigit _ hc
  · rfl
  · rfl

theorem exists_signText (w : List Char) : ∃ sg neg, SignText sg neg ∧ w = sg ++ dropSign w := by
  unfold dropSign
  split
  · exact ⟨_, _, .minus, rfl⟩
  · exact ⟨_, _, .plus, rfl⟩
  · exact ⟨_, _, .absent, rfl⟩

theorem splitAtFirst_eq_none {p : Char → Bool} {w pre : List Char}
    (h : splitAtFirst p w = (pre, none)) : pre = w := by
  fun_induction splitAtFirst p w generalizing pre with
  | case1 => exact (Prod.mk.inj h).1.symm
  | case2 => cases h
  | case3 c cs hc pre' post hsplit ih =>
    simp only [Prod.mk.injEq] at h
    obtain ⟨rfl, rfl⟩ := h
    rw [ih hsplit]

theorem splitAtFirst_eq_some {p : Char → Bool} {w pre post : List Char}
    (h : splitAtFirst p w = (pre, some post)) : ∃ c, w = pre ++ c :: post ∧ p c = true := by
  fun_induction splitAtFirst p w generalizing pre with
  | case1 => cases h
  | case2 c cs hc =>
    simp only [Prod.mk.injEq, Option.some.injEq] at h
    obtain ⟨rfl, rfl⟩ := h
    exact ⟨c, rfl, hc⟩
  | case3 c cs hc pre' post' hsplit ih =>
    simp only [Prod.mk.injEq] at h
    obtain ⟨rfl, rfl⟩ := h
    obtain ⟨d, hd, hpd⟩ := ih hsplit
    exact ⟨d, by rw [hd, List.cons_append], hpd⟩

theorem numberKind_cases (w : List Char) :
    numberKind w = .integer ∨ numberKind w = .float ∨ numberKind w = .unknown := by
  simp only [numberKind]
  split_ifs <;> simp

theorem IntegerText.allDigits_dropSign {w : List Char} {v : Int} (h : IntegerText w v) :
    allDigits (dropSign w) = true := by
  cases h with
  | @mk sg ds neg hs hd =>
    rw [← List.append_nil ds, dropSign_append hs hd, List.append_nil]
    exact allDigits_eq_true_iff.2 hd

theorem FractionText.tail? {fr : List Char} {fs : Option (List Char)} (h : FractionText fr fs) :
    fr.tail? = fs := by
  cases h <;> rfl

theorem IsDigits.not_exponentMark {ds : List Char} (hd : IsDigits ds) :
    ∀ c ∈ ds, (c == 'e' || c == 'E') = false := by
  intro c hc
  have := hd.2 c hc
  simp only [Bool.or_eq_false_iff, beq_eq_false_iff_ne]
  constructor <;> rintro rfl <;> exact absurd this (by decide)

theorem IsDigits.not_point {ds : List Char} (hd : IsDigits ds) : ∀ c ∈ ds, (c == '.') = false := by
  intro c hc
  have := hd.2 c hc
  simp only [beq_eq_false_iff_ne]
  rintro rfl
  exact absurd this (by decide)

theorem splitAtFirst_point {ds fr : List Char} {fs : Option (List Char)} (hd : IsDigits ds)
    (hf : FractionText fr fs) : splitAtFirst (· == '.') (ds ++ fr) = (ds, fs) := by
  cases hf
  · rw [List.append_nil, splitAtFirst_of_all hd.not_point]
  · exact splitAtFirst_append hd.not_point rfl

theorem splitAtFirst_exponentMark {ds fr ex : List Char} {fs : Option (List Char)} {x : Option Int}
    (hd : IsDigits ds) (hf : FractionText fr fs) (hx : ExponentText ex x) :
    splitAtFirst (fun c => c == 'e' || c == 'E') (ds ++ (fr ++ ex)) = (ds ++ fr, ex.tail?) := by
  have hm : ∀ c ∈ ds ++ fr, (c == 'e' || c == 'E') = false := by
    intro c hc
    rcases List.mem_append.1 hc with hc | hc
    · exact hd.not_exponentMark c hc
    · cases hf with
      | absent => cases hc
      | point hfs =>
        rcases List.mem_cons.1 hc with rfl | hc
        · rfl
        · have := hfs c hc
          simp only [Bool.or_eq_false_iff, beq_eq_false_iff_ne]
          constructor <;> rintro rfl <;> exact absurd this (by decide)
  cases hx with
  | absent => rw [List.append_nil, splitAtFirst_of_all hm]; rfl
  | marked he _ =>
    rw [← List.append_assoc, splitAtFirst_append hm (by rcases he with rfl | rfl <;> rfl)]
    rfl

theorem numberKind_of_integerText {w : List Char} {v : Int} (h : IntegerText w v) :
    numberKind w = .integer := by
  unfold numberKind
  rw [if_pos h.allDigits_dropSign]

theorem numberKind_of_floatText {w : List Char} {neg : Bool} {m : Nat} {e : Int}
    (h : FloatText w neg m e) : numberKind w = .float := by
  cases h with
  | @mk sg ds fr ex neg fs x hs hd hf hx hsome =>
  have hmark : ∃ c r, fr ++ ex = c :: r ∧ c.isDigit = false := by
    cases hf with
    | point => exact ⟨'.', _, rfl, rfl⟩
    | absent =>
      cases hx with
      | absent => simp at hsome
      | marked he => exact ⟨_, _, rfl, by rcases he with rfl | rfl <;> rfl⟩
  obtain ⟨c, r, hcr, hc⟩ := hmark
  have hnot : allDigits (ds ++ (fr ++ ex)) = false := by
    rw [hcr]
    simp only [allDigits, List.all_append, List.all_cons, hc]
    simp
  unfold numberKind
  simp only [List.append_assoc, dropSign_append hs hd, hnot, Bool.false_eq_true, if_false,
    splitAtFirst_exponentMark hd hf hx, splitAtFirst_point hd hf, allDigits_eq_true_iff.2 hd]
  -- what is left are the checks on the fraction and the exponent, and that one is there
  rw [if_pos]
  cases hf with
  | absent =>
    cases hx with
    | absent => simp at hsome
    | marked _ hv => simp [List.tail?, hv.allDigits_dropSign]
  | @point f hfs =>
    have hok : (f.isEmpty || allDigits f) = true := by
      cases f with
      | nil => rfl
      | cons y ys =>
        rw [allDigits_eq_true_iff.2 ⟨List.cons_ne_nil y ys, hfs⟩, Bool.or_true]
    cases hx with
    | absent => simp [hok]
    | marked _ hv => simp [hok, List.tail?, hv.allDigits_dropSign]

theorem integerText_of_allDigits {w : List Char} (h : allDigits (dropSign w) = true) :
    ∃ v, IntegerText w v := by
  obtain ⟨sg, neg, hs, hw⟩ := exists_signText w
  rw [hw]
  exact ⟨_, .mk hs (allDigits_eq_true_iff.1 h)⟩

theorem integerText_of_numberKind {w : List Char} (h : numberKind w = .integer) :
    ∃ v, IntegerText w v := by
  apply integerText_of_allDigits
  by_contra hd
  unfold numberKind at h
  simp only [hd, if_false] at h
  rcases hE : splitAtFirst (fun c => c == 'e' || c == 'E') (dropSign w) with ⟨mantissa, exponent⟩
  rcases hP : splitAtFirst (· == '.') mantissa with ⟨whole, fraction⟩
  simp only [hE, hP] at h
  split_ifs at h

theorem fractionText_of_split {mantissa whole : List Char} {fraction : Option (List Char)}
    (h : splitAtFirst (· == '.') mantissa = (whole, fraction))
    (hok : ∀ f ∈ fraction, (f.isEmpty || allDigits f) = true) :
    ∃ fr, mantissa = whole ++ fr ∧ FractionText fr fraction := by
  cases fraction with
  | none => exact ⟨[], by rw [splitAtFirst_eq_none h, List.append_nil], .absent⟩
  | some f =>
    obtain ⟨c, rfl, hc⟩ := splitAtFirst_eq_some h
    obtain rfl : c = '.' := by simpa using hc
    refine ⟨'.' :: f, rfl, .point ?_⟩
    have hf := hok f rfl
    cases f with
    | nil => simp
    | cons y ys => exact (allDigits_eq_true_iff.1 (by simpa using hf)).2

theorem exponentText_of_split {u mantissa : List Char} {exponent : Option (List Char)}
    (h : splitAtFirst (fun c => c == 'e' || c == 'E') u = (mantissa, exponent))
    (hok : ∀ e ∈ exponent, allDigits (dropSign e) = true) :
    ∃ ex x, u = mantissa ++ ex ∧ ExponentText ex x ∧ ex.tail? = exponent := by
  cases exponent with
  | none => exact ⟨[], none, by rw [splitAtFirst_eq_none h, List.append_nil], .absent, rfl⟩
  | some es =>
    obtain ⟨c, rfl, hc⟩ := splitAtFirst_eq_some h
    obtain ⟨v, hv⟩ := integerText_of_allDigits (hok es rfl)
    exact ⟨c :: es, some v, rfl, .marked (by simpa using hc) hv, rfl⟩

theorem floatText_of_numberKind {w : List Char} (h : numberKind w = .float) :
    ∃ neg m e, FloatText w neg m e := by
  obtain ⟨sg, neg, hs, hw⟩ := exists_signText w
  unfold numberKind at h
  generalize dropSign w = u at h hw
  subst hw
  dsimp only at h
  split_ifs at h with hdig hok
  rcases hE : splitAtFirst (fun c => c == 'e' || c == 'E') u with ⟨mantissa, exponent⟩
  rcases hP : splitAtFirst (· == '.') mantissa with ⟨whole, fraction⟩
  simp only [hE, hP, Bool.and_eq_true] at hok
  obtain ⟨⟨⟨hwhole, hfrac⟩, hexp⟩, hsome⟩ := hok
  obtain ⟨fr, rfl, hf⟩ := fractionText_of_split hP (by rintro f rfl; exact hfrac)
  obtain ⟨ex, x, rfl, hx, hex⟩ := exponentText_of_split hE (by rintro e rfl; exact hexp)
  have hpresent : fr ≠ [] ∨ ex ≠ [] := by
    rw [← hf.tail?, ← hex] at hsome
    cases fr <;> cases ex <;> simp_all
  rw [← List.append_assoc, ← List.append_assoc]
  exact ⟨neg, _, _, .mk hs (allDigits_eq_true_iff.1 hwhole) hf hx hpresent⟩

/-- Number text is classified by its grammar: `[+-]?[0-9]+` is an integer, float text with a
fraction or an exponent is a float, and any other text is no number. -/
theorem numberKind_grammar (w : List Char) :
    (numberKind w = .integer ↔ ∃ v, IntegerText w v) ∧
    (numberKind w = .float ↔ ∃ neg m e, FloatText w neg m e) ∧
    (numberKind w = .unknown ↔ (∀ v, ¬IntegerText w v) ∧ ∀ neg m e, ¬FloatText w neg m e) := by
  refine ⟨⟨integerText_of_numberKind, fun ⟨v, hv⟩ => numberKind_of_integerText hv⟩,
    ⟨floatText_of_numberKind, fun ⟨neg, m, e, hx⟩ => numberKind_of_floatText hx⟩, ?_⟩
  constructor
  · intro h
    refine ⟨fun v hv => ?_, fun neg m e hx => ?_⟩
    · rw [numberKind_of_integerText hv] at h; cases h
    · rw [numberKind_of_floatText hx] at h; cases h
  · rintro ⟨hi, hf⟩
    rcases numberKind_cases w with h | h | h
    · obtain ⟨v, hv⟩ := integerText_of_numberKind h
      exact absurd hv (hi v)
    · obtain ⟨neg, m, e, hx⟩ := floatText_of_numberKind h
      exact absurd hx (hf neg m e)
    · exact h

/-! ### Values -/

theorem digitsValue_eq_decimalValue (ds : List Char) : digitsValue ds = decimalValue ds := by
  induction ds using List.reverseRecOn with
  | nil => rfl
  | append_singleton ds c ih =>
    rw [digitsValue, List.foldl_append, ← digitsValue, ih, decimalValue, decimalValue,
      List.map_append, List.reverse_append]
    simp only [List.foldl_cons, List.foldl_nil, List.map_cons, List.map_nil, List.reverse_cons,
      List.reverse_nil, List.nil_append, List.singleton_append, Nat.ofDigits_cons, digitValue]
    ring

theorem IsDigits.not_signed {ds : List Char} (hd : IsDigits ds) (rest : List Char) :
    (∀ r, ds ++ rest = '-' :: r → False) ∧ (∀ r, ds ++ rest = '+' :: r → False) := by
  obtain ⟨c, cs, rfl, hc⟩ := hd.exists_cons
  constructor
  all_goals
    intro r h
    obtain ⟨rfl, -⟩ := List.cons.inj h
    exact absurd hc (by decide)

theorem integerValue_of_integerText {w : List Char} {v : Int} (h : IntegerText w v) :
    integerValue w = v := by
  cases h with
  | @mk sg ds neg hs hd =>
    cases hs with
    | absent =>
      rw [List.nil_append, integerValue.eq_3 _ (by simpa using (hd.not_signed []).1)
        (by simpa using (hd.not_signed []).2), digitsValue_eq_decimalValue]
      rfl
    | plus => simp [integerValue, digitsValue_eq_decimalValue]
    | minus => simp [integerValue, digitsValue_eq_decimalValue]

theorem floatValue_of_floatText {w : List Char} {neg : Bool} {m : Nat} {e : Int}
    (h : FloatText w neg m e) : floatValue w = Binary64.ofDecimal neg m e := by
  cases h with
  | @mk sg ds fr ex neg fs x hs hd hf hx hsome =>
  rw [List.append_assoc, List.append_assoc]
  -- the sign is read first; past it the three signs run alike
  cases hs <;> [rw [List.nil_append, floatValue.eq_3 _ (hd.not_signed _).1 (hd.not_signed _).2];
    rw [List.singleton_append, floatValue.eq_2]; rw [List.singleton_append, floatValue.eq_1]]
  all_goals
    simp only [splitAtFirst_exponentMark hd hf hx, splitAtFirst_point hd hf,
      digitsValue_eq_decimalValue]
    cases hx with
    | absent => rfl
    | marked _ hv => simp only [List.tail?, integerValue_of_integerText hv, Option.getD_some]

/-! ### Number tokens and how they read -/

theorem scanToken_number {p : Nat} {c : Char} {cs : List Char}
    (h : (scanToken p c cs).1.kind = .integer ∨ (scanToken p c cs).1.kind = .float) :
    numberKind (scanToken p c cs).1.text.toList = (scanToken p c cs).1.kind := by
  have hnum : ∀ k : TokenKind, k = .integer ∨ k = .float → k.isAtom = true := by
    rintro k (rfl | rfl) <;> rfl
  unfold scanToken at h
  split at h
  case h_7 =>
    rcases hb : scanStringBody cs with ⟨body, closed, rest⟩
    simp only [hb] at h
    split_ifs at h <;> simp [mkToken] at h
  case h_8 =>
    have := scanDispatch_kind_isAtom p cs
    rw [hnum _ h] at this
    cases this
  case h_9 | h_10 =>
    simp only [scanPrefixed] at h
    split_ifs at h <;> simp [mkToken] at h
  case h_11 h1 h2 h3 h4 h5 h6 h7 h8 h9 h10 =>
    rw [scanToken.eq_11 p c cs h1 h2 h3 h4 h5 h6 h7 h8 h9 h10]
    split_ifs at h ⊢ with hstart hnumber
    · simp [mkToken]
    · unfold nameKind at h
      dsimp only at h
      split_ifs at h <;> simp [mkToken] at h
    · simp [mkToken] at h
  all_goals simp [mkToken] at h

theorem numberKind_of_mem_tokenize {s : String} {t : Token} (ht : t ∈ tokenize s)
    (hk : t.kind = .integer ∨ t.kind = .float) : numberKind t.text.toList = t.kind := by
  obtain ⟨P, c, cs, -, rfl⟩ := scanned_of_mem_tokenize ht (by rcases hk with hk | hk <;> rw [hk] <;> decide)
  exact scanToken_number hk

section Reading

variable (cx : ReadContext)

/-- An integer token reads to its value when that fits in 64 signed bits, and fails at the
token otherwise. -/
theorem readForm_integer {t : Token} (hk : t.kind = .integer) {v : Int}
    (hv : IntegerText t.text.toList v) (d : Nat) (rest : List Token) :
    readForm cx d (t :: rest) =
      if -9223372036854775808 ≤ v ∧ v ≤ 9223372036854775807 then
        .ok (.int v ⟨t.offset, t.stop⟩, ⟨rest, Nat.lt_succ_self _⟩)
      else .error (cx.fail (.integerOutOfRange t.text) t.offset) := by
  have hfits : fitsInt64 v = decide (-9223372036854775808 ≤ v ∧ v ≤ 9223372036854775807) := by
    have hlt : v < 9223372036854775808 ↔ v ≤ 9223372036854775807 := by omega
    simp [fitsInt64, hlt]
  have hatom : atom cx t =
      if -9223372036854775808 ≤ v ∧ v ≤ 9223372036854775807 then .ok (.int v ⟨t.offset, t.stop⟩)
      else .error (cx.fail (.integerOutOfRange t.text) t.offset) := by
    simp only [atom, hk, integerValue_of_integerText hv, hfits, decide_eq_true_eq]
  have hatomic : t.kind.isAtom = true := by rw [hk]; rfl
  split_ifs at hatom ⊢
  · exact readForm_token cx hatomic hatom d rest
  · exact readForm_atom_error hatomic hatom

/-- A float token reads to the binary64 value nearest to its decimal when that is finite, and
fails at the token otherwise. -/
theorem readForm_float {t : Token} (hk : t.kind = .float) {neg : Bool} {m : Nat} {e : Int}
    (hx : FloatText t.text.toList neg m e) (d : Nat) (rest : List Token) :
    readForm cx d (t :: rest) =
      if (Binary64.ofDecimal neg m e).isFinite then
        .ok (.float (Binary64.ofDecimal neg m e) ⟨t.offset, t.stop⟩, ⟨rest, Nat.lt_succ_self _⟩)
      else .error (cx.fail (.floatOutOfRange t.text) t.offset) := by
  have hatom : atom cx t =
      if (Binary64.ofDecimal neg m e).isFinite then
        .ok (.float (Binary64.ofDecimal neg m e) ⟨t.offset, t.stop⟩)
      else .error (cx.fail (.floatOutOfRange t.text) t.offset) := by
    simp only [atom, hk, floatValue_of_floatText hx]
  have hatomic : t.kind.isAtom = true := by rw [hk]; rfl
  split_ifs at hatom ⊢
  · exact readForm_token cx hatomic hatom d rest
  · exact readForm_atom_error hatomic hatom

end Reading

/-- Number literals are read by their grammar. Number text is an integer exactly when it is
`[+-]?[0-9]+`, a float exactly when it is float text with a fraction or an exponent, and no
number otherwise. An integer token reads to its decimal value when that lies in the 64-bit
signed range and fails at the token otherwise; a float token reads to the binary64 value
nearest to its decimal, and fails at the token exactly when that value is an infinity. -/
theorem number_literals_read_by_grammar :
    (∀ w, (numberKind w = .integer ↔ ∃ v, IntegerText w v) ∧
      (numberKind w = .float ↔ ∃ neg m e, FloatText w neg m e) ∧
      (numberKind w = .unknown ↔ (∀ v, ¬IntegerText w v) ∧ ∀ neg m e, ¬FloatText w neg m e)) ∧
    (∀ (s : String) (t : Token), t ∈ tokenize s → t.kind = .integer →
      ∃ v, IntegerText t.text.toList v ∧ ∀ cx d rest,
        readForm cx d (t :: rest) =
          if -9223372036854775808 ≤ v ∧ v ≤ 9223372036854775807 then
            .ok (.int v ⟨t.offset, t.stop⟩, ⟨rest, Nat.lt_succ_self _⟩)
          else .error (cx.fail (.integerOutOfRange t.text) t.offset)) ∧
    (∀ (s : String) (t : Token), t ∈ tokenize s → t.kind = .float →
      ∃ neg m e, FloatText t.text.toList neg m e ∧
        ((Binary64.ofDecimal neg m e).isFinite = false ↔
          Binary64.ofDecimal neg m e = Binary64.infinity neg) ∧
        ∀ cx d rest, readForm cx d (t :: rest) =
          if (Binary64.ofDecimal neg m e).isFinite then
            .ok (.float (Binary64.ofDecimal neg m e) ⟨t.offset, t.stop⟩, ⟨rest, Nat.lt_succ_self _⟩)
          else .error (cx.fail (.floatOutOfRange t.text) t.offset)) ∧
    ∀ text, (Problem.integerOutOfRange text).kind = .lexical ∧
      (Problem.floatOutOfRange text).kind = .lexical := by
  refine ⟨numberKind_grammar, ?_, ?_, fun _ => ⟨rfl, rfl⟩⟩
  · intro s t ht hk
    have hw := numberKind_of_mem_tokenize ht (.inl hk)
    rw [hk] at hw
    obtain ⟨v, hv⟩ := integerText_of_numberKind hw
    exact ⟨v, hv, fun cx d rest => readForm_integer cx hk hv d rest⟩
  · intro s t ht hk
    have hw := numberKind_of_mem_tokenize ht (.inr hk)
    rw [hk] at hw
    obtain ⟨neg, m, e, hx⟩ := floatText_of_numberKind hw
    exact ⟨neg, m, e, hx, Binary64.ofDecimal_isFinite_eq_false_iff,
      fun cx d rest => readForm_float cx hk hx d rest⟩

/-- `1.e5` is a float: an empty fraction is allowed when a point is written. -/
theorem number_literals_read_by_grammar_point_exponent :
    ∃ neg m e, FloatText "1.e5".toList neg m e :=
  ((number_literals_read_by_grammar.1 "1.e5".toList).2.1.1 (by decide))

end Xtql.Edn
