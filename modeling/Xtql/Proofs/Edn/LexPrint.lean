import Xtql.Proofs.Edn.Print

/-! Scanning printed text. The scanner's tokens from a state are fixed by its next step, a
blank only moves the position on, and each printed atom is one token that ends where the
text ends a name. Main statement: the tokens of a printed form followed by such text are the
form's token view followed by the tokens of the text (`tokens_printed`). -/

namespace Xtql.Edn

open Xtql.Number Xtql.Text

namespace Lexer

def tokens (l : Lexer) : List Token := l.tokensFrom.map Prod.fst

theorem tokens_of_step {l l' : Lexer} {t : Token} (h : l.step = some (t, l')) :
    l.tokens = t :: l'.tokens := by
  rw [tokens, tokensFrom]
  split
  · simp_all
  · simp_all [tokens]

theorem tokens_congr {l l' : Lexer} (h : l.step = l'.step) : l.tokens = l'.tokens := by
  rw [tokens, tokens, tokensFrom, tokensFrom]
  split <;> split <;> simp_all

theorem step_blank {c : Char} (cs : List Char) (p : Nat) (b : Bool) (hc : isBlank c = true) :
    step ⟨c :: cs, p, b⟩ = step ⟨cs, p + c.utf8Size, b⟩ := by
  have h1 : skipTrivia (c :: cs) = skipTrivia cs := by rw [skipTrivia, if_pos hc]
  have h2 : triviaBytes (c :: cs) = c.utf8Size + triviaBytes cs := by
    rw [triviaBytes, if_pos hc]
  simp only [step, h1, h2, Nat.add_assoc]

theorem step_scan {c : Char} (cs : List Char) (p : Nat) (b : Bool) (h1 : isBlank c = false)
    (h2 : c ≠ ';') :
    step ⟨c :: cs, p, b⟩ =
      some ((scanToken p c cs).1, ⟨(scanToken p c cs).2, (scanToken p c cs).1.stop, false⟩) := by
  have hs : skipTrivia (c :: cs) = c :: cs := by
    rw [skipTrivia, if_neg (by simp [h1]), if_neg h2]
  have ht : triviaBytes (c :: cs) = 0 := by
    rw [triviaBytes, if_neg (by simp [h1]), if_neg h2]
  simp only [step, hs, ht, Nat.add_zero]

theorem tokens_blank {c : Char} (cs : List Char) (p : Nat) (hc : isBlank c = true) :
    (⟨c :: cs, p, false⟩ : Lexer).tokens = (⟨cs, p + c.utf8Size, false⟩ : Lexer).tokens :=
  tokens_congr (step_blank cs p false hc)

theorem tokens_scan {c : Char} (cs : List Char) (p : Nat) (h1 : isBlank c = false)
    (h2 : c ≠ ';') :
    (⟨c :: cs, p, false⟩ : Lexer).tokens =
      (scanToken p c cs).1 :: (⟨(scanToken p c cs).2, (scanToken p c cs).1.stop, false⟩ : Lexer).tokens :=
  tokens_of_step (step_scan cs p false h1 h2)

theorem tokens_end (p : Nat) : (⟨[], p, false⟩ : Lexer).tokens = [mkToken .eof [] [] p] := by
  have h1 : step ⟨[], p, false⟩ = some (mkToken .eof [] [] p, ⟨[], p, true⟩) := by
    simp [step, skipTrivia, triviaBytes]
  have h2 : step ⟨[], p, true⟩ = none := by simp [step, skipTrivia]
  rw [tokens_of_step h1, tokens, tokensFrom]
  split <;> simp_all

end Lexer

theorem tokenize_eq_tokens (s : String) : tokenize s = (Lexer.start s).tokens := rfl

@[simp] theorem shape_mkToken (k : TokenKind) (text written : List Char) (p : Nat) :
    (mkToken k text written p).shape = (k, String.ofList text) := rfl

@[simp] theorem kind_mkToken (k : TokenKind) (text written : List Char) (p : Nat) :
    (mkToken k text written p).kind = k := rfl

/-! ### Characters -/

theorem toNat_lt_of_isDigit {c : Char} (h : c.isDigit = true) : 48 ≤ c.toNat ∧ c.toNat < 58 := by
  have := Char.isDigit_iff_toNat.1 h
  simp only [Char.reduceToNat] at this
  omega

theorem isSymbolChar_of_isDigit {c : Char} (h : c.isDigit = true) : isSymbolChar c = true := by
  have hlt : c.toNat < 0x80 := by have := toNat_lt_of_isDigit h; omega
  simp [isSymbolChar, Unicode.isAlphanumeric, Unicode.isNumeric, hlt, h]

theorem isSymbolChar_of_isSymbolStart {c : Char} (h : isSymbolStart c = true) :
    isSymbolChar c = true := by
  simp only [isSymbolStart, Bool.or_eq_true, Bool.and_eq_true] at h
  rcases h with h | ⟨-, h⟩
  · simp [isSymbolChar, Unicode.isAlphanumeric, h]
  · simp only [isSymbolChar, h, Bool.or_true]

theorem isSymbolStart_of_isDigit {c : Char} (h : c.isDigit = true) : isSymbolStart c = false := by
  have hc := toNat_lt_of_isDigit h
  have key : ∀ n, n < 10 → isSymbolStart (Char.ofNat (48 + n)) = false := by decide
  have he : c = Char.ofNat (48 + (c.toNat - 48)) := by
    rw [Nat.add_sub_cancel' hc.1, Char.ofNat_toNat]
  rw [he]
  exact key _ (by omega)

/-- No character of a name is a blank: the `White_Space` code points are few, and none is a
letter, a digit or a mark. -/
theorem isBlank_of_isSymbolChar {c : Char} (h : isSymbolChar c = true) : isBlank c = false := by
  have key : ∀ r ∈ Unicode.whiteSpaceRanges, ∀ i, i < r.2 - r.1 + 1 →
      isSymbolChar (Char.ofNat (r.1 + i)) = false := by decide +kernel
  cases hw : Unicode.isWhiteSpace c
  · have hc : c ≠ ',' := by rintro rfl; exact absurd h (by decide)
    simp [isBlank, hw, hc]
  · obtain ⟨r, hr, h1, h2⟩ := (Unicode.RangeTable.contains_iff _ _).1 hw
    have hk := key r hr (c.toNat - r.1) (by omega)
    rw [Nat.add_sub_cancel' h1, Char.ofNat_toNat] at hk
    exact absurd h (by simp [hk])

theorem ne_semicolon_of_isSymbolChar {c : Char} (h : isSymbolChar c = true) : c ≠ ';' := by
  rintro rfl; exact absurd h (by decide)

/-! ### Names and numbers -/

/-- Text that ends a name or a number: nothing, a blank or a closing bracket. -/
def EndsName : List Char → Prop
  | [] => True
  | c :: _ => c = ' ' ∨ c = ')' ∨ c = ']' ∨ c = '}'

theorem EndsName.head_not_isSymbolChar {r : List Char} (h : EndsName r) :
    ∀ c ∈ r.head?, isSymbolChar c = false := by
  cases r with
  | nil => simp
  | cons c r =>
    simp only [List.head?_cons, Option.mem_def, Option.some.injEq, forall_eq']
    rcases h with rfl | rfl | rfl | rfl <;> decide

theorem EndsName.head_not_digit {r : List Char} (h : EndsName r) :
    ∀ d ∈ r.head?, d.isDigit = false := by
  cases r with
  | nil => simp
  | cons c r =>
    simp only [List.head?_cons, Option.mem_def, Option.some.injEq, forall_eq']
    rcases h with rfl | rfl | rfl | rfl <;> rfl

theorem spanName_of_stop {w r : List Char} (hw : w.all isSymbolChar = true)
    (hr : ∀ c ∈ r.head?, isSymbolChar c = false) : spanName (w ++ r) = (w, r) := by
  have hw' : ∀ a ∈ w, isSymbolChar a = true := by simpa using hw
  cases r with
  | nil =>
    have h1 := @List.takeWhile_append_of_pos _ isSymbolChar w [] hw'
    have h2 := @List.dropWhile_append_of_pos _ isSymbolChar w [] hw'
    simp only [List.append_nil, List.takeWhile_nil, List.dropWhile_nil] at h1 h2
    simp [spanName, h1, h2]
  | cons c r =>
    have hc : isSymbolChar c = false := hr c rfl
    simp [spanName, List.takeWhile_append_of_pos hw', List.dropWhile_append_of_pos hw', hc]

/-- A name or number of symbol characters scans as one token that stops where the text ends a
name; its kind is read off the whole text. -/
theorem scanToken_word (p : Nat) {c : Char} {w r : List Char} (hc : isSymbolChar c = true)
    (hcolon : c ≠ ':') (hw : w.all isSymbolChar = true) (hr : EndsName r)
    (hs : (startsNumber c (w ++ r) || isSymbolStart c) = true) :
    scanToken p c (w ++ r) =
      (mkToken (if startsNumber c (w ++ r) then numberKind (c :: w) else nameKind (c :: w))
        (c :: w) (c :: w) p, r) := by
  have hspan := spanName_of_stop hw hr.head_not_isSymbolChar
  unfold scanToken
  split <;> first | exact absurd hc (by decide) | exact absurd rfl hcolon | simp [hs, hspan]

theorem isDigit_of_mem_toDigits {n : Nat} {c : Char} (h : c ∈ Nat.toDigits 10 n) :
    c.isDigit = true := Nat.isDigit_of_mem_toDigits (by decide) (by decide) h

theorem allDigits_toDigits (n : Nat) : allDigits (Nat.toDigits 10 n) = true := by
  simp only [allDigits, Bool.and_eq_true, Bool.not_eq_true', List.isEmpty_eq_false_iff,
    List.all_eq_true]
  exact ⟨Nat.toDigits_ne_nil, fun c hc => isDigit_of_mem_toDigits hc⟩

theorem dropSign_of_isDigit {c : Char} (cs : List Char) (h : c.isDigit = true) :
    dropSign (c :: cs) = c :: cs := by
  have h1 : c ≠ '-' := by rintro rfl; exact absurd h (by decide)
  have h2 : c ≠ '+' := by rintro rfl; exact absurd h (by decide)
  unfold dropSign
  split <;> simp_all

theorem toList_toString_int (n : Int) :
    (toString n).toList = (if n < 0 then ['-'] else []) ++ Nat.toDigits 10 n.natAbs := by
  cases n with
  | ofNat m => simp [Int.repr, Nat.toList_repr]
  | negSucc m => simp [Int.repr, Nat.toList_repr, Int.negSucc_lt_zero]

theorem toDigits_head (n : Nat) : ∃ d ds, Nat.toDigits 10 n = d :: ds ∧ d.isDigit = true := by
  obtain ⟨d, ds, hds⟩ := List.exists_cons_of_ne_nil (@Nat.toDigits_ne_nil n 10)
  exact ⟨d, ds, hds, isDigit_of_mem_toDigits (by rw [hds]; simp)⟩

theorem dropSign_toString_int (n : Int) :
    dropSign (toString n).toList = Nat.toDigits 10 n.natAbs := by
  obtain ⟨d, ds, hds, hd⟩ := toDigits_head n.natAbs
  rw [toList_toString_int]
  split
  · rfl
  · rw [List.nil_append, hds, dropSign_of_isDigit _ hd]

theorem numberKind_int (n : Int) : numberKind (toString n).toList = .integer := by
  unfold numberKind
  rw [dropSign_toString_int, if_pos (allDigits_toDigits _)]

theorem splitAtFirst_of_all {p : Char → Bool} {d : List Char} (hd : ∀ c ∈ d, p c = false) :
    splitAtFirst p d = (d, none) := by
  induction d with
  | nil => rfl
  | cons c cs ih =>
    simp only [List.mem_cons, forall_eq_or_imp] at hd
    simp [splitAtFirst, hd.1, ih hd.2]

theorem splitAtFirst_append {p : Char → Bool} {d e : List Char} {c : Char}
    (hd : ∀ a ∈ d, p a = false) (hc : p c = true) :
    splitAtFirst p (d ++ c :: e) = (d, some e) := by
  induction d with
  | nil => simp [splitAtFirst, hc]
  | cons a as ih =>
    simp only [List.mem_cons, forall_eq_or_imp] at hd
    simp [splitAtFirst, hd.1, ih hd.2]

theorem floatSpelling_eq (x : Binary64) :
    floatSpelling x = (if x.negative then ['-'] else []) ++
      (Nat.toDigits 10 x.exactDecimal.digits ++ 'e' :: (toString x.exactDecimal.exp).toList) := by
  simp [floatSpelling]

theorem numberKind_float (x : Binary64) : numberKind (floatSpelling x) = .float := by
  obtain ⟨d, ds, hds, hd⟩ := toDigits_head x.exactDecimal.digits
  have hdig : ∀ c ∈ Nat.toDigits 10 x.exactDecimal.digits, c.isDigit = true :=
    fun c hc => isDigit_of_mem_toDigits hc
  have hsign : dropSign (floatSpelling x) =
      Nat.toDigits 10 x.exactDecimal.digits ++ 'e' :: (toString x.exactDecimal.exp).toList := by
    rw [floatSpelling_eq]
    split
    · rfl
    · rw [List.nil_append, hds, List.cons_append, dropSign_of_isDigit _ hd]
  have hall : allDigits (Nat.toDigits 10 x.exactDecimal.digits ++
      'e' :: (toString x.exactDecimal.exp).toList) = false := by
    simp [allDigits]
  have hsplit : splitAtFirst (fun c => c == 'e' || c == 'E')
      (Nat.toDigits 10 x.exactDecimal.digits ++ 'e' :: (toString x.exactDecimal.exp).toList) =
      (Nat.toDigits 10 x.exactDecimal.digits, some (toString x.exactDecimal.exp).toList) := by
    refine splitAtFirst_append (fun a ha => ?_) rfl
    have := toNat_lt_of_isDigit (hdig a ha)
    have h1 : a ≠ 'e' := by rintro rfl; simp at this
    have h2 : a ≠ 'E' := by rintro rfl; simp at this
    simp [h1, h2]
  have hfrac : splitAtFirst (· == '.') (Nat.toDigits 10 x.exactDecimal.digits) =
      (Nat.toDigits 10 x.exactDecimal.digits, none) := by
    refine splitAtFirst_of_all (fun a ha => ?_)
    have := toNat_lt_of_isDigit (hdig a ha)
    have h1 : a ≠ '.' := by rintro rfl; simp at this
    simp [h1]
  unfold numberKind
  rw [hsign]
  simp only [hall, hsplit, hfrac, allDigits_toDigits, dropSign_toString_int, Option.isSome_some,
    Option.isSome_none, Bool.and_self, Bool.or_true, if_true, Bool.false_eq_true, if_false]

/-! ### Scanning printed text -/

/-- The text `cs`, followed by text that ends a name, scans to tokens with the given kinds and
texts and then to the tokens of what follows. -/
def ScansTo (cs : List Char) (shapes : List (TokenKind × String)) : Prop :=
  ∀ r p, EndsName r → ∃ ts p', (⟨cs ++ r, p, false⟩ : Lexer).tokens =
    ts ++ (⟨r, p', false⟩ : Lexer).tokens ∧ ts.map Token.shape = shapes

theorem ScansTo.nil : ScansTo [] [] := fun _ p _ => ⟨[], p, rfl, rfl⟩

theorem ScansTo.append {a b : List Char} {sa sb : List (TokenKind × String)}
    (ha : ScansTo a sa) (hb : ScansTo b sb) (hab : ∀ r, EndsName r → EndsName (b ++ r)) :
    ScansTo (a ++ b) (sa ++ sb) := by
  intro r p hr
  obtain ⟨ts1, p1, h1, e1⟩ := ha (b ++ r) p (hab r hr)
  obtain ⟨ts2, p2, h2, e2⟩ := hb r p1 hr
  refine ⟨ts1 ++ ts2, p2, ?_, by simp [e1, e2]⟩
  rw [List.append_assoc, h1, h2, List.append_assoc]

theorem ScansTo.blank {a : List Char} {sa : List (TokenKind × String)} (ha : ScansTo a sa) :
    ScansTo (' ' :: a) sa := by
  intro r p hr
  obtain ⟨ts, p', h, e⟩ := ha r (p + ' '.utf8Size) hr
  exact ⟨ts, p', by rw [List.cons_append, Lexer.tokens_blank _ _ (by decide)]; exact h, e⟩

theorem ScansTo.lead {c : Char} {w a text : List Char} {k : TokenKind}
    {sa : List (TokenKind × String)} (hb : isBlank c = false) (hs : c ≠ ';')
    (hscan : ∀ p rest, scanToken p c (w ++ rest) = (mkToken k text (c :: w) p, rest))
    (ha : ScansTo a sa) : ScansTo (c :: (w ++ a)) ((k, String.ofList text) :: sa) := by
  intro r p hr
  obtain ⟨ts, p', h, e⟩ := ha r (mkToken k text (c :: w) p).stop hr
  refine ⟨mkToken k text (c :: w) p :: ts, p', ?_, by simp [e]⟩
  rw [List.cons_append, List.append_assoc, Lexer.tokens_scan _ _ hb hs, hscan, h]
  rfl

theorem ScansTo.word {c : Char} {w text : List Char} {k : TokenKind} (hb : isBlank c = false)
    (hs : c ≠ ';')
    (hscan : ∀ p r, EndsName r → scanToken p c (w ++ r) = (mkToken k text (c :: w) p, r)) :
    ScansTo (c :: w) [(k, String.ofList text)] := by
  intro r p hr
  refine ⟨[mkToken k text (c :: w) p], (mkToken k text (c :: w) p).stop, ?_, rfl⟩
  rw [List.cons_append, Lexer.tokens_scan _ _ hb hs, hscan p r hr]
  rfl

theorem endsName_blank (a r : List Char) : EndsName (' ' :: a ++ r) := Or.inl rfl

theorem endsName_close (c : Char) (hc : c = ')' ∨ c = ']' ∨ c = '}') (r : List Char) :
    EndsName ([c] ++ r) := Or.inr hc

theorem scansTo_close (c : Char) (k : TokenKind) (hb : isBlank c = false) (hs : c ≠ ';')
    (hscan : ∀ p rest, scanToken p c rest = (mkToken k [c] [c] p, rest)) :
    ScansTo [c] [(k, String.ofList [c])] :=
  ScansTo.word hb hs fun p r _ => hscan p r

theorem startsNumber_eq_false {c : Char} {cs r : List Char} (hc : c.isDigit = false)
    (hs : signThenDigit (c :: cs) = false) (hr : EndsName r) : startsNumber c (cs ++ r) = false := by
  cases cs with
  | nil =>
    cases r with
    | nil => simp [startsNumber, hc]
    | cons d r => simp [startsNumber, hc, hr.head_not_digit d rfl]
  | cons d ds => simpa [startsNumber, signThenDigit, hc] using hs

theorem scansTo_symbol {n : String} (h : isSymbolName n = true) :
    ScansTo n.toList [(.symbol, n)] := by
  unfold isSymbolName at h
  cases hn : n.toList with
  | nil => simp [hn] at h
  | cons c cs =>
    simp only [hn, Bool.and_eq_true, Bool.not_eq_true'] at h
    obtain ⟨⟨⟨hstart, hcs⟩, hlit⟩, hsign⟩ := h
    have hsym := isSymbolChar_of_isSymbolStart hstart
    have hdig : c.isDigit = false := by
      cases hd : c.isDigit
      · rfl
      · rw [isSymbolStart_of_isDigit hd] at hstart; exact absurd hstart (by decide)
    have hcolon : c ≠ ':' := by rintro rfl; exact absurd hstart (by decide)
    have hkind : nameKind (c :: cs) = .symbol := by
      simp only [Bool.or_eq_false_iff, beq_eq_false_iff_ne, ne_eq] at hlit
      obtain ⟨⟨h1, h2⟩, h3⟩ := hlit
      have e1 : n.toList ≠ "true".toList := fun h => h1 (String.toList_injective h)
      have e2 : n.toList ≠ "false".toList := fun h => h2 (String.toList_injective h)
      have e3 : n.toList ≠ "nil".toList := fun h => h3 (String.toList_injective h)
      rw [← hn]
      simp only [nameKind, if_neg e1, if_neg e2, if_neg e3]
    have e : n = String.ofList (c :: cs) := by rw [← hn, String.ofList_toList]
    rw [e]
    refine ScansTo.word (isBlank_of_isSymbolChar hsym) (ne_semicolon_of_isSymbolChar hsym) ?_
    intro p r hr
    rw [scanToken_word p hsym hcolon hcs hr (by simp [hstart]), startsNumber_eq_false hdig hsign hr]
    simp [hkind]

theorem scansTo_name (c : Char) (w : List Char) (hc : isSymbolStart c = true)
    (hw : w.all isSymbolChar = true) (hd : c.isDigit = false) (hsign : c ≠ '-' ∧ c ≠ '+') :
    ScansTo (c :: w) [(nameKind (c :: w), String.ofList (c :: w))] := by
  have hsym := isSymbolChar_of_isSymbolStart hc
  have hcolon : c ≠ ':' := by rintro rfl; exact absurd hc (by decide)
  refine ScansTo.word (isBlank_of_isSymbolChar hsym) (ne_semicolon_of_isSymbolChar hsym) ?_
  intro p r hr
  have hn : startsNumber c (w ++ r) = false := by simp [startsNumber, hd, hsign.1, hsign.2]
  rw [scanToken_word p hsym hcolon hw hr (by simp [hc]), hn]
  rfl

theorem scansTo_bool (b : Bool) :
    ScansTo (toString b).toList [(if b then .trueLit else .falseLit, toString b)] := by
  cases b
  · exact scansTo_name 'f' ['a', 'l', 's', 'e'] (by decide) (by decide) (by decide) (by decide)
  · exact scansTo_name 't' ['r', 'u', 'e'] (by decide) (by decide) (by decide) (by decide)

theorem scansTo_nil : ScansTo "nil".toList [(.nilLit, "nil")] :=
  scansTo_name 'n' ['i', 'l'] (by decide) (by decide) (by decide) (by decide)

theorem scansTo_number (c : Char) (w : List Char) (hchars : (c :: w).all isSymbolChar = true)
    (hstart : c.isDigit = true ∨ (c = '-' ∧ ∃ d ds, w = d :: ds ∧ d.isDigit = true)) :
    ScansTo (c :: w) [(numberKind (c :: w), String.ofList (c :: w))] := by
  simp only [List.all_cons, Bool.and_eq_true] at hchars
  have hcolon : c ≠ ':' := by
    rintro rfl
    rcases hstart with h | ⟨h, -⟩
    · exact absurd h (by decide)
    · exact absurd h (by decide)
  refine ScansTo.word (isBlank_of_isSymbolChar hchars.1) (ne_semicolon_of_isSymbolChar hchars.1) ?_
  intro p r hr
  have hn : startsNumber c (w ++ r) = true := by
    rcases hstart with h | ⟨rfl, d, ds, rfl, hd⟩
    · simp [startsNumber, h]
    · simp [startsNumber, hd]
  rw [scanToken_word p hchars.1 hcolon hchars.2 hr (by simp [hn]), hn]
  rfl

theorem numberText_cons {pre D : List Char} (hpre : pre = [] ∨ pre = ['-']) {d : Char}
    {ds : List Char} (hD : D = d :: ds) (hd : d.isDigit = true) :
    ∃ c w, pre ++ D = c :: w ∧
      (c.isDigit = true ∨ (c = '-' ∧ ∃ d ds, w = d :: ds ∧ d.isDigit = true)) := by
  rcases hpre with rfl | rfl
  · exact ⟨d, ds, by rw [hD]; rfl, Or.inl hd⟩
  · exact ⟨'-', D, rfl, Or.inr ⟨rfl, d, ds, hD, hd⟩⟩

theorem all_isSymbolChar_toDigits (n : Nat) : (Nat.toDigits 10 n).all isSymbolChar = true := by
  simp only [List.all_eq_true]
  exact fun c hc => isSymbolChar_of_isDigit (isDigit_of_mem_toDigits hc)

theorem all_isSymbolChar_toString_int (n : Int) : (toString n).toList.all isSymbolChar = true := by
  rw [toList_toString_int, List.all_append, all_isSymbolChar_toDigits]
  split <;> rfl

theorem scansTo_int (n : Int) : ScansTo (toString n).toList [(.integer, toString n)] := by
  obtain ⟨d, ds, hds, hd⟩ := toDigits_head n.natAbs
  obtain ⟨c, w, hcw, hstart⟩ := numberText_cons
    (by split <;> simp : (if n < 0 then ['-'] else []) = [] ∨ _ = ['-']) hds hd
  rw [← toList_toString_int] at hcw
  have h := scansTo_number c w (by rw [← hcw]; exact all_isSymbolChar_toString_int n) hstart
  rwa [← hcw, numberKind_int, String.ofList_toList] at h

theorem scansTo_float (x : Binary64) :
    ScansTo (floatSpelling x) [(.float, String.ofList (floatSpelling x))] := by
  obtain ⟨d, ds, hds, hd⟩ := toDigits_head x.exactDecimal.digits
  obtain ⟨c, w, hcw, hstart⟩ := numberText_cons
    (by split <;> simp : (if x.negative then ['-'] else []) = [] ∨ _ = ['-'])
    (by rw [hds]; rfl : Nat.toDigits 10 x.exactDecimal.digits ++
      'e' :: (toString x.exactDecimal.exp).toList = d :: (ds ++ _)) hd
  rw [← floatSpelling_eq] at hcw
  have hchars : (floatSpelling x).all isSymbolChar = true := by
    rw [floatSpelling_eq, List.all_append, List.all_append, all_isSymbolChar_toDigits,
      List.all_cons, all_isSymbolChar_toString_int]
    split <;> rfl
  have h := scansTo_number c w (by rw [← hcw]; exact hchars) hstart
  rwa [← hcw, numberKind_float] at h

theorem scanStringBody_escapeBody (s r : List Char) :
    scanStringBody (escapeBody s ++ '"' :: r) = (escapeBody s, true, r) := by
  induction s with
  | nil => simp [escapeBody, scanStringBody]
  | cons c cs ih =>
    by_cases h : c = '"' ∨ c = '\\'
    · rcases h with rfl | rfl <;> simp [escapeBody, scanStringBody, ih]
    · simp only [not_or] at h
      rw [escapeBody, if_neg (by simpa using h), List.cons_append, scanStringBody]
      · simp [ih]
      all_goals simp_all

theorem scansTo_string (s : String) :
    ScansTo ('"' :: escapeBody s.toList ++ ['"']) [(.string, String.ofList (escapeBody s.toList))] := by
  refine ScansTo.word (by decide) (by decide) fun p r _ => ?_
  simp [scanToken, scanStringBody_escapeBody]

theorem scansTo_prefixed (sigil : Char) (k : TokenKind) (n : String) (hn : isNameText n = true)
    (hscan : ∀ p cs, scanToken p sigil cs = scanPrefixed k sigil p cs) (hb : isBlank sigil = false)
    (hs : sigil ≠ ';') : ScansTo (sigil :: n.toList) [(k, n)] := by
  simp only [isNameText, Bool.and_eq_true, Bool.not_eq_true', String.isEmpty_eq_false_iff] at hn
  have hne : n.toList ≠ [] := by rw [ne_eq, String.toList_eq_nil_iff]; exact hn.1
  have e : n = String.ofList n.toList := String.ofList_toList.symm
  rw [e]
  refine ScansTo.word hb hs fun p r hr => ?_
  have hspan := spanName_of_stop hn.2 hr.head_not_isSymbolChar
  simp [hscan, scanPrefixed, hspan, hne]

theorem scansTo_collection {c close : Char} (w : List Char) {text items : List Char}
    {k kc : TokenKind} {si : List (TokenKind × String)} (hb : isBlank c = false) (hs : c ≠ ';')
    (hscan : ∀ p rest, scanToken p c (w ++ rest) = (mkToken k text (c :: w) p, rest))
    (hclose : close = ')' ∨ close = ']' ∨ close = '}')
    (hcscan : ∀ p rest, scanToken p close rest = (mkToken kc [close] [close] p, rest))
    (hitems : ScansTo items si) :
    ScansTo (c :: (w ++ (items ++ [close])))
      ((k, String.ofList text) :: (si ++ [(kc, String.ofList [close])])) := by
  have hcb : isBlank close = false ∧ close ≠ ';' := by
    rcases hclose with rfl | rfl | rfl <;> decide
  exact ScansTo.lead hb hs hscan
    (hitems.append (scansTo_close close kc hcb.1 hcb.2 hcscan)
      fun r _ => endsName_close close hclose r)

theorem scanDispatch_tag (p : Nat) {c : Char} {w rest : List Char}
    (hstart : isSymbolStart c = true) (hu : c ≠ '_') (hw : w.all isSymbolChar = true) :
    scanDispatch p (c :: (w ++ ' ' :: rest)) =
      (mkToken .tag (c :: w) ('#' :: c :: w) p, ' ' :: rest) := by
  have hblank : ∀ d ∈ (' ' :: rest).head?, isSymbolChar d = false := by
    intro d hd
    simp only [List.head?_cons, Option.mem_def, Option.some.injEq] at hd
    subst hd
    decide
  have hspan : spanName (w ++ ' ' :: rest) = (w, ' ' :: rest) := spanName_of_stop hw hblank
  have h1 : c ≠ '{' := by rintro rfl; exact absurd hstart (by decide)
  have h2 : c ≠ ':' := by rintro rfl; exact absurd hstart (by decide)
  rw [scanDispatch.eq_4 p c _ h1 h2 hu, if_pos hstart, hspan]

theorem scansTo_tagged {t : String} {x : List Char} {sx : List (TokenKind × String)}
    (ht : isTagName t = true) (hx : ScansTo x sx) :
    ScansTo ('#' :: (t.toList ++ ' ' :: x)) ((.tag, t) :: sx) := by
  unfold isTagName at ht
  cases htl : t.toList with
  | nil => simp [htl] at ht
  | cons c w =>
    simp only [htl, Bool.and_eq_true, bne_iff_ne, ne_eq] at ht
    obtain ⟨⟨hstart, hu⟩, hw⟩ := ht
    intro r p hr
    obtain ⟨ts, p', h, hsh⟩ := hx r ((mkToken .tag (c :: w) ('#' :: c :: w) p).stop + ' '.utf8Size) hr
    refine ⟨mkToken .tag (c :: w) ('#' :: c :: w) p :: ts, p', ?_, ?_⟩
    · have hscan : scanToken p '#' (c :: (w ++ ' ' :: (x ++ r))) =
          (mkToken .tag (c :: w) ('#' :: c :: w) p, ' ' :: (x ++ r)) :=
        scanDispatch_tag p hstart hu hw
      have e : '#' :: (c :: w ++ ' ' :: x) ++ r = '#' :: c :: (w ++ ' ' :: (x ++ r)) := by simp
      rw [e, Lexer.tokens_scan _ _ (by decide) (by decide), hscan,
        Lexer.tokens_blank _ _ (by decide), h]
      rfl
    · simp [hsh, ← htl, String.ofList_toList]

theorem scanDispatch_nsMap (p : Nat) {ns rest : List Char} (hns : ns ≠ [])
    (hw : ns.all isSymbolChar = true) :
    scanDispatch p (':' :: (ns ++ ['{']) ++ rest) =
      (mkToken .nsMapOpen ns ('#' :: ':' :: (ns ++ ['{'])) p, rest) := by
  have hbrace : ∀ d ∈ ('{' :: rest).head?, isSymbolChar d = false := by
    intro d hd
    simp only [List.head?_cons, Option.mem_def, Option.some.injEq] at hd
    subst hd
    decide
  obtain ⟨d, ds, rfl⟩ := List.exists_cons_of_ne_nil hns
  have hspan : spanName (d :: (ds ++ '{' :: rest)) = (d :: ds, '{' :: rest) :=
    spanName_of_stop hw hbrace
  simp [scanDispatch, hspan]

/-! ### Printed forms -/

mutual

/-- The printed text of a printable form scans to its token view. -/
theorem scansTo_printed (f : Form) (hf : f.printable = true) : ScansTo f.printed f.shapes := by
  match f with
  | .list items _ =>
    have h := scansTo_spaced items (by simpa [Form.printable] using hf)
    exact scansTo_collection [] (by decide) (by decide) (fun p rest => by simp [scanToken])
      (Or.inl rfl) (fun p rest => by simp [scanToken]) h
  | .vector items _ =>
    have h := scansTo_spaced items (by simpa [Form.printable] using hf)
    exact scansTo_collection [] (by decide) (by decide) (fun p rest => by simp [scanToken])
      (Or.inr (Or.inl rfl)) (fun p rest => by simp [scanToken]) h
  | .map pairs _ =>
    have h := scansTo_spaced (flatPairs pairs)
      (by rw [← pairsPrintable_eq]; simpa [Form.printable] using hf)
    rw [← spacedPairs_eq, ← pairShapes_eq] at h
    exact scansTo_collection [] (by decide) (by decide) (fun p rest => by simp [scanToken])
      (Or.inr (Or.inr rfl)) (fun p rest => by simp [scanToken]) h
  | .set items _ =>
    have h := scansTo_spaced items (by simpa [Form.printable] using hf)
    exact scansTo_collection ['{'] (by decide) (by decide)
      (fun p rest => by simp [scanToken, scanDispatch]) (Or.inr (Or.inr rfl))
      (fun p rest => by simp [scanToken]) h
  | .nsMap ns pairs sp =>
    simp only [Form.printable, Bool.and_eq_true, isNameText, Bool.not_eq_true',
      String.isEmpty_eq_false_iff] at hf
    obtain ⟨⟨hne, hns⟩, hps⟩ := hf
    have hne' : ns.toList ≠ [] := by rw [ne_eq, String.toList_eq_nil_iff]; exact hne
    have h := scansTo_spaced (flatPairs pairs) (by rw [← pairsPrintable_eq]; exact hps)
    rw [← spacedPairs_eq, ← pairShapes_eq] at h
    have h2 : ScansTo ('#' :: ((':' :: (ns.toList ++ ['{'])) ++ (Form.spacedPairs pairs ++ ['}'])))
        ((.nsMapOpen, String.ofList ns.toList) ::
          (Form.pairShapes pairs ++ [(.rbrace, String.ofList ['}'])])) :=
      scansTo_collection (':' :: (ns.toList ++ ['{'])) (by decide) (by decide)
        (fun p rest => by simp only [scanToken]; exact scanDispatch_nsMap p hne' hns)
        (Or.inr (Or.inr rfl)) (fun p rest => by simp [scanToken]) h
    rw [String.ofList_toList] at h2
    have e : (Form.nsMap ns pairs sp).printed =
        '#' :: ((':' :: (ns.toList ++ ['{'])) ++ (Form.spacedPairs pairs ++ ['}'])) := by
      simp [Form.printed]
    rw [e]
    exact h2
  | .tagged tag v _ =>
    simp only [Form.printable, Bool.and_eq_true] at hf
    exact scansTo_tagged hf.1 (scansTo_printed v hf.2)
  | .symbol n _ => exact scansTo_symbol (by simpa [Form.printable] using hf)
  | .keyword n _ =>
    exact scansTo_prefixed ':' .keyword n (by simpa [Form.printable] using hf)
      (fun p cs => by simp [scanToken]) (by decide) (by decide)
  | .param n _ =>
    exact scansTo_prefixed '$' .param n (by simpa [Form.printable] using hf)
      (fun p cs => by simp [scanToken]) (by decide) (by decide)
  | .str s _ => exact scansTo_string s
  | .int n _ => exact scansTo_int n
  | .float x _ => exact scansTo_float x
  | .bool b _ => exact scansTo_bool b
  | .nil _ => exact scansTo_nil
termination_by sizeOf f
decreasing_by all_goals simp_wf; all_goals (try simp [sizeOf_flatPairs]); all_goals omega

theorem scansTo_spaced (fs : List Form) (h : Form.allPrintable fs = true) :
    ScansTo (Form.spaced fs) (Form.listShapes fs) := by
  match fs with
  | [] => exact ScansTo.nil
  | [f] =>
    have h1 := scansTo_printed f (by simpa [Form.allPrintable] using h)
    simpa [Form.spaced, Form.listShapes] using h1
  | f :: g :: gs =>
    simp only [Form.allPrintable, Bool.and_eq_true] at h
    have h1 := scansTo_printed f h.1
    have h2 := (scansTo_spaced (g :: gs) (by simpa [Form.allPrintable] using h.2)).blank
    exact h1.append h2 fun r _ => endsName_blank _ r
termination_by sizeOf fs
decreasing_by all_goals simp_wf; all_goals omega

end


theorem tokenize_print (f : Form) (hf : f.printable = true) :
    ∃ ts p, tokenize f.print = ts ++ [mkToken .eof [] [] p] ∧ ts.map Token.shape = f.shapes := by
  obtain ⟨ts, p, h, e⟩ := scansTo_printed f hf [] 0 trivial
  have hs : Lexer.start f.print = ⟨f.printed ++ [], 0, false⟩ := by
    simp [Lexer.start, Form.print]
  exact ⟨ts, p, by rw [tokenize_eq_tokens, hs, h, Lexer.tokens_end], e⟩

end Xtql.Edn
