import Mathlib.Order.Monotone.Basic
import Mathlib.Data.Prod.Lex
import Mathlib.Data.List.Induction
import Xtql.Text.Position
import Xtql.Proofs.Edn.TokenStream

/-!
Positions as coordinates of a text: the greatest boundary at or below the offset, with its line
and column (`ofOffset_coordinates`).
-/

namespace Xtql.Text

open Xtql.Edn

/-- A character boundary of a text is where a run of its whole characters ends. -/
theorem isValid_iff_split {s : String} {b : Nat} :
    (⟨b⟩ : String.Pos.Raw).IsValid s ↔ ∃ P Q, s.toList = P ++ Q ∧ utf8Length P = b := by
  rw [String.Pos.Raw.isValid_iff_exists_append]
  constructor
  · rintro ⟨s1, s2, rfl, hb⟩
    refine ⟨s1.toList, s2.toList, String.toList_append, ?_⟩
    rw [← utf8ByteSize_eq_utf8Length]
    simp only [String.Pos.Raw.ext_iff, String.byteIdx_rawEndPos] at hb
    exact hb.symm
  · rintro ⟨P, Q, hs, rfl⟩
    refine ⟨String.ofList P, String.ofList Q, ?_, ?_⟩
    · rw [← String.ofList_append, ← hs, String.ofList_toList]
    · rw [String.Pos.Raw.ext_iff, String.byteIdx_rawEndPos, utf8ByteSize_eq_utf8Length,
        String.toList_ofList]

/-! ### Newline bytes -/

theorem char_eq_newline_iff {c : Char} : c = '\n' ↔ c.toNat = 10 := by
  constructor
  · rintro rfl
    rfl
  · intro h
    apply Char.ext
    apply UInt32.toNat_inj.1
    simpa using h

theorem ofNat_ne_newline {n : Nat} (hlo : 128 ≤ n) (hhi : n < 256) : UInt8.ofNat n ≠ 10 := by
  intro h
  have := congrArg UInt8.toNat h
  simp at this
  omega

/-- Only a newline is encoded with the newline byte: every byte of a longer sequence has its
high bit set. -/
theorem newline_not_mem_utf8EncodeChar {c : Char} (hc : c ≠ '\n') :
    (10 : UInt8) ∉ String.utf8EncodeChar c := by
  rw [Ne, char_eq_newline_iff] at hc
  intro hb
  unfold String.utf8EncodeChar at hb
  dsimp only at hb
  split at hb
  · next hsmall =>
    rw [List.mem_singleton] at hb
    have h1 : c.toNat ≤ 127 := hsmall
    have := congrArg UInt8.toNat hb
    simp [UInt8.toNat_ofNat] at this
    omega
  -- a lead byte is at least 0xC0 and a continuation byte at least 0x80
  split at hb
  · simp only [List.mem_cons, List.not_mem_nil, or_false] at hb
    rcases hb with h | h <;> exact ofNat_ne_newline (by omega) (by omega) h.symm
  split at hb
  · simp only [List.mem_cons, List.not_mem_nil, or_false] at hb
    rcases hb with h | h | h <;> exact ofNat_ne_newline (by omega) (by omega) h.symm
  · simp only [List.mem_cons, List.not_mem_nil, or_false] at hb
    rcases hb with h | h | h | h <;> exact ofNat_ne_newline (by omega) (by omega) h.symm

theorem count_newline_utf8EncodeChar (c : Char) :
    (String.utf8EncodeChar c).count 10 = if c = '\n' then 1 else 0 := by
  by_cases hc : c = '\n'
  · subst hc
    rfl
  · rw [if_neg hc, List.count_eq_zero]
    exact newline_not_mem_utf8EncodeChar hc

theorem count_newline_utf8Encode (P : List Char) :
    P.utf8Encode.data.toList.count 10 = P.count '\n' := by
  induction P with
  | nil => rfl
  | cons c P ih =>
    rw [List.utf8Encode_cons, List.utf8Encode_singleton, ByteArray.toList_data_append,
      List.toList_data_toByteArray, List.count_append, ih, count_newline_utf8EncodeChar,
      List.count_cons]
    by_cases hc : c = '\n' <;> simp [hc, Nat.add_comm]

theorem extract_toByteArray {s : String} {P Q : List Char} (h : s.toList = P ++ Q) :
    s.toByteArray.extract 0 (utf8Length P) = P.utf8Encode := by
  rw [← String.ofList_toList (s := s), h, String.toByteArray_ofList, List.utf8Encode_append]
  apply ByteArray.extract_append_eq_left
  rw [← String.toByteArray_ofList, String.size_toByteArray, utf8ByteSize_eq_utf8Length,
    String.toList_ofList]

namespace Position

/-! ### One character at a time -/

/-- The position after one more character: a newline starts the next line. -/
def next (p : Position) (c : Char) : Position :=
  if c = '\n' then { offset := p.offset + 1, line := p.line + 1, column := 1 }
  else { p with offset := p.offset + c.utf8Size, column := p.column + 1 }

def origin : Position := { offset := 0, line := 1, column := 1 }

theorem next_offset (p : Position) (c : Char) : (p.next c).offset = p.offset + c.utf8Size := by
  unfold next
  split
  · next hc =>
    subst hc
    rfl
  · rfl

theorem next_line (p : Position) (c : Char) :
    (p.next c).line = p.line + if c = '\n' then 1 else 0 := by
  unfold next
  split <;> rfl

theorem next_column (p : Position) (c : Char) :
    (p.next c).column = if c = '\n' then 1 else p.column + 1 := by
  unfold next
  split <;> rfl

def key (p : Position) : Lex (Nat × Nat) := toLex (p.line, p.column)

theorem key_lt_next (p : Position) (c : Char) : p.key < (p.next c).key := by
  rw [key, key, Prod.Lex.toLex_lt_toLex, next_line, next_column]
  by_cases hc : c = '\n'
  · simp [hc]
  · simp [hc]

theorem ofOffset_eq (s : String) (o : Nat) : ofOffset s o = advance origin s.toList o := rfl

theorem advance_cons_of_le {here : Position} {c : Char} {cs : List Char} {b : Nat}
    (h : c.utf8Size ≤ b) : advance here (c :: cs) b = advance (here.next c) cs (b - c.utf8Size) := by
  rw [advance, if_pos h]
  rfl

theorem advance_cons_of_lt {here : Position} {c : Char} {cs : List Char} {b : Nat}
    (h : b < c.utf8Size) : advance here (c :: cs) b = here := by
  rw [advance, if_neg (by omega)]

/-! ### Walking over whole characters -/

theorem foldl_next_offset (P : List Char) (p : Position) :
    (P.foldl next p).offset = p.offset + utf8Length P := by
  induction P generalizing p with
  | nil => rfl
  | cons c P ih =>
    rw [List.foldl_cons, ih, next_offset, utf8Length_cons]
    omega

theorem foldl_next_line (P : List Char) (p : Position) :
    (P.foldl next p).line = p.line + P.count '\n' := by
  induction P generalizing p with
  | nil => rfl
  | cons c P ih =>
    rw [List.foldl_cons, ih, next_line, List.count_cons]
    by_cases hc : c = '\n' <;> simp [hc]
    omega

theorem foldl_next_column (P : List Char) (p : Position) :
    (P.foldl next p).column =
      (if '\n' ∈ P then 1 else p.column) + (P.reverse.takeWhile (· != '\n')).length := by
  induction P using List.reverseRecOn with
  | nil => simp
  | append_singleton P c ih =>
    rw [List.foldl_append, List.foldl_cons, List.foldl_nil, next_column, List.reverse_append,
      List.reverse_singleton, List.singleton_append, List.takeWhile_cons]
    by_cases hc : c = '\n'
    · simp [hc]
    · simp [hc, Ne.symm hc, ih, Nat.add_assoc]

theorem key_le_foldl (P : List Char) (p : Position) : p.key ≤ (P.foldl next p).key := by
  induction P generalizing p with
  | nil => exact le_refl _
  | cons c P ih => exact (key_lt_next p c).le.trans (ih _)

theorem key_lt_foldl {P : List Char} (hP : P ≠ []) (p : Position) :
    p.key < (P.foldl next p).key := by
  obtain ⟨c, P, rfl⟩ := List.exists_cons_of_ne_nil hP
  exact (key_lt_next p c).trans_le (key_le_foldl P _)

/-! ### The characters that fit -/

theorem exists_fit (cs : List Char) (b : Nat) :
    ∃ P Q, cs = P ++ Q ∧ utf8Length P ≤ b ∧ ∀ c ∈ Q.head?, b < utf8Length P + c.utf8Size := by
  induction cs generalizing b with
  | nil => exact ⟨[], [], rfl, Nat.zero_le _, by simp⟩
  | cons c cs ih =>
    by_cases hc : c.utf8Size ≤ b
    · obtain ⟨P, Q, rfl, hP, hQ⟩ := ih (b - c.utf8Size)
      refine ⟨c :: P, Q, rfl, by rw [utf8Length_cons]; omega, fun x hx => ?_⟩
      have := hQ x hx
      rw [utf8Length_cons]
      omega
    · exact ⟨[], c :: cs, rfl, Nat.zero_le _, by simp; omega⟩

theorem advance_of_fit {P Q : List Char} {b : Nat} (hP : utf8Length P ≤ b)
    (hQ : ∀ c ∈ Q.head?, b < utf8Length P + c.utf8Size) (here : Position) :
    advance here (P ++ Q) b = P.foldl next here := by
  induction P generalizing here b with
  | nil =>
    cases Q with
    | nil => rfl
    | cons c Q => exact advance_cons_of_lt (by simpa using hQ c rfl)
  | cons c P ih =>
    rw [utf8Length_cons] at hP
    rw [List.cons_append, advance_cons_of_le (by omega), List.foldl_cons]
    refine ih (by omega) (fun x hx => ?_) _
    have := hQ x hx
    rw [utf8Length_cons] at this
    omega

theorem utf8Length_le_of_fit {P Q P' Q' : List Char} {b : Nat} (h : P ++ Q = P' ++ Q')
    (hQ : ∀ c ∈ Q.head?, b < utf8Length P + c.utf8Size) (hP' : utf8Length P' ≤ b) :
    utf8Length P' ≤ utf8Length P := by
  rcases List.append_eq_append_iff.1 h with ⟨A, rfl, rfl⟩ | ⟨C, rfl, -⟩
  · cases A with
    | nil => simp
    | cons x A =>
      have := hQ x rfl
      rw [utf8Length_append, utf8Length_cons] at hP'
      omega
  · rw [utf8Length_append]
    omega

theorem ofOffset_of_split {s : String} {P Q : List Char} (h : s.toList = P ++ Q) :
    ofOffset s (utf8Length P) = P.foldl next origin := by
  rw [ofOffset_eq, h]
  refine advance_of_fit (Nat.le_refl _) (fun c _ => ?_) _
  have := Char.utf8Size_pos c
  omega

/-! ### The position of an offset -/

/-- The offset of a position is the greatest character boundary at or below the offset asked for
and the end of the text. -/
theorem ofOffset_offset_greatest (s : String) (o : Nat) :
    (⟨(ofOffset s o).offset⟩ : String.Pos.Raw).IsValid s ∧
      (ofOffset s o).offset ≤ min o s.utf8ByteSize ∧
      ∀ b, (⟨b⟩ : String.Pos.Raw).IsValid s → b ≤ min o s.utf8ByteSize → b ≤ (ofOffset s o).offset := by
  obtain ⟨P, Q, hs, hP, hQ⟩ := exists_fit s.toList o
  have hoff : (ofOffset s o).offset = utf8Length P := by
    rw [ofOffset_eq, hs, advance_of_fit hP hQ, foldl_next_offset]
    exact Nat.zero_add _
  have hsize : s.utf8ByteSize = utf8Length P + utf8Length Q := by
    rw [utf8ByteSize_eq_utf8Length, hs, utf8Length_append]
  refine ⟨isValid_iff_split.2 ⟨P, Q, hs, hoff.symm⟩, by omega, fun b hb hle => ?_⟩
  obtain ⟨P', Q', hs', rfl⟩ := isValid_iff_split.1 hb
  rw [hoff]
  exact utf8Length_le_of_fit (hs.symm.trans hs') hQ (by omega)

/-- A position stands at a run of whole characters; its line counts the newlines among them and
its column the characters after the last one. -/
theorem ofOffset_exists_split (s : String) (o : Nat) :
    ∃ P Q, s.toList = P ++ Q ∧ utf8Length P = (ofOffset s o).offset ∧
      (ofOffset s o).line = 1 + P.count '\n' ∧
      (ofOffset s o).column = 1 + (P.reverse.takeWhile (· != '\n')).length := by
  obtain ⟨P, Q, hs, hP, hQ⟩ := exists_fit s.toList o
  have h : ofOffset s o = P.foldl next origin := by rw [ofOffset_eq, hs, advance_of_fit hP hQ]
  refine ⟨P, Q, hs, ?_, ?_, ?_⟩
  · rw [h, foldl_next_offset]
    exact (Nat.zero_add _).symm
  · rw [h, foldl_next_line]
    rfl
  · rw [h, foldl_next_column]
    split <;> rfl

theorem ofOffset_line (s : String) (o : Nat) :
    (ofOffset s o).line = 1 + (s.toByteArray.extract 0 (ofOffset s o).offset).data.toList.count 10 := by
  obtain ⟨P, Q, hs, hoff, hline, -⟩ := ofOffset_exists_split s o
  rw [hline, ← hoff, extract_toByteArray hs, count_newline_utf8Encode]

theorem ofOffset_next {s : String} {P Q : List Char} {c : Char} (h : s.toList = P ++ c :: Q) :
    ofOffset s (utf8Length P + c.utf8Size) = (ofOffset s (utf8Length P)).next c := by
  have h' : s.toList = (P ++ [c]) ++ Q := by rw [h, List.append_assoc, List.singleton_append]
  have hlen : utf8Length (P ++ [c]) = utf8Length P + c.utf8Size := by
    rw [utf8Length_append, utf8Length_cons, utf8Length_nil, Nat.add_zero]
  rw [← hlen, ofOffset_of_split h', ofOffset_of_split h, List.foldl_append]
  rfl

/-- From boundary to boundary, line and column grow strictly in lexicographic order. -/
theorem lineColumn_strictMonoOn (s : String) :
    StrictMonoOn (fun b => (ofOffset s b).key) {b | (⟨b⟩ : String.Pos.Raw).IsValid s} := by
  intro p hp q hq hlt
  obtain ⟨P, Q, hP, rfl⟩ := isValid_iff_split.1 hp
  obtain ⟨R, Q', hR, rfl⟩ := isValid_iff_split.1 hq
  dsimp only
  rw [ofOffset_of_split hP, ofOffset_of_split hR]
  -- the shorter run is a proper prefix of the longer one
  rcases List.append_eq_append_iff.1 (hP.symm.trans hR) with ⟨A, rfl, -⟩ | ⟨C, rfl, -⟩
  · rw [List.foldl_append]
    refine key_lt_foldl ?_ _
    rintro rfl
    simp at hlt
  · rw [utf8Length_append] at hlt
    omega

end Position

/-- The position of a byte offset: the greatest character boundary at or below the offset and the
end, with its line one more than the newline bytes before it and its column one more than the
characters since the last newline. Over the boundaries, line and column grow strictly in
lexicographic order, so no two boundaries share them, and each character moves the column on by
one while a newline moves to column one of the next line. -/
theorem ofOffset_coordinates (s : String) (o : Nat) :
    ((⟨(Position.ofOffset s o).offset⟩ : String.Pos.Raw).IsValid s ∧
      (Position.ofOffset s o).offset ≤ min o s.utf8ByteSize ∧
      ∀ b, (⟨b⟩ : String.Pos.Raw).IsValid s → b ≤ min o s.utf8ByteSize →
        b ≤ (Position.ofOffset s o).offset) ∧
    (Position.ofOffset s o).line =
      1 + (s.toByteArray.extract 0 (Position.ofOffset s o).offset).data.toList.count 10 ∧
    (∃ P Q, s.toList = P ++ Q ∧ utf8Length P = (Position.ofOffset s o).offset ∧
      (Position.ofOffset s o).column = 1 + (P.reverse.takeWhile (· != '\n')).length) ∧
    StrictMonoOn (fun b => toLex ((Position.ofOffset s b).line, (Position.ofOffset s b).column))
      {b | (⟨b⟩ : String.Pos.Raw).IsValid s} ∧
    Set.InjOn (fun b => ((Position.ofOffset s b).line, (Position.ofOffset s b).column))
      {b | (⟨b⟩ : String.Pos.Raw).IsValid s} ∧
    ∀ P c Q, s.toList = P ++ c :: Q →
      (Position.ofOffset s (utf8Length P + c.utf8Size)).line =
        (Position.ofOffset s (utf8Length P)).line + (if c = '\n' then 1 else 0) ∧
      (Position.ofOffset s (utf8Length P + c.utf8Size)).column =
        if c = '\n' then 1 else (Position.ofOffset s (utf8Length P)).column + 1 := by
  obtain ⟨P, Q, hs, hoff, -, hcol⟩ := Position.ofOffset_exists_split s o
  have hmono := Position.lineColumn_strictMonoOn s
  refine ⟨Position.ofOffset_offset_greatest s o, Position.ofOffset_line s o,
    ⟨P, Q, hs, hoff, hcol⟩, hmono, fun p hp q hq hpq => hmono.injOn hp hq ?_,
    fun P c Q h => ?_⟩
  · exact congrArg toLex hpq
  · rw [Position.ofOffset_next h]
    exact ⟨Position.next_line _ c, Position.next_column _ c⟩

end Xtql.Text
