/-!
UTF-8 byte lengths, and decoding that finds the first byte where well-formed UTF-8 stops.
-/

namespace Xtql.Text

def utf8Length : List Char → Nat
  | [] => 0
  | c :: cs => c.utf8Size + utf8Length cs

@[simp] theorem utf8Length_nil : utf8Length [] = 0 := rfl

@[simp] theorem utf8Length_cons (c : Char) (cs : List Char) :
    utf8Length (c :: cs) = c.utf8Size + utf8Length cs := rfl

theorem utf8Length_append (xs ys : List Char) :
    utf8Length (xs ++ ys) = utf8Length xs + utf8Length ys := by
  induction xs with
  | nil => simp
  | cons c cs ih => simp [ih, Nat.add_assoc]

def tailBits (lo hi : Nat) (b : UInt8) : Option Nat :=
  if lo ≤ b.toNat ∧ b.toNat ≤ hi then some (b.toNat - 0x80) else none

/-- The character that a well-formed sequence at the head of the bytes encodes, and the
bytes after it; `none` when the head is no well-formed sequence. -/
def decodeChar : List UInt8 → Option (Char × List UInt8)
  | [] => none
  | b :: rest =>
    let n := b.toNat
    if n < 0x80 then some (Char.ofNat n, rest)
    else if 0xC2 ≤ n ∧ n ≤ 0xDF then
      match rest with
      | b1 :: r => (tailBits 0x80 0xBF b1).map fun t => (Char.ofNat ((n - 0xC0) * 64 + t), r)
      | [] => none
    else if 0xE0 ≤ n ∧ n ≤ 0xEF then
      -- E0 needs A0..BF next (no overlong form), ED needs 80..9F (no surrogate)
      let lo := if n = 0xE0 then 0xA0 else 0x80
      let hi := if n = 0xED then 0x9F else 0xBF
      match rest with
      | b1 :: b2 :: r => do
        let t1 ← tailBits lo hi b1
        let t2 ← tailBits 0x80 0xBF b2
        some (Char.ofNat ((n - 0xE0) * 4096 + t1 * 64 + t2), r)
      | _ => none
    else if 0xF0 ≤ n ∧ n ≤ 0xF4 then
      -- F0 needs 90..BF next (no overlong form), F4 needs 80..8F (nothing past U+10FFFF)
      let lo := if n = 0xF0 then 0x90 else 0x80
      let hi := if n = 0xF4 then 0x8F else 0xBF
      match rest with
      | b1 :: b2 :: b3 :: r => do
        let t1 ← tailBits lo hi b1
        let t2 ← tailBits 0x80 0xBF b2
        let t3 ← tailBits 0x80 0xBF b3
        some (Char.ofNat ((n - 0xF0) * 262144 + t1 * 4096 + t2 * 64 + t3), r)
      | _ => none
    else none

theorem decodeChar_length {bs : List UInt8} {c : Char} {r : List UInt8}
    (h : decodeChar bs = some (c, r)) : r.length < bs.length := by
  unfold decodeChar at h
  split at h
  · simp at h
  · rename_i b rest
    simp only at h
    split at h
    · simp at h; obtain ⟨-, rfl⟩ := h; simp
    split at h
    · split at h
      · simp [Option.map_eq_some_iff] at h; obtain ⟨_, _, -, rfl⟩ := h
        simp only [List.length_cons]; omega
      · simp at h
    split at h
    · split at h
      · simp [Option.bind_eq_some_iff] at h; obtain ⟨_, _, _, _, -, rfl⟩ := h; simp; omega
      · simp at h
    split at h
    · split at h
      · simp [Option.bind_eq_some_iff] at h
        obtain ⟨_, _, _, _, _, _, -, rfl⟩ := h; simp; omega
      · simp at h
    · simp at h

def sequenceWidth (b : UInt8) : Nat :=
  if b.toNat < 0x80 then 1
  else if b.toNat < 0xE0 then 2
  else if b.toNat < 0xF0 then 3
  else 4

theorem decodeChar_width {b : UInt8} {bs : List UInt8} {c : Char} {r : List UInt8}
    (h : decodeChar (b :: bs) = some (c, r)) : (b :: bs).length = sequenceWidth b + r.length := by
  unfold decodeChar at h
  simp only at h
  by_cases h1 : b.toNat < 0x80
  · rw [if_pos h1] at h
    simp only [Option.some.injEq, Prod.mk.injEq] at h
    obtain ⟨-, rfl⟩ := h
    simp [sequenceWidth, h1]
    omega
  rw [if_neg h1] at h
  by_cases h2 : 0xC2 ≤ b.toNat ∧ b.toNat ≤ 0xDF
  · rw [if_pos h2] at h
    split at h
    · simp [Option.map_eq_some_iff] at h
      obtain ⟨_, _, -, rfl⟩ := h
      simp [sequenceWidth, h1, show b.toNat < 0xE0 by omega]
      omega
    · simp at h
  rw [if_neg h2] at h
  by_cases h3 : 0xE0 ≤ b.toNat ∧ b.toNat ≤ 0xEF
  · rw [if_pos h3] at h
    split at h
    · simp [Option.bind_eq_some_iff] at h
      obtain ⟨_, _, _, _, -, rfl⟩ := h
      simp [sequenceWidth, h1, show ¬ b.toNat < 0xE0 by omega, show b.toNat < 0xF0 by omega]
      omega
    · simp at h
  rw [if_neg h3] at h
  by_cases h4 : 0xF0 ≤ b.toNat ∧ b.toNat ≤ 0xF4
  · rw [if_pos h4] at h
    split at h
    · simp [Option.bind_eq_some_iff] at h
      obtain ⟨_, _, _, _, _, _, -, rfl⟩ := h
      simp [sequenceWidth, h1, show ¬ b.toNat < 0xE0 by omega, show ¬ b.toNat < 0xF0 by omega]
      omega
    · simp at h
  rw [if_neg h4] at h
  simp at h

/-- Decodes UTF-8 bytes, or gives the offset of the first byte that starts no well-formed
sequence (every byte before it belongs to a well-formed one). -/
def decodeUtf8From (offset : Nat) (bs : List UInt8) : Except Nat (List Char) :=
  match bs with
  | [] => .ok []
  | b :: tail =>
    match _h : decodeChar (b :: tail) with
    | none => .error offset
    | some (c, rest) =>
      (decodeUtf8From (offset + sequenceWidth b) rest).map (c :: ·)
termination_by bs.length
decreasing_by exact decodeChar_length _h

def decodeUtf8 (bs : List UInt8) : Except Nat String :=
  (decodeUtf8From 0 bs).map String.ofList

end Xtql.Text
