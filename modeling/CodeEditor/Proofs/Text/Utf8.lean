import CodeEditor.Text.Utf8
import Mathlib.Data.List.Basic

/-! # Texts read back from their bytes

The bytes of each character are read back as this character, whatever comes after them.
-/

namespace CodeEditor.Text.Utf8

variable {rest : List UInt8}

/-! ## The steps of reading -/

theorem chars_single {b : UInt8} (h : b < 0x80) :
    chars none (b :: rest) = some (Char.ofNat b.toNat) :: chars none rest := by
  simp only [chars, leadOf, if_pos h]

theorem chars_lead {b low high : UInt8} {following : Nat}
    (h : leadOf b = some (following + 1, low, high)) :
    chars none (b :: rest) =
      chars (some (leadBits b (following + 1), following + 1, low, high)) rest := by
  simp only [chars, h]

/-- A byte that continues a character. -/
def tailByte (n : Nat) : UInt8 := UInt8.ofNat (n % 64 + 128)

theorem toNat_tailByte (n : Nat) : (tailByte n).toNat = n % 64 + 128 := by
  unfold tailByte
  rw [UInt8.toNat_ofNat']
  omega

theorem tailByte_between {n : Nat} {low high : UInt8} (least : low.toNat ≤ n % 64 + 128)
    (most : n % 64 + 128 ≤ high.toNat) : (low ≤ tailByte n && tailByte n ≤ high) = true := by
  rw [Bool.and_eq_true, decide_eq_true_eq, decide_eq_true_eq, UInt8.le_iff_toNat_le,
    UInt8.le_iff_toNat_le, toNat_tailByte]
  exact ⟨least, most⟩

theorem tailByte_mem (n : Nat) : (0x80 ≤ tailByte n && tailByte n ≤ 0xBF) = true :=
  tailByte_between (Nat.le_add_left 128 _) (Nat.add_le_add_right (Nat.le_of_lt_succ (n.mod_lt
    (by decide))) 128)

theorem chars_tail {bits lacking n : Nat} {low high : UInt8}
    (h : (low ≤ tailByte n && tailByte n ≤ high) = true) :
    chars (some (bits, lacking + 2, low, high)) (tailByte n :: rest) =
      chars (some (bits * 64 + n % 64, lacking + 1, 0x80, 0xBF)) rest := by
  have hbits : (tailByte n).toNat % 64 = n % 64 := by
    rw [toNat_tailByte]
    omega
  simp only [chars, h, if_true, hbits]
  rw [if_neg (by omega)]
  rfl

theorem chars_last {bits n : Nat} {low high : UInt8}
    (h : (low ≤ tailByte n && tailByte n ≤ high) = true) :
    chars (some (bits, 1, low, high)) (tailByte n :: rest) =
      some (Char.ofNat (bits * 64 + n % 64)) :: chars none rest := by
  have hbits : (tailByte n).toNat % 64 = n % 64 := by
    rw [toNat_tailByte]
    omega
  simp only [chars, h, if_true, hbits]
  rw [if_pos (Nat.le_refl 1)]

/-! ## Lead bytes -/

theorem leadOf_two : ∀ n < 32, 2 ≤ n → leadOf (UInt8.ofNat (n + 192)) = some (1, 0x80, 0xBF) := by
  decide

theorem leadBits_two : ∀ n < 32, leadBits (UInt8.ofNat (n + 192)) 1 = n := by decide

-- Neither a number for which fewer bytes suffice, nor half of a surrogate pair, nor one that is too
-- large may follow the first byte.
theorem leadOf_three : ∀ n < 16, leadOf (UInt8.ofNat (n + 224)) =
    some (2, if n = 0 then 0xA0 else 0x80, if n = 13 then 0x9F else 0xBF) := by decide

theorem leadBits_three : ∀ n < 16, leadBits (UInt8.ofNat (n + 224)) 2 = n := by decide

theorem leadOf_four : ∀ n < 5, leadOf (UInt8.ofNat (n + 240)) =
    some (3, if n = 0 then 0x90 else 0x80, if n = 4 then 0x8F else 0xBF) := by decide

theorem leadBits_four : ∀ n < 5, leadBits (UInt8.ofNat (n + 240)) 3 = n := by decide

/-! ## Characters -/

theorem chars_encodeChar (c : Char) :
    chars none (String.utf8EncodeChar c ++ rest) = some c :: chars none rest := by
  have hvalid : c.toNat < 0xD800 ∨ 0xDFFF < c.toNat ∧ c.toNat < 0x110000 := c.valid
  have hchar : ∀ code, code = c.toNat → Char.ofNat code = c := by
    rintro _ rfl
    exact Char.ofNat_toNat c
  unfold String.utf8EncodeChar
  simp only
  change chars none ((if c.toNat ≤ 127 then [UInt8.ofNat c.toNat]
    else if c.toNat ≤ 2047 then [UInt8.ofNat (c.toNat / 64 % 32 + 192), tailByte c.toNat]
    else if c.toNat ≤ 65535 then
      [UInt8.ofNat (c.toNat / 4096 % 16 + 224), tailByte (c.toNat / 64), tailByte c.toNat]
    else
      [UInt8.ofNat (c.toNat / 262144 % 8 + 240), tailByte (c.toNat / 4096), tailByte (c.toNat / 64),
        tailByte c.toNat]) ++ rest) = _
  generalize c.toNat = code at hvalid hchar ⊢
  split
  · next h =>
    have hcode : (UInt8.ofNat code).toNat = code := by
      rw [UInt8.toNat_ofNat']
      omega
    rw [List.singleton_append, chars_single, hcode, hchar _ rfl]
    rw [UInt8.lt_iff_toNat_lt, hcode]
    exact Nat.lt_succ_of_le h
  split
  · next hone htwo =>
    have hlead := leadOf_two (code / 64 % 32) (by omega) (by omega)
    simp only [List.cons_append, List.nil_append]
    rw [chars_lead hlead, chars_last (tailByte_mem _), leadBits_two _ (by omega),
      hchar _ (by omega)]
  split
  · next htwo hthree =>
    have hlead := leadOf_three (code / 4096 % 16) (by omega)
    simp only [List.cons_append, List.nil_append]
    rw [chars_lead hlead, chars_tail, chars_last (tailByte_mem _), leadBits_three _ (by omega),
      hchar _ (by omega)]
    refine tailByte_between ?_ ?_ <;> split <;> simp only [UInt8.toNat_ofNat] <;> omega
  · next hthree =>
    have hlead := leadOf_four (code / 262144 % 8) (by omega)
    simp only [List.cons_append, List.nil_append]
    rw [chars_lead hlead, chars_tail, chars_tail (tailByte_mem _), chars_last (tailByte_mem _),
      leadBits_four _ (by omega), hchar _ (by omega)]
    refine tailByte_between ?_ ?_ <;> split <;> simp only [UInt8.toNat_ofNat] <;> omega

/-! ## Texts -/

theorem chars_encode_append (text : List Char) (rest : List UInt8) :
    chars none (encode text ++ rest) = text.map some ++ chars none rest := by
  unfold encode
  induction text with
  | nil => rfl
  | cons c cs ih =>
    rw [List.flatMap_cons, List.append_assoc, chars_encodeChar, ih, List.map_cons, List.cons_append]

theorem chars_encode (text : List Char) : chars none (encode text) = text.map some := by
  simpa [chars] using chars_encode_append text []

theorem decode?_encode (text : List Char) : decode? (encode text) = some text := by
  unfold decode?
  rw [chars_encode]
  induction text with
  | nil => rfl
  | cons c cs ih =>
    rw [List.map_cons, List.mapM_cons, ih]
    rfl

end CodeEditor.Text.Utf8
