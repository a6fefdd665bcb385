import CodeEditor.Proofs.Boundary
import CodeEditor.Proofs.Color.Digits
import CodeEditor.Proofs.Text.Utf8

/-! # Colors read from bytes

The reader of colors once more, by the bytes of its digits, two of which are cut out for each channel. A
cut past the end or inside a character has no answer. None is made: a text with a character of more bytes
is turned down before.
-/

namespace CodeEditor

namespace Text

/-- The piece of a text between two of its boundaries. -/
def cut? (text : List Char) (s : Span) : Option (List Char) :=
  if s.start ≤ s.stop ∧ floorBoundary text s.start = s.start ∧
      floorBoundary text s.stop = s.stop then
    some (splitAtByte (splitAtByte text s.stop).1 s.start).2
  else none

theorem cut?_append (before piece after : List Char) :
    cut? (before ++ piece ++ after) ⟨byteLength before, byteLength (before ++ piece)⟩ =
      some piece := by
  have hstart : IsBoundary (before ++ piece ++ after) (byteLength before) :=
    ⟨before, piece ++ after, List.append_assoc _ _ _, rfl⟩
  have hstop : IsBoundary (before ++ piece ++ after) (byteLength (before ++ piece)) :=
    ⟨before ++ piece, after, rfl, rfl⟩
  have hordered : byteLength before ≤ byteLength (before ++ piece) := by
    rw [byteLength_append]
    exact Nat.le_add_right _ _
  rw [cut?, if_pos ⟨hordered, floorBoundary_eq hstart, floorBoundary_eq hstop⟩,
    splitAtByte_byteLength, splitAtByte_byteLength]

end Text

namespace Color

/-! ## Reading -/

def isHexByte (b : UInt8) : Bool :=
  (0x30 ≤ b && b ≤ 0x39) || (0x61 ≤ b && b ≤ 0x66) || (0x41 ≤ b && b ≤ 0x46)

/-- One more digit of a number, as long as the number fits a byte. -/
def appendDigit? (number : Nat) (c : Char) : Option Nat := do
  let number := number * 16 + (← hexValue? c).toNat
  if number < 256 then some number else none

/-- Reads a byte from at least one hexadecimal digit, with or without a plus sign in front. -/
def readByte? (piece : List Char) : Option UInt8 :=
  let digits := if piece.head? = some '+' then piece.tail else piece
  if digits = [] then none else (digits.foldlM appendDigit? 0).map UInt8.ofNat

/-- The byte that is written from an offset on. There is no answer when it cannot be cut out. -/
def channel? (digits : List Char) (start : Nat) : OptionT Option UInt8 :=
  OptionT.mk ((Text.cut? digits ⟨start, start + 2⟩).map readByte?)

/-- The color that digits write. Their number is that of their bytes. -/
def ofBytes? (digits : List Char) : OptionT Option Color :=
  if (Text.Utf8.encode digits).all isHexByte then
    match Text.byteLength digits with
    | 6 => return rgb (← channel? digits 0) (← channel? digits 2) (← channel? digits 4)
    | 8 =>
      return ⟨← channel? digits 2, ← channel? digits 4, ← channel? digits 6, ← channel? digits 0⟩
    | _ => failure
  else failure

/-! ## Bytes of digits -/

theorem isHexByte_iff (b : UInt8) : isHexByte b = true ↔ IsHexCode b.toNat := by
  simp only [isHexByte, Bool.or_eq_true, Bool.and_eq_true, decide_eq_true_eq,
    UInt8.le_iff_toNat_le, or_assoc]
  rfl

theorem encodeChar_of_isAsciiHexDigit {c : Char} (h : Text.isAsciiHexDigit c = true) :
    String.utf8EncodeChar c = [UInt8.ofNat c.toNat] := by
  have hlt := ((isAsciiHexDigit_iff c).mp h).lt
  apply String.utf8EncodeChar_eq_singleton
  rw [Char.utf8Size_eq_one_iff, UInt32.le_iff_toNat_le]
  exact Nat.le_of_lt_succ hlt

theorem toNat_ofNat_of_lt : ∀ n < 128, (Char.ofNat n).toNat = n := by decide

theorem all_isHexByte (c : Char) :
    (String.utf8EncodeChar c).all isHexByte = Text.isAsciiHexDigit c := by
  rw [Bool.eq_iff_iff]
  constructor
  · intro h
    have hread : Text.Utf8.chars none (String.utf8EncodeChar c ++ []) = [some c] :=
      Text.Utf8.chars_encodeChar c
    cases hbytes : String.utf8EncodeChar c with
    | nil =>
      rw [hbytes] at hread
      cases hread
    | cons b bytes =>
      rw [hbytes, List.all_cons, Bool.and_eq_true, isHexByte_iff] at h
      have hsmall : b < 0x80 := UInt8.lt_iff_toNat_lt.mpr h.1.lt
      rw [hbytes, List.cons_append, Text.Utf8.chars_single hsmall, List.cons.injEq,
        Option.some.injEq] at hread
      rw [isAsciiHexDigit_iff, ← hread.1, toNat_ofNat_of_lt _ h.1.lt]
      exact h.1
  · intro h
    have hcode := (isAsciiHexDigit_iff c).mp h
    have hlt := hcode.lt
    rw [encodeChar_of_isAsciiHexDigit h, List.all_cons, List.all_nil, Bool.and_true, isHexByte_iff,
      UInt8.toNat_ofNat', Nat.mod_eq_of_lt (by omega)]
    exact hcode

theorem all_isHexByte_encode (digits : List Char) :
    (Text.Utf8.encode digits).all isHexByte = digits.all Text.isAsciiHexDigit := by
  unfold Text.Utf8.encode
  induction digits with
  | nil => rfl
  | cons c cs ih => rw [List.flatMap_cons, List.all_append, all_isHexByte, ih, List.all_cons]

/-! ## Pieces of digits -/

variable {digits : List Char}

theorem byteLength_of_digits (h : ∀ d ∈ digits, Text.isAsciiHexDigit d = true) :
    Text.byteLength digits = digits.length := by
  induction digits with
  | nil => rfl
  | cons c cs ih =>
    obtain ⟨hc, hcs⟩ := List.forall_mem_cons.mp h
    have hsize : c.utf8Size = 1 := by
      rw [← String.length_utf8EncodeChar, encodeChar_of_isAsciiHexDigit hc]
      rfl
    rw [Text.byteLength_cons, ih hcs, hsize, List.length_cons, Nat.add_comm]

theorem appendDigit?_eq {number : Nat} {c : Char} {v : UInt8} (small : number < 16)
    (h : hexValue? c = some v) : appendDigit? number c = some (number * 16 + v.toNat) := by
  have hv := (hexValue?_eq_some.mp h).1
  simp only [appendDigit?, h, Option.bind_eq_bind, Option.bind_some]
  rw [if_pos (by omega)]

theorem readByte?_pair {high low : Char} (hhigh : Text.isAsciiHexDigit high = true)
    (hlow : Text.isAsciiHexDigit low = true) : readByte? [high, low] = byte? high low := by
  have hplus : high ≠ '+' := by
    rintro rfl
    exact absurd hhigh (by decide)
  rw [← isSome_hexValue?] at hhigh hlow
  obtain ⟨h, hh⟩ := Option.isSome_iff_exists.mp hhigh
  obtain ⟨l, hl⟩ := Option.isSome_iff_exists.mp hlow
  have hfirst : appendDigit? 0 high = some h.toNat := by
    rw [appendDigit?_eq (by decide) hh, Nat.zero_mul, Nat.zero_add]
  have hboth := appendDigit?_eq (hexValue?_eq_some.mp hh).1 hl
  simp [readByte?, hplus, hfirst, hboth, byte?, hh, hl]

theorem channel?_append (before : List Char) {after : List Char} {high low : Char}
    (h : ∀ d ∈ before ++ high :: low :: after, Text.isAsciiHexDigit d = true) :
    channel? (before ++ high :: low :: after) before.length = OptionT.mk (some (byte? high low)) := by
  have hbefore := byteLength_of_digits fun d hd => h d (List.mem_append_left _ hd)
  have hpair : ∀ d ∈ before ++ [high, low], Text.isAsciiHexDigit d = true := by
    intro d hd
    exact h d (by simp at hd ⊢; tauto)
  have hcut := Text.cut?_append before [high, low] after
  rw [hbefore, byteLength_of_digits hpair, List.length_append, List.append_assoc] at hcut
  have hhigh : Text.isAsciiHexDigit high = true := h high (by simp)
  have hlow : Text.isAsciiHexDigit low = true := h low (by simp)
  unfold channel?
  rw [← readByte?_pair hhigh hlow]
  exact congrArg (fun piece => OptionT.mk (Option.map readByte? piece)) hcut

theorem ofBytes?_eq (digits : List Char) : ofBytes? digits = OptionT.mk (some (ofDigits? digits)) := by
  unfold ofBytes?
  rw [all_isHexByte_encode]
  split
  · next hall =>
    rw [List.all_eq_true] at hall
    rw [byteLength_of_digits hall]
    split
    · next hsix =>
      obtain ⟨r₁, r₀, g₁, g₀, b₁, b₀, rfl⟩ := exists_six hsix
      have hr := channel?_append [] hall
      have hg := channel?_append [r₁, r₀] hall
      have hb := channel?_append [r₁, r₀, g₁, g₀] hall
      simp only [List.nil_append, List.cons_append, List.length_nil, List.length_cons] at hr hg hb
      rw [hr, hg, hb]
      simp only [ofDigits?]
      cases byte? r₁ r₀ <;> cases byte? g₁ g₀ <;> cases byte? b₁ b₀ <;> rfl
    · next height =>
      obtain ⟨a₁, a₀, r₁, r₀, g₁, g₀, b₁, b₀, rfl⟩ := exists_eight height
      have ha := channel?_append [] hall
      have hr := channel?_append [a₁, a₀] hall
      have hg := channel?_append [a₁, a₀, r₁, r₀] hall
      have hb := channel?_append [a₁, a₀, r₁, r₀, g₁, g₀] hall
      simp only [List.nil_append, List.cons_append, List.length_nil, List.length_cons] at ha hr hg hb
      rw [ha, hr, hg, hb]
      simp only [ofDigits?]
      cases byte? a₁ a₀ <;> cases byte? r₁ r₀ <;> cases byte? g₁ g₀ <;> cases byte? b₁ b₀ <;> rfl
    · next hsix height =>
      rw [ofDigits?_eq_none fun h => h.1.elim hsix height]
      rfl
  · next hall =>
    rw [ofDigits?_eq_none fun h => hall (List.all_eq_true.mpr h.2)]
    rfl

end Color

end CodeEditor
