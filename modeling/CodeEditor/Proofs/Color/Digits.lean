import CodeEditor.Color

/-! # The digits of a color

A byte is read from two digits exactly when these, in lowercase, are its digits in base sixteen; and a
color from six or eight of them, by its channels.
-/

namespace CodeEditor.Color

variable {c : Char}

/-! ## Characters that are digits -/

/-- The numbers of the characters that are hexadecimal digits. -/
def IsHexCode (n : Nat) : Prop := (48 ≤ n ∧ n ≤ 57) ∨ (97 ≤ n ∧ n ≤ 102) ∨ (65 ≤ n ∧ n ≤ 70)

theorem IsHexCode.lt {n : Nat} (h : IsHexCode n) : n < 128 := by
  unfold IsHexCode at h
  omega

theorem isAsciiHexDigit_iff (c : Char) :
    Text.isAsciiHexDigit c = true ↔ IsHexCode c.toNat := by
  simp only [Text.isAsciiHexDigit, Text.isAsciiDigit, Bool.or_eq_true, Bool.and_eq_true,
    decide_eq_true_eq, Char.le_def, UInt32.le_iff_toNat_le, or_assoc]
  rfl

theorem isSome_hexValue? (c : Char) : (hexValue? c).isSome = Text.isAsciiHexDigit c := by
  unfold hexValue? Text.isAsciiHexDigit Text.isAsciiDigit
  split
  · next h => simp [h]
  · next hdigit =>
    split
    · next h => simp [h]
    · next hsmall => split <;> simp_all

theorem lt_of_hexValue? {v : UInt8} (h : hexValue? c = some v) : c.toNat < 128 := by
  have hdigit := isSome_hexValue? c
  rw [h, Option.isSome_some, eq_comm, isAsciiHexDigit_iff] at hdigit
  exact hdigit.lt

theorem lt_of_toLower {n : Nat} (h : c.toLower = Nat.digitChar n) (small : n < 16) :
    c.toNat < 128 := by
  have hdigits : ∀ n < 16, (Nat.digitChar n).toNat < 128 := by decide
  have hlower := hdigits n small
  rw [← h] at hlower
  by_cases hcapital : c.val ≥ 'A'.val ∧ c.val ≤ 'Z'.val
  · exact Nat.lt_of_le_of_lt (UInt32.le_iff_toNat_le.mp hcapital.2) (by decide)
  · have hsame : c.toLower = c := dif_neg hcapital
    rwa [hsame] at hlower

theorem digit_of_hexValue? : ∀ n < 128, ∀ v ∈ hexValue? (Char.ofNat n),
    v.toNat < 16 ∧ (Char.ofNat n).toLower = Nat.digitChar v.toNat := by decide +kernel

theorem hexValue?_of_digit : ∀ n < 128, ∀ d < 16,
    (Char.ofNat n).toLower = Nat.digitChar d → hexValue? (Char.ofNat n) = some (UInt8.ofNat d) := by
  decide +kernel

theorem hexValue?_eq_some {v : UInt8} :
    hexValue? c = some v ↔ v.toNat < 16 ∧ c.toLower = Nat.digitChar v.toNat := by
  constructor
  · intro h
    have hread := digit_of_hexValue? c.toNat (lt_of_hexValue? h)
    rw [Char.ofNat_toNat] at hread
    exact hread v h
  · rintro ⟨small, h⟩
    have hread := hexValue?_of_digit c.toNat (lt_of_toLower h small) v.toNat small
    rw [Char.ofNat_toNat, UInt8.ofNat_toNat] at hread
    exact hread h

/-! ## Bytes -/

/-- The two digits of a byte in base sixteen, in lowercase. -/
def digitsOf (b : UInt8) : List Char := [Nat.digitChar (b.toNat / 16), Nat.digitChar (b.toNat % 16)]

theorem byte?_eq_some {high low : Char} {b : UInt8} :
    byte? high low = some b ↔ [high, low].map Char.toLower = digitsOf b := by
  have hb : b.toNat < 256 := b.toNat_lt
  simp only [byte?, Option.bind_eq_bind, Option.bind_eq_some_iff, Option.pure_def,
    Option.some.injEq, digitsOf, List.map_cons, List.map_nil, List.cons.injEq, and_true]
  constructor
  · rintro ⟨h, hhigh, l, hlow, rfl⟩
    rw [hexValue?_eq_some] at hhigh hlow
    have hsum : (h * 16 + l).toNat = h.toNat * 16 + l.toNat := by
      rw [UInt8.toNat_add, UInt8.toNat_mul]
      simp only [UInt8.toNat_ofNat]
      omega
    rw [hsum, show (h.toNat * 16 + l.toNat) / 16 = h.toNat by omega,
      show (h.toNat * 16 + l.toNat) % 16 = l.toNat by omega]
    exact ⟨hhigh.2, hlow.2⟩
  · rintro ⟨hhigh, hlow⟩
    have hhalves : (UInt8.ofNat (b.toNat / 16)).toNat = b.toNat / 16 ∧
        (UInt8.ofNat (b.toNat % 16)).toNat = b.toNat % 16 := by
      simp only [UInt8.toNat_ofNat']
      omega
    refine ⟨.ofNat (b.toNat / 16), hexValue?_eq_some.mpr ?_, .ofNat (b.toNat % 16),
      hexValue?_eq_some.mpr ?_, ?_⟩
    · rw [hhalves.1]
      exact ⟨by omega, hhigh⟩
    · rw [hhalves.2]
      exact ⟨by omega, hlow⟩
    · apply UInt8.toNat_inj.mp
      rw [UInt8.toNat_add, UInt8.toNat_mul, hhalves.1, hhalves.2]
      simp only [UInt8.toNat_ofNat]
      omega

theorem exists_byte? {high low : Char} (hhigh : Text.isAsciiHexDigit high = true)
    (hlow : Text.isAsciiHexDigit low = true) : ∃ b, byte? high low = some b := by
  rw [← isSome_hexValue?] at hhigh hlow
  obtain ⟨h, hh⟩ := Option.isSome_iff_exists.mp hhigh
  obtain ⟨l, hl⟩ := Option.isSome_iff_exists.mp hlow
  exact ⟨h * 16 + l, by simp [byte?, hh, hl]⟩

theorem isAsciiHexDigit_of_digitsOf {b : UInt8} (h : c.toLower ∈ digitsOf b) :
    Text.isAsciiHexDigit c = true := by
  have hb : b.toNat < 256 := b.toNat_lt
  have hdigit : ∃ n < 16, c.toLower = Nat.digitChar n := by
    simp only [digitsOf, List.mem_cons, List.not_mem_nil, or_false] at h
    rcases h with h | h
    · exact ⟨b.toNat / 16, by omega, h⟩
    · exact ⟨b.toNat % 16, by omega, h⟩
  obtain ⟨n, small, h⟩ := hdigit
  have hn : (UInt8.ofNat n).toNat = n := by
    rw [UInt8.toNat_ofNat']
    omega
  have hvalue : hexValue? c = some (.ofNat n) := hexValue?_eq_some.mpr (by rw [hn]; exact ⟨small, h⟩)
  rw [← isSome_hexValue?, hvalue]
  rfl

/-! ## Colors -/

/-- In lowercase the digits are those of red, green and blue, with alpha in front unless it is 255. -/
def Spells (digits : List Char) (c : Color) : Prop :=
  (digits.map Char.toLower = digitsOf c.red ++ digitsOf c.green ++ digitsOf c.blue ∧ c.alpha = 255) ∨
    digits.map Char.toLower =
      digitsOf c.alpha ++ digitsOf c.red ++ digitsOf c.green ++ digitsOf c.blue

theorem map_eq_append_digitsOf {digits rest : List Char} {b : UInt8} :
    digits.map Char.toLower = digitsOf b ++ rest ↔
      ∃ high low digits', digits = high :: low :: digits' ∧ byte? high low = some b ∧
        digits'.map Char.toLower = rest := by
  simp only [byte?_eq_some]
  constructor
  · intro h
    obtain ⟨high, digits, rfl, hhigh, h⟩ := List.map_eq_cons_iff.mp h
    obtain ⟨low, digits, rfl, hlow, h⟩ := List.map_eq_cons_iff.mp h
    exact ⟨high, low, digits, rfl, by rw [List.map_cons, List.map_cons, hhigh, hlow]; rfl, h⟩
  · rintro ⟨high, low, digits, rfl, hpair, rfl⟩
    rw [← hpair]
    rfl

theorem ofDigits?_eq_some {digits : List Char} {c : Color} :
    ofDigits? digits = some c ↔ Spells digits c := by
  constructor
  · intro h
    fun_cases ofDigits? digits
    · next r₁ r₀ g₁ g₀ b₁ b₀ =>
      simp only [ofDigits?, Option.bind_eq_bind, Option.bind_eq_some_iff, Option.pure_def,
        Option.some.injEq, byte?_eq_some] at h
      obtain ⟨r, hr, g, hg, b, hb, rfl⟩ := h
      refine .inl ⟨?_, rfl⟩
      show _ = digitsOf r ++ digitsOf g ++ digitsOf b
      rw [← hr, ← hg, ← hb]
      rfl
    · next a₁ a₀ r₁ r₀ g₁ g₀ b₁ b₀ =>
      simp only [ofDigits?, Option.bind_eq_bind, Option.bind_eq_some_iff, Option.pure_def,
        Option.some.injEq, byte?_eq_some] at h
      obtain ⟨r, hr, g, hg, b, hb, a, ha, rfl⟩ := h
      refine .inr ?_
      show _ = digitsOf a ++ digitsOf r ++ digitsOf g ++ digitsOf b
      rw [← ha, ← hr, ← hg, ← hb]
      rfl
    · next hsix height =>
      rw [ofDigits?] at h
      · cases h
      · exact hsix
      · exact height
  · rintro (⟨h, halpha⟩ | h)
    · rw [List.append_assoc, ← List.append_nil (digitsOf c.blue), map_eq_append_digitsOf] at h
      obtain ⟨r₁, r₀, digits, rfl, hr, h⟩ := h
      obtain ⟨g₁, g₀, digits, rfl, hg, h⟩ := map_eq_append_digitsOf.mp h
      obtain ⟨b₁, b₀, digits, rfl, hb, h⟩ := map_eq_append_digitsOf.mp h
      obtain rfl := List.map_eq_nil_iff.mp h
      simp only [ofDigits?, hr, hg, hb, Option.bind_eq_bind, Option.bind_some, Option.pure_def, rgb,
        ← halpha]
    · rw [List.append_assoc, List.append_assoc, ← List.append_nil (digitsOf c.blue),
        map_eq_append_digitsOf] at h
      obtain ⟨a₁, a₀, digits, rfl, ha, h⟩ := h
      obtain ⟨r₁, r₀, digits, rfl, hr, h⟩ := map_eq_append_digitsOf.mp h
      obtain ⟨g₁, g₀, digits, rfl, hg, h⟩ := map_eq_append_digitsOf.mp h
      obtain ⟨b₁, b₀, digits, rfl, hb, h⟩ := map_eq_append_digitsOf.mp h
      obtain rfl := List.map_eq_nil_iff.mp h
      simp only [ofDigits?, ha, hr, hg, hb, Option.bind_eq_bind, Option.bind_some, Option.pure_def]

theorem Spells.length {digits : List Char} {c : Color} (h : Spells digits c) :
    digits.length = 6 ∨ digits.length = 8 := by
  rcases h with ⟨h, -⟩ | h
  · exact .inl (by simpa [digitsOf] using congrArg List.length h)
  · exact .inr (by simpa [digitsOf] using congrArg List.length h)

theorem Spells.isAsciiHexDigit {digits : List Char} {c : Color} (h : Spells digits c) :
    ∀ d ∈ digits, Text.isAsciiHexDigit d = true := by
  intro d hd
  have hlower : d.toLower ∈ digits.map Char.toLower := List.mem_map_of_mem hd
  have hchannel : ∃ b, d.toLower ∈ digitsOf b := by
    rcases h with ⟨h, -⟩ | h <;> rw [h] at hlower <;> simp only [List.mem_append] at hlower
    · rcases hlower with (h | h) | h <;> exact ⟨_, h⟩
    · rcases hlower with ((h | h) | h) | h <;> exact ⟨_, h⟩
  obtain ⟨b, hb⟩ := hchannel
  exact isAsciiHexDigit_of_digitsOf hb

theorem exists_pair {digits : List Char} {n : Nat} (h : digits.length = n + 2) :
    ∃ high low rest, digits = high :: low :: rest ∧ rest.length = n := by
  rcases digits with _ | ⟨high, _ | ⟨low, rest⟩⟩
  · cases h
  · exact absurd (Nat.succ.inj h) (Nat.succ_ne_zero n).symm
  · exact ⟨high, low, rest, rfl, Nat.succ.inj (Nat.succ.inj h)⟩

theorem exists_six {digits : List Char} (h : digits.length = 6) :
    ∃ r₁ r₀ g₁ g₀ b₁ b₀, digits = [r₁, r₀, g₁, g₀, b₁, b₀] := by
  obtain ⟨r₁, r₀, rest, rfl, hfour⟩ := exists_pair h
  obtain ⟨g₁, g₀, rest, rfl, htwo⟩ := exists_pair hfour
  obtain ⟨b₁, b₀, rest, rfl, hnone⟩ := exists_pair htwo
  obtain rfl := List.eq_nil_of_length_eq_zero hnone
  exact ⟨r₁, r₀, g₁, g₀, b₁, b₀, rfl⟩

theorem exists_eight {digits : List Char} (h : digits.length = 8) :
    ∃ a₁ a₀ r₁ r₀ g₁ g₀ b₁ b₀, digits = [a₁, a₀, r₁, r₀, g₁, g₀, b₁, b₀] := by
  obtain ⟨a₁, a₀, rest, rfl, hsix⟩ := exists_pair h
  obtain ⟨r₁, r₀, g₁, g₀, b₁, b₀, rfl⟩ := exists_six hsix
  exact ⟨a₁, a₀, r₁, r₀, g₁, g₀, b₁, b₀, rfl⟩

theorem exists_spells_iff (digits : List Char) : (∃ c, Spells digits c) ↔
    (digits.length = 6 ∨ digits.length = 8) ∧ ∀ d ∈ digits, Text.isAsciiHexDigit d = true := by
  constructor
  · rintro ⟨c, h⟩
    exact ⟨h.length, h.isAsciiHexDigit⟩
  · rintro ⟨hlength, hdigits⟩
    simp only [← ofDigits?_eq_some]
    rcases hlength with hlength | hlength
    · obtain ⟨r₁, r₀, g₁, g₀, b₁, b₀, rfl⟩ := exists_six hlength
      simp only [List.forall_mem_cons] at hdigits
      obtain ⟨hr₁, hr₀, hg₁, hg₀, hb₁, hb₀, -⟩ := hdigits
      obtain ⟨r, hr⟩ := exists_byte? hr₁ hr₀
      obtain ⟨g, hg⟩ := exists_byte? hg₁ hg₀
      obtain ⟨b, hb⟩ := exists_byte? hb₁ hb₀
      exact ⟨rgb r g b, by simp [ofDigits?, hr, hg, hb]⟩
    · obtain ⟨a₁, a₀, r₁, r₀, g₁, g₀, b₁, b₀, rfl⟩ := exists_eight hlength
      simp only [List.forall_mem_cons] at hdigits
      obtain ⟨ha₁, ha₀, hr₁, hr₀, hg₁, hg₀, hb₁, hb₀, -⟩ := hdigits
      obtain ⟨a, ha⟩ := exists_byte? ha₁ ha₀
      obtain ⟨r, hr⟩ := exists_byte? hr₁ hr₀
      obtain ⟨g, hg⟩ := exists_byte? hg₁ hg₀
      obtain ⟨b, hb⟩ := exists_byte? hb₁ hb₀
      exact ⟨⟨r, g, b, a⟩, by simp [ofDigits?, ha, hr, hg, hb]⟩

theorem ofDigits?_eq_none {digits : List Char}
    (h : ¬ ((digits.length = 6 ∨ digits.length = 8) ∧
      ∀ d ∈ digits, Text.isAsciiHexDigit d = true)) : ofDigits? digits = none := by
  rw [Option.eq_none_iff_forall_ne_some]
  intro c hc
  exact h ((exists_spells_iff digits).mp ⟨c, ofDigits?_eq_some.mp hc⟩)

end CodeEditor.Color
