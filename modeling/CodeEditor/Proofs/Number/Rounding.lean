import CodeEditor.Number.Binary
import Mathlib.Algebra.Order.Field.Power
import Mathlib.Algebra.Order.Field.Rat
import Mathlib.Data.Nat.Log
import Mathlib.Tactic.FieldSimp
import Mathlib.Tactic.Linarith
import Mathlib.Tactic.Positivity
import Mathlib.Tactic.Ring

/-! # How far rounding goes

A quotient is rounded to a number that is off by half a step at the most. The step is small beside a
quotient that is not too small, and a quotient that is not too large is rounded to a finite number.
-/

namespace CodeEditor.Number.BinaryFormat

variable {f : BinaryFormat} {n d : Nat}

def quotient (pair : Nat × Nat) : ℚ := (pair.1 : ℚ) / pair.2

/-- The number with a finite encoding. -/
def value (f : BinaryFormat) (encoding : Nat) : ℚ :=
  ((f.parts encoding).1 : ℚ) * 2 ^ (f.parts encoding).2

/-- A quotient divided by a power of a base. -/
def scaledBy (base n d : Nat) (e : Int) : Nat × Nat :=
  if e ≥ 0 then (n, d * Nat.pow base e.toNat) else (n * Nat.pow base (-e).toNat, d)

variable {base : Nat}

theorem quotient_scaledBy (hbase : 0 < base) (n d : Nat) (e : Int) :
    quotient (scaledBy base n d e) = (n : ℚ) / d / (base : ℚ) ^ e := by
  have hne : (base : ℚ) ≠ 0 := Nat.cast_ne_zero.mpr hbase.ne'
  unfold quotient scaledBy
  split
  · next h =>
    obtain ⟨k, rfl⟩ := Int.eq_ofNat_of_zero_le h
    simp [div_div]
  · next h =>
    obtain ⟨k, hk⟩ := Int.eq_ofNat_of_zero_le (show 0 ≤ -e by omega)
    have he : e = -(k : Int) := by omega
    subst he
    simp only [neg_neg, Int.toNat_natCast, Nat.pow_eq, Nat.cast_mul, Nat.cast_pow, zpow_neg,
      zpow_natCast]
    field_simp

theorem scaledBy_pos (hbase : 0 < base) (hd : 0 < d) (e : Int) : 0 < (scaledBy base n d e).2 := by
  unfold scaledBy
  split
  · exact Nat.mul_pos hd (Nat.pow_pos hbase)
  · exact hd

theorem scaledBy_fst_pos (hbase : 0 < base) (hn : 0 < n) (e : Int) :
    0 < (scaledBy base n d e).1 := by
  unfold scaledBy
  split
  · exact hn
  · exact Nat.mul_pos hn (Nat.pow_pos hbase)

theorem quotient_scaled (n d : Nat) (e : Int) :
    quotient (scaled n d e) = (n : ℚ) / d / 2 ^ e :=
  quotient_scaledBy Nat.two_pos n d e

theorem scaled_pos (hd : 0 < d) (e : Int) : 0 < (scaled n d e).2 := scaledBy_pos Nat.two_pos hd e

theorem scaled_fst_pos (hn : 0 < n) (e : Int) : 0 < (scaled n d e).1 :=
  scaledBy_fst_pos Nat.two_pos hn e

theorem quotient_ratio (f : BinaryFormat) (encoding : Nat) :
    quotient (f.ratio encoding) = f.value encoding := by
  unfold ratio value
  rw [quotient_scaled, zpow_neg, Nat.cast_one, div_one, div_inv_eq_mul]

theorem ratio_pos (f : BinaryFormat) (encoding : Nat) : 0 < (f.ratio encoding).2 :=
  scaled_pos Nat.one_pos _

/-! ## The nearest natural number -/

theorem nearest_eq_or (n d : Nat) : nearest n d = n / d ∨ nearest n d = n / d + 1 := by
  unfold nearest
  simp only
  split
  · exact .inl rfl
  · split
    · exact .inr rfl
    · rcases Nat.mod_two_eq_zero_or_one (n / d) with h | h <;> omega

theorem nearest_mul_bounds (n : Nat) (hd : 0 < d) :
    2 * n ≤ 2 * (nearest n d * d) + d ∧ 2 * (nearest n d * d) ≤ 2 * n + d := by
  have hn := Nat.div_add_mod n d
  have hr := Nat.mod_lt n hd
  rw [Nat.mul_comm] at hn
  have hsucc : (n / d + 1) * d = n / d * d + d := Nat.succ_mul _ _
  unfold nearest
  simp only
  split
  · omega
  · split
    · omega
    · rcases Nat.mod_two_eq_zero_or_one (n / d) with h | h <;> rw [h]
      · rw [Nat.add_zero]
        omega
      · omega

theorem abs_nearest_sub_le (n : Nat) (hd : 0 < d) :
    |(nearest n d : ℚ) - (n : ℚ) / d| ≤ 1 / 2 := by
  have hpos : (0 : ℚ) < d := by exact_mod_cast hd
  obtain ⟨hlow, hhigh⟩ := nearest_mul_bounds n hd
  have hlow' : (2 : ℚ) * n ≤ 2 * (nearest n d * d) + d := by exact_mod_cast hlow
  have hhigh' : (2 : ℚ) * (nearest n d * d) ≤ 2 * n + d := by exact_mod_cast hhigh
  have hq : (n : ℚ) / d * d = n := by field_simp
  rw [abs_le]
  constructor
  · nlinarith
  · nlinarith

/-! ## The step -/

/-- The exponent of the step, were there no finest one. -/
def freeExponent (f : BinaryFormat) (n d : Nat) : Int :=
  let guess : Int := (n.log2 : Int) - (d.log2 : Int) - (f.precision : Int)
  if (scaled n d guess).1 / (scaled n d guess).2 < Nat.pow 2 f.precision then guess else guess + 1

theorem stepExponent_eq (f : BinaryFormat) (n d : Nat) :
    f.stepExponent n d = max (f.freeExponent n d) (-(f.finest : Int)) := rfl

theorem div_two_zpow_lt {q : ℚ} {k : Nat} {e : Int} :
    q / 2 ^ e < 2 ^ k ↔ q < 2 ^ (e + k) := by
  rw [div_lt_iff₀ (by positivity), zpow_add₀ (by norm_num), zpow_natCast, mul_comm]

theorem le_div_two_zpow {q : ℚ} {k : Nat} {e : Int} :
    2 ^ k ≤ q / 2 ^ e ↔ 2 ^ (e + k) ≤ q := by
  rw [le_div_iff₀ (by positivity), zpow_add₀ (by norm_num), zpow_natCast, mul_comm]

theorem quotient_bounds (hn : 0 < n) (hd : 0 < d) :
    (2 : ℚ) ^ ((n.log2 : Int) - d.log2 - 1) < (n : ℚ) / d ∧
      (n : ℚ) / d < 2 ^ ((n.log2 : Int) - d.log2 + 1) := by
  have hpos : (0 : ℚ) < d := by exact_mod_cast hd
  have hn1 : (2 : ℚ) ^ (n.log2 : Int) ≤ n := by
    rw [zpow_natCast]
    exact_mod_cast Nat.log2_self_le hn.ne'
  have hn2 : (n : ℚ) < 2 ^ ((n.log2 : Int) + 1) := by
    rw [← Nat.cast_succ, zpow_natCast]
    exact_mod_cast Nat.lt_log2_self
  have hd1 : (2 : ℚ) ^ (d.log2 : Int) ≤ d := by
    rw [zpow_natCast]
    exact_mod_cast Nat.log2_self_le hd.ne'
  have hd2 : (d : ℚ) < 2 ^ ((d.log2 : Int) + 1) := by
    rw [← Nat.cast_succ, zpow_natCast]
    exact_mod_cast Nat.lt_log2_self
  constructor
  · rw [lt_div_iff₀ hpos]
    calc (2 : ℚ) ^ ((n.log2 : Int) - d.log2 - 1) * d
        < 2 ^ ((n.log2 : Int) - d.log2 - 1) * 2 ^ ((d.log2 : Int) + 1) := by gcongr
      _ = 2 ^ (n.log2 : Int) := by rw [← zpow_add₀ (by norm_num)]; congr 1; omega
      _ ≤ n := hn1
  · rw [div_lt_iff₀ hpos]
    calc (n : ℚ) < 2 ^ ((n.log2 : Int) + 1) := hn2
      _ = 2 ^ ((n.log2 : Int) - d.log2 + 1) * 2 ^ (d.log2 : Int) := by
        rw [← zpow_add₀ (by norm_num)]; congr 1; omega
      _ ≤ 2 ^ ((n.log2 : Int) - d.log2 + 1) * d := by gcongr

theorem freeExponent_spec (f : BinaryFormat) (hn : 0 < n) (hd : 0 < d) :
    (2 : ℚ) ^ (f.freeExponent n d + f.precision - 1) ≤ (n : ℚ) / d ∧
      (n : ℚ) / d < 2 ^ (f.freeExponent n d + f.precision) := by
  obtain ⟨hlow, hhigh⟩ := quotient_bounds hn hd
  unfold freeExponent
  simp only
  generalize hg : (n.log2 : Int) - (d.log2 : Int) - (f.precision : Int) = guess
  have hspos := scaled_pos (n := n) hd guess
  -- Whether the guess is too small is decided by a whole quotient, which is below a power of two
  -- exactly when the quotient is.
  have hwhole : (scaled n d guess).1 / (scaled n d guess).2 < Nat.pow 2 f.precision ↔
      (n : ℚ) / d < 2 ^ (guess + f.precision) := by
    rw [← div_two_zpow_lt, ← quotient_scaled, quotient, Nat.div_lt_iff_lt_mul hspos,
      div_lt_iff₀ (by exact_mod_cast hspos), Nat.pow_eq]
    norm_cast
  split
  · next hless =>
    refine ⟨?_, hwhole.mp hless⟩
    have he : guess + f.precision - 1 = (n.log2 : Int) - d.log2 - 1 := by omega
    rw [he]
    exact hlow.le
  · next hmore =>
    have hmore' := not_lt.mp (mt hwhole.mpr hmore)
    constructor
    · have he : guess + 1 + f.precision - 1 = guess + f.precision := by omega
      rw [he]
      exact hmore'
    · have he : guess + 1 + f.precision = (n.log2 : Int) - d.log2 + 1 := by omega
      rw [he]
      exact hhigh

/-! ## Rounding -/

theorem fractionSize_pos (f : BinaryFormat) : 0 < f.fractionSize := Nat.pow_pos (by decide)

theorem two_mul_fractionSize (bits : 0 < f.precision) :
    2 * f.fractionSize = 2 ^ f.precision := by
  unfold fractionSize
  rw [Nat.pow_eq, ← Nat.pow_succ', Nat.succ_eq_add_one, Nat.sub_add_cancel bits]

/-- The significand of the nearest number, in steps. -/
def significand (f : BinaryFormat) (n d : Nat) : Nat :=
  nearest (scaled n d (f.stepExponent n d)).1 (scaled n d (f.stepExponent n d)).2

theorem round_eq (hn : 0 < n) :
    f.round n d = min ((f.stepExponent n d + (f.finest : Int)).toNat * f.fractionSize +
      f.significand n d) f.infinity := by
  unfold round
  rw [if_neg hn.ne']
  rfl

theorem abs_significand_sub_le (f : BinaryFormat) (n : Nat) (hd : 0 < d) :
    |(f.significand n d : ℚ) - (n : ℚ) / d / 2 ^ f.stepExponent n d| ≤ 1 / 2 := by
  have h := abs_nearest_sub_le (scaled n d (f.stepExponent n d)).1
    (scaled_pos (n := n) hd (f.stepExponent n d))
  rw [← quotient_scaled]
  exact h

theorem quotient_lt_step (f : BinaryFormat) (hn : 0 < n) (hd : 0 < d) :
    (n : ℚ) / d / 2 ^ f.stepExponent n d < 2 ^ f.precision := by
  rw [div_two_zpow_lt, stepExponent_eq]
  refine (f.freeExponent_spec hn hd).2.trans_le (zpow_le_zpow_right₀ (by norm_num) ?_)
  omega

theorem significand_le (bits : 0 < f.precision) (hn : 0 < n) (hd : 0 < d) :
    f.significand n d ≤ 2 * f.fractionSize := by
  have hnear := (abs_le.mp (f.abs_significand_sub_le n hd)).2
  have hless := f.quotient_lt_step hn hd
  rw [two_mul_fractionSize bits]
  have hcast : (f.significand n d : ℚ) < (2 ^ f.precision + 1 : Nat) := by
    push_cast
    linarith
  exact Nat.lt_succ_iff.mp (by exact_mod_cast hcast)

theorem le_significand (bits : 0 < f.precision) (hn : 0 < n) (hd : 0 < d)
    (coarse : f.stepExponent n d ≠ -(f.finest : Int)) : f.fractionSize ≤ f.significand n d := by
  have hnear := (abs_le.mp (f.abs_significand_sub_le n hd)).1
  have hfree : f.stepExponent n d = f.freeExponent n d := by
    rw [stepExponent_eq] at coarse ⊢
    omega
  have hmore : (2 : ℚ) ^ (f.precision - 1) ≤ (n : ℚ) / d / 2 ^ f.stepExponent n d := by
    rw [le_div_two_zpow, hfree]
    have he : f.freeExponent n d + (f.precision - 1 : Nat) = f.freeExponent n d + f.precision - 1 := by
      omega
    rw [he]
    exact (f.freeExponent_spec hn hd).1
  have hcast : ((f.fractionSize : Nat) : ℚ) < (f.significand n d + 1 : Nat) := by
    unfold fractionSize
    rw [Nat.pow_eq]
    push_cast
    linarith
  exact Nat.lt_succ_iff.mp (by exact_mod_cast hcast)

/-- An encoding is put together from a step and a significand, be it the next power of two. -/
theorem value_encode {e : Int} {r : Nat} (he : -(f.finest : Int) ≤ e) (most : r ≤ 2 * f.fractionSize)
    (least : f.fractionSize ≤ r ∨ e = -(f.finest : Int)) :
    f.value ((e + (f.finest : Int)).toNat * f.fractionSize + r) = r * 2 ^ e := by
  have hpos := f.fractionSize_pos
  obtain ⟨k, hk⟩ := Int.eq_ofNat_of_zero_le (show 0 ≤ e + f.finest by omega)
  have hek : e = (k : Int) - f.finest := by omega
  unfold value parts
  simp only
  rw [hk, Int.toNat_natCast]
  rcases Nat.lt_trichotomy r f.fractionSize with hless | hsame | hmore
  · -- Too few bits: the finest step.
    have hzero : k = 0 := by omega
    subst hzero
    rw [Nat.zero_mul, Nat.zero_add, Nat.div_eq_of_lt hless, Nat.mod_eq_of_lt hless, if_pos rfl, hek]
    simp
  · rw [hsame, ← Nat.succ_mul, Nat.mul_div_cancel _ hpos, Nat.mul_mod_left, if_neg (by omega)]
    push_cast
    rw [zero_add, hek]
    congr 2
    omega
  · rcases Nat.lt_or_ge r (2 * f.fractionSize) with hinside | hend
    · have hsum : k * f.fractionSize + r = (r - f.fractionSize) + (k + 1) * f.fractionSize := by
        rw [Nat.succ_mul]
        omega
      have hfrac : r - f.fractionSize < f.fractionSize := by omega
      rw [hsum, Nat.add_mul_div_right _ _ hpos, Nat.add_mul_mod_self_right, Nat.div_eq_of_lt hfrac,
        Nat.mod_eq_of_lt hfrac, if_neg (by omega), Nat.sub_add_cancel hmore.le, hek]
      congr 2
      omega
    · have hr : r = 2 * f.fractionSize := Nat.le_antisymm most hend
      have hsum : k * f.fractionSize + r = (k + 2) * f.fractionSize := by
        rw [hr, ← Nat.add_mul]
      rw [hsum, Nat.mul_div_cancel _ hpos, Nat.mul_mod_left, if_neg (by omega), hr, hek]
      push_cast
      have he' : (k : Int) + 2 - 1 - f.finest = ((k : Int) - f.finest) + 1 := by omega
      rw [he', zpow_add_one₀ (by norm_num)]
      ring

theorem value_round (bits : 0 < f.precision) (hn : 0 < n) (hd : 0 < d)
    (finite : f.round n d < f.infinity) :
    f.value (f.round n d) = f.significand n d * 2 ^ f.stepExponent n d := by
  rw [round_eq hn] at finite ⊢
  have hless := (min_lt_iff.mp finite).resolve_right (lt_irrefl _)
  rw [min_eq_left hless.le]
  refine value_encode (le_max_right _ _) (significand_le bits hn hd) ?_
  by_cases hstep : f.stepExponent n d = -(f.finest : Int)
  · exact .inr hstep
  · exact .inl (le_significand bits hn hd hstep)

theorem abs_value_round_sub_le (bits : 0 < f.precision) (hn : 0 < n) (hd : 0 < d)
    (room : (2 : ℚ) ^ ((f.precision : Int) - f.finest) ≤ (n : ℚ) / d)
    (finite : f.round n d < f.infinity) :
    |f.value (f.round n d) - (n : ℚ) / d| ≤ (n : ℚ) / d / 2 ^ f.precision := by
  obtain ⟨hlow, hhigh⟩ := f.freeExponent_spec hn hd
  have hfree : f.stepExponent n d = f.freeExponent n d := by
    have h := (zpow_lt_zpow_iff_right₀ (by norm_num : (1 : ℚ) < 2)).mp (room.trans_lt hhigh)
    rw [stepExponent_eq]
    omega
  have hnear := f.abs_significand_sub_le n hd
  have hpos : (0 : ℚ) < 2 ^ f.stepExponent n d := by positivity
  have hstep : (1 / 2 : ℚ) * 2 ^ f.stepExponent n d ≤ (n : ℚ) / d / 2 ^ f.precision := by
    rw [le_div_iff₀ (by positivity), hfree]
    refine le_of_eq_of_le ?_ hlow
    rw [add_sub_assoc, zpow_add₀ (by norm_num), zpow_sub₀ (by norm_num), zpow_natCast, zpow_one]
    ring
  rw [value_round bits hn hd finite]
  calc |(f.significand n d : ℚ) * 2 ^ f.stepExponent n d - (n : ℚ) / d|
      = |(f.significand n d : ℚ) - (n : ℚ) / d / 2 ^ f.stepExponent n d| *
          2 ^ f.stepExponent n d := by
        rw [← abs_of_pos hpos, ← abs_mul, abs_of_pos hpos, sub_mul, div_mul_cancel₀ _ hpos.ne']
    _ ≤ 1 / 2 * 2 ^ f.stepExponent n d := by gcongr
    _ ≤ (n : ℚ) / d / 2 ^ f.precision := hstep

/-! ## What is finite -/

/-- The exponent of the coarsest step. -/
def coarsest (f : BinaryFormat) : Int := (2 ^ f.exponentBits : Nat) - 3 - f.finest

theorem stepExponent_le_coarsest (hn : 0 < n) (hd : 0 < d) (exponents : 2 ≤ f.exponentBits)
    (small : (n : ℚ) / d < 2 ^ f.precision * 2 ^ f.coarsest) : f.stepExponent n d ≤ f.coarsest := by
  have hmany : 4 ≤ 2 ^ f.exponentBits := Nat.pow_le_pow_right (n := 2) (by decide) exponents
  have hless : (2 : ℚ) ^ (f.freeExponent n d + f.precision - 1) < 2 ^ (f.coarsest + f.precision) := by
    refine (f.freeExponent_spec hn hd).1.trans_lt (small.trans_le ?_)
    rw [zpow_add₀ (by norm_num), zpow_natCast, mul_comm]
  have h := (zpow_lt_zpow_iff_right₀ (by norm_num : (1 : ℚ) < 2)).mp hless
  rw [stepExponent_eq]
  unfold coarsest at h ⊢
  omega

theorem significand_lt_of_coarsest (bits : 0 < f.precision) (hd : 0 < d)
    (small : (n : ℚ) / d < (2 ^ f.precision - 1 / 2) * 2 ^ f.coarsest)
    (last : f.stepExponent n d = f.coarsest) : f.significand n d < 2 * f.fractionSize := by
  have hnear := (abs_le.mp (f.abs_significand_sub_le n hd)).2
  have hless : (n : ℚ) / d / 2 ^ f.stepExponent n d < 2 ^ f.precision - 1 / 2 := by
    rw [last, div_lt_iff₀ (by positivity)]
    exact small
  have hcast : (f.significand n d : ℚ) < (2 ^ f.precision : Nat) := by
    push_cast
    linarith
  rw [two_mul_fractionSize bits]
  exact_mod_cast hcast

/-- What lies below the middle between the largest number and the next power of two is rounded to a
finite number. -/
theorem round_lt_infinity (bits : 0 < f.precision) (exponents : 2 ≤ f.exponentBits) (hd : 0 < d)
    (small : (n : ℚ) / d < (2 ^ f.precision - 1 / 2) * 2 ^ f.coarsest) :
    f.round n d < f.infinity := by
  have hmany : 4 ≤ 2 ^ f.exponentBits := Nat.pow_le_pow_right (n := 2) (by decide) exponents
  have hpos := f.fractionSize_pos
  have hinf : f.infinity = (2 ^ f.exponentBits - 1) * f.fractionSize := rfl
  rcases Nat.eq_zero_or_pos n with rfl | hn
  · unfold round
    rw [if_pos rfl, hinf]
    exact Nat.mul_pos (by omega) hpos
  have hstep : f.stepExponent n d ≤ f.coarsest := by
    refine stepExponent_le_coarsest hn hd exponents (small.trans_le ?_)
    gcongr
    linarith
  have hend : f.stepExponent n d = f.coarsest → f.significand n d < 2 * f.fractionSize :=
    significand_lt_of_coarsest bits hd small
  have hle := significand_le bits hn hd
  have hfinest : -(f.finest : Int) ≤ f.stepExponent n d := le_max_right _ _
  obtain ⟨k, hk⟩ := Int.eq_ofNat_of_zero_le
    (show 0 ≤ f.stepExponent n d + f.finest by omega)
  unfold coarsest at hstep hend
  rw [round_eq hn, hk, Int.toNat_natCast, hinf]
  refine (min_le_left _ _).trans_lt ?_
  obtain hk' | hk' : k + 4 ≤ 2 ^ f.exponentBits ∨ k + 3 = 2 ^ f.exponentBits := by omega
  · calc k * f.fractionSize + f.significand n d ≤ (k + 2) * f.fractionSize := by
          rw [Nat.add_mul]
          omega
      _ < (2 ^ f.exponentBits - 1) * f.fractionSize :=
        Nat.mul_lt_mul_of_pos_right (by omega) hpos
  · have hlast := hend (by omega)
    calc k * f.fractionSize + f.significand n d < (k + 2) * f.fractionSize := by
          rw [Nat.add_mul]
          omega
      _ = (2 ^ f.exponentBits - 1) * f.fractionSize := by
          congr 1
          omega

end CodeEditor.Number.BinaryFormat
