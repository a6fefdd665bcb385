import CodeEditor.Proofs.Number.Shortest

/-! # Numerals that stay

The numeral of a number that has been read is read again, and the number is not too large then either,
although reading rounds three times. So what has once been settled can be settled again and again.
-/

namespace CodeEditor.Number

namespace BinaryFormat

theorem parts_lt {f : BinaryFormat} (bits : 0 < f.precision) (exponents : 2 ≤ f.exponentBits)
    {encoding : Nat} (finite : encoding < f.infinity) :
    (f.parts encoding).1 + 1 ≤ 2 ^ f.precision ∧ (f.parts encoding).2 ≤ f.coarsest ∧
      ((f.parts encoding).2 = f.coarsest →
        f.infinity - encoding + (f.parts encoding).1 = 2 ^ f.precision) := by
  have hpos := f.fractionSize_pos
  have htwo := two_mul_fractionSize bits
  have hmany : 4 ≤ 2 ^ f.exponentBits := Nat.pow_le_pow_right (n := 2) (by decide) exponents
  have hinf : f.infinity = (2 ^ f.exponentBits - 1) * f.fractionSize := rfl
  have hmod := Nat.mod_lt encoding hpos
  have hdiv : encoding / f.fractionSize < 2 ^ f.exponentBits - 1 := by
    rw [Nat.div_lt_iff_lt_mul hpos, ← hinf]
    exact finite
  have hsum := Nat.div_add_mod' encoding f.fractionSize
  unfold parts coarsest
  simp only
  rw [← htwo]
  split
  · next hzero =>
    refine ⟨by simp only; omega, by simp only; omega, ?_⟩
    simp only
    intro hsame
    omega
  · next hsome =>
    refine ⟨by simp only; omega, by simp only; omega, ?_⟩
    simp only
    intro hsame
    have hlast : encoding / f.fractionSize = 2 ^ f.exponentBits - 2 := by omega
    have hmul : (2 ^ f.exponentBits - 1) * f.fractionSize =
        (2 ^ f.exponentBits - 2) * f.fractionSize + f.fractionSize := by
      rw [← Nat.succ_mul]
      congr 1
      omega
    rw [hlast] at hsum
    omega

theorem value_le {f : BinaryFormat} (bits : 0 < f.precision) (exponents : 2 ≤ f.exponentBits)
    {encoding : Nat} (finite : encoding < f.infinity) :
    f.value encoding ≤ (2 ^ f.precision - 1) * 2 ^ f.coarsest := by
  obtain ⟨hsignificand, hexponent, -⟩ := parts_lt bits exponents finite
  have hcast : ((f.parts encoding).1 : ℚ) + 1 ≤ 2 ^ f.precision := by exact_mod_cast hsignificand
  have hpower : (2 : ℚ) ^ (f.parts encoding).2 ≤ 2 ^ f.coarsest :=
    zpow_le_zpow_right₀ (by norm_num) hexponent
  have hnonneg : (0 : ℚ) ≤ (f.parts encoding).1 := Nat.cast_nonneg _
  exact mul_le_mul (by linarith) hpower (by positivity) (by linarith)

theorem upper_le {f : BinaryFormat} (bits : 3 ≤ f.precision) (exponents : 2 ≤ f.exponentBits)
    {encoding : Nat} (below : encoding + 3 ≤ f.infinity) :
    f.upper encoding ≤ (2 ^ f.precision - 5 / 2) * 2 ^ f.coarsest := by
  obtain ⟨hsignificand, hexponent, hlast⟩ :=
    parts_lt (by omega) exponents (show encoding < f.infinity by omega)
  have hcast : ((f.parts encoding).1 : ℚ) + 1 ≤ 2 ^ f.precision := by exact_mod_cast hsignificand
  have hbits : (8 : ℚ) ≤ 2 ^ f.precision := by
    exact_mod_cast Nat.pow_le_pow_right (n := 2) (by decide) bits
  unfold upper
  rcases hexponent.lt_or_eq with hless | hsame
  · have hpower : (2 : ℚ) ^ (f.parts encoding).2 ≤ 2 ^ f.coarsest / 2 := by
      rw [le_div_iff₀ (by norm_num), ← zpow_add_one₀ (by norm_num)]
      exact zpow_le_zpow_right₀ (by norm_num) hless
    calc (((f.parts encoding).1 : ℚ) + 1 / 2) * 2 ^ (f.parts encoding).2
        ≤ (2 ^ f.precision - 1 / 2) * (2 ^ f.coarsest / 2) := by
          gcongr
          · linarith
          · linarith
      _ = (2 ^ f.precision - 1 / 2) / 2 * 2 ^ f.coarsest := by ring
      _ ≤ (2 ^ f.precision - 5 / 2) * 2 ^ f.coarsest := by
          gcongr
          linarith
  · have hthree : (f.parts encoding).1 + 3 ≤ 2 ^ f.precision := by
      have := hlast hsame
      omega
    have hcast : ((f.parts encoding).1 : ℚ) + 3 ≤ 2 ^ f.precision := by exact_mod_cast hthree
    rw [hsame]
    gcongr
    linarith

theorem round_le_infinity (f : BinaryFormat) (n d : Nat) : f.round n d ≤ f.infinity := by
  unfold round
  split
  · exact Nat.zero_le _
  · exact min_le_right _ _

theorem cast_div_cast (n d n' d' : Nat) :
    ((n * d' : Nat) : ℚ) / (d * n' : Nat) = quotient (n, d) / quotient (n', d') := by
  unfold quotient
  push_cast
  rw [div_div_div_eq]

theorem cast_mul_cast (n d n' d' : Nat) :
    ((n * n' : Nat) : ℚ) / (d * d' : Nat) = quotient (n, d) * quotient (n', d') := by
  unfold quotient
  push_cast
  rw [div_mul_div_comm]

end BinaryFormat

namespace Double

open BinaryFormat

/-! ## Powers of ten -/

theorem coarsest_double : double.coarsest = (971 : Nat) := by decide

theorem largestPower_lt : (10 : ℚ) ^ largestPower <
    (2 ^ double.precision - 1 / 2) * 2 ^ double.coarsest := by
  have hnat : 10 ^ 308 * 2 < (2 ^ 54 - 1) * 2 ^ 971 := by decide +kernel
  have hcast : (10 : ℚ) ^ 308 * 2 < (2 ^ 54 - 1 : Nat) * 2 ^ 971 := by exact_mod_cast hnat
  rw [coarsest_double, zpow_natCast]
  unfold largestPower double
  have hhalf : (2 : ℚ) ^ 53 - 1 / 2 = (2 ^ 54 - 1 : Nat) / 2 := by norm_num
  rw [hhalf, div_mul_eq_mul_div, lt_div_iff₀ (by norm_num)]
  exact hcast

theorem infinity_le : (2 : ℚ) ^ double.precision * 2 ^ double.coarsest ≤ 10 ^ (largestPower + 1) := by
  have hnat : 2 ^ double.precision * 2 ^ 971 ≤ 10 ^ (largestPower + 1) := by decide +kernel
  rw [coarsest_double, zpow_natCast]
  exact_mod_cast hnat

theorem quotient_powerOfTen (n : Nat) :
    quotient (powerOfTen n) = double.value (double.round (10 ^ n) 1) :=
  quotient_ratio _ _

theorem abs_powerOfTen_sub_le {n : Nat} (h : n ≤ largestPower) :
    |quotient (powerOfTen n) - 10 ^ n| ≤ 10 ^ n / 2 ^ 53 := by
  have hten : (10 : ℚ) ^ n ≤ 10 ^ largestPower := pow_le_pow_right₀ (by norm_num) h
  have hone : (1 : ℚ) ≤ 10 ^ n := one_le_pow₀ (by norm_num)
  have hquotient : ((10 ^ n : Nat) : ℚ) / (1 : Nat) = 10 ^ n := by push_cast; simp
  have hfinite : double.round (10 ^ n) 1 < double.infinity := by
    refine round_lt_infinity (by decide) (by decide) Nat.one_pos ?_
    rw [hquotient]
    exact hten.trans_lt largestPower_lt
  have hroom : (2 : ℚ) ^ ((double.precision : Int) - double.finest) ≤
      ((10 ^ n : Nat) : ℚ) / (1 : Nat) := by
    rw [hquotient]
    refine le_trans ?_ hone
    exact zpow_le_one_of_nonpos₀ (by norm_num) (by decide)
  have h := abs_value_round_sub_le (by decide) (Nat.pow_pos (by decide)) Nat.one_pos hroom hfinite
  rw [hquotient] at h
  rw [quotient_powerOfTen]
  exact h

theorem one_le_powerOfTen {n : Nat} (some : n ≠ 0) (h : n ≤ largestPower) :
    1 ≤ quotient (powerOfTen n) := by
  have hnear := (abs_le.mp (abs_powerOfTen_sub_le h)).1
  have hten : (10 : ℚ) ≤ 10 ^ n := by
    calc (10 : ℚ) = 10 ^ 1 := (pow_one _).symm
      _ ≤ 10 ^ n := pow_le_pow_right₀ (by norm_num) (Nat.one_le_iff_ne_zero.mpr some)
  have hpart : (10 : ℚ) ^ n / 2 ^ 53 ≤ 10 ^ n / 2 := by
    gcongr
    norm_num
  linarith

/-! ## Scaling -/

theorem round_div_powerOfTen {magnitude n : Nat} (finite : magnitude < double.infinity)
    (some : n ≠ 0) (h : n ≤ largestPower) :
    double.round ((double.ratio magnitude).1 * (powerOfTen n).2)
      ((double.ratio magnitude).2 * (powerOfTen n).1) < double.infinity := by
  have hone := one_le_powerOfTen some h
  have hvalue := value_le (f := double) (by decide) (by decide) finite
  have hpower : 0 < (powerOfTen n).1 := by
    rcases Nat.eq_zero_or_pos (powerOfTen n).1 with hzero | hpos
    · unfold quotient at hone
      rw [hzero] at hone
      norm_num at hone
    · exact hpos
  refine round_lt_infinity (by decide) (by decide) (Nat.mul_pos (ratio_pos _ _) hpower) ?_
  rw [cast_div_cast]
  have hratio : quotient ((double.ratio magnitude).1, (double.ratio magnitude).2) =
      double.value magnitude := quotient_ratio _ _
  rw [hratio]
  have hnonneg : 0 ≤ double.value magnitude := by
    unfold value
    positivity
  calc double.value magnitude / quotient (powerOfTen n) ≤ double.value magnitude :=
        div_le_self hnonneg hone
    _ ≤ (2 ^ double.precision - 1) * 2 ^ double.coarsest := hvalue
    _ < (2 ^ double.precision - 1 / 2) * 2 ^ double.coarsest := by
        gcongr
        norm_num

theorem isSome_scaleByTen_of_neg (rounds magnitude : Nat) {exponent : Int} (h : exponent < 0) :
    (scaleByTen rounds magnitude exponent).isSome = true := by
  induction rounds generalizing magnitude exponent with
  | zero =>
    unfold scaleByTen
    simp only [if_neg (not_le.mpr h), ge_iff_le]
    split
    · rfl
    · split <;> rfl
  | succ rounds ih =>
    unfold scaleByTen
    simp only [if_neg (not_le.mpr h), ge_iff_le]
    split
    · rfl
    · next hfar =>
      split
      · rfl
      · refine ih _ ?_
        unfold largestPower at hfar ⊢
        omega

theorem finite_of_scaleByTen_near {rounds magnitude : Nat} {exponent : Int} {scaled : Nat}
    (finite : magnitude < double.infinity) (near : exponent.natAbs ≤ largestPower)
    (h : scaleByTen rounds magnitude exponent = some scaled) : scaled < double.infinity := by
  unfold scaleByTen at h
  simp only [if_pos near] at h
  split at h
  · split at h
    · cases h
    · next hother =>
      cases h
      exact lt_of_le_of_ne (round_le_infinity _ _ _) hother
  · cases h
    exact round_div_powerOfTen finite (by omega) near

theorem finite_of_scaleByTen {rounds magnitude : Nat} {exponent : Int} {scaled : Nat}
    (finite : magnitude < double.infinity)
    (h : scaleByTen rounds magnitude exponent = some scaled) : scaled < double.infinity := by
  have hzero : 0 < double.infinity := by decide
  induction rounds generalizing magnitude exponent with
  | zero =>
    by_cases near : exponent.natAbs ≤ largestPower
    · exact finite_of_scaleByTen_near finite near h
    · unfold scaleByTen at h
      simp only [if_neg near] at h
      split at h
      · cases h
        exact hzero
      · split at h
        · cases h
        · cases h
          exact hzero
  | succ rounds ih =>
    by_cases near : exponent.natAbs ≤ largestPower
    · exact finite_of_scaleByTen_near finite near h
    · unfold scaleByTen at h
      simp only [if_neg near] at h
      split at h
      · cases h
        exact hzero
      · split at h
        · cases h
        · exact ih (round_div_powerOfTen finite (by decide) le_rfl) h

theorem round_significand {significand : Nat} (h : significand ≤ Numeral.largestSignificand) :
    double.round significand 1 < double.infinity := by
  refine round_lt_infinity (by decide) (by decide) Nat.one_pos ?_
  have hle : (significand : ℚ) / (1 : Nat) ≤ (10 : ℚ) ^ largestPower := by
    rw [Nat.cast_one, div_one]
    exact_mod_cast h.trans (by decide +kernel)
  exact hle.trans_lt largestPower_lt

theorem finite_of_ofScientific? {negative : Bool} {significand : Nat} {exponent : Int} {x : Double}
    (h : significand ≤ Numeral.largestSignificand)
    (some : ofScientific? negative significand exponent = .some x) :
    x.magnitude < double.infinity := by
  obtain ⟨scaled, hscaled, rfl⟩ := Option.map_eq_some_iff.mp some
  exact finite_of_scaleByTen (round_significand h) hscaled

theorem value_significand_le {significand : Nat} (pos : 0 < significand)
    (h : significand ≤ Numeral.largestSignificand) :
    double.value (double.round significand 1) ≤ significand * (1 + 1 / 2 ^ 53) := by
  have hone : (1 : ℚ) ≤ (significand : ℚ) / (1 : Nat) := by
    rw [Nat.cast_one, div_one]
    exact_mod_cast pos
  have hroom : (2 : ℚ) ^ ((double.precision : Int) - double.finest) ≤ (significand : ℚ) / (1 : Nat) :=
    (zpow_le_one_of_nonpos₀ (by norm_num) (by decide)).trans hone
  have hnear := (abs_le.mp
    (abs_value_round_sub_le (by decide) pos Nat.one_pos hroom (round_significand h))).2
  rw [Nat.cast_one, div_one] at hnear
  unfold double at hnear ⊢
  rw [mul_add, mul_one, mul_one_div]
  linarith

theorem le_largestPower {significand power : Nat} (pos : 0 < significand)
    (small : (significand : ℚ) * 10 ^ power ≤
      (2 ^ double.precision - 5 / 2) * 2 ^ double.coarsest) : power ≤ largestPower := by
  have hone : (1 : ℚ) ≤ significand := by exact_mod_cast pos
  have hten : (10 : ℚ) ^ power < 10 ^ (largestPower + 1) := by
    calc (10 : ℚ) ^ power ≤ significand * 10 ^ power := le_mul_of_one_le_left (by positivity) hone
      _ ≤ (2 ^ double.precision - 5 / 2) * 2 ^ double.coarsest := small
      _ < 2 ^ double.precision * 2 ^ double.coarsest := by
        gcongr
        norm_num
      _ ≤ 10 ^ (largestPower + 1) := infinity_le
  exact Nat.lt_succ_iff.mp ((pow_lt_pow_iff_right₀ (by norm_num)).mp hten)

theorem isSome_ofScientific? (negative : Bool) {significand power : Nat} (pos : 0 < significand)
    (h : significand ≤ Numeral.largestSignificand)
    (small : (significand : ℚ) * 10 ^ power ≤
      (2 ^ double.precision - 5 / 2) * 2 ^ double.coarsest) :
    (ofScientific? negative significand (power : Int)).isSome = true := by
  have near := le_largestPower pos small
  have hpower := (abs_le.mp (abs_powerOfTen_sub_le near)).2
  have hsignificand := value_significand_le pos h
  have hfinite : double.round ((double.ratio (double.round significand 1)).1 * (powerOfTen power).1)
      ((double.ratio (double.round significand 1)).2 * (powerOfTen power).2) <
        double.infinity := by
    refine round_lt_infinity (by decide) (by decide)
      (Nat.mul_pos (ratio_pos _ _) (ratio_pos _ _)) ?_
    have hratio : quotient ((double.ratio (double.round significand 1)).1,
        (double.ratio (double.round significand 1)).2) =
          double.value (double.round significand 1) := quotient_ratio _ _
    rw [cast_mul_cast, hratio]
    have hten : quotient ((powerOfTen power).1, (powerOfTen power).2) ≤
        10 ^ power * (1 + 1 / 2 ^ 53) := by
      rw [mul_add, mul_one, mul_one_div]
      show quotient (powerOfTen power) ≤ _
      linarith
    have hnonneg : 0 ≤ quotient ((powerOfTen power).1, (powerOfTen power).2) := by
      unfold quotient
      positivity
    calc double.value (double.round significand 1) *
          quotient ((powerOfTen power).1, (powerOfTen power).2)
        ≤ significand * (1 + 1 / 2 ^ 53) * (10 ^ power * (1 + 1 / 2 ^ 53)) := by gcongr
      _ = significand * 10 ^ power * (1 + 1 / 2 ^ 53) ^ 2 := by ring
      _ ≤ (2 ^ double.precision - 5 / 2) * 2 ^ double.coarsest * (1 + 1 / 2 ^ 53) ^ 2 := by gcongr
      _ = (2 ^ double.precision - 5 / 2) * (1 + 1 / 2 ^ 53) ^ 2 * 2 ^ double.coarsest := by ring
      _ < (2 ^ double.precision - 1 / 2) * 2 ^ double.coarsest := by
        gcongr
        norm_num [double]
  unfold ofScientific?
  rw [Option.isSome_map]
  unfold scaleByTen
  simp only [Int.natAbs_natCast, if_pos near, ge_iff_le, Int.natCast_nonneg, if_true,
    if_neg hfinite.ne, Option.isSome_some]

theorem isSome_ofScientific?_of_neg (negative : Bool) (significand : Nat) {exponent : Int}
    (h : exponent < 0) : (ofScientific? negative significand exponent).isSome = true := by
  unfold ofScientific?
  rw [Option.isSome_map]
  exact isSome_scaleByTen_of_neg _ _ h

end Double

namespace Numeral

/-! ## Taking digits into a significand -/

theorem ofDigits_cons (d : Nat) (ds : List Nat) :
    ofDigits (d :: ds) = d * 10 ^ ds.length + ofDigits ds := by
  have h := ofDigits_append [d] ds
  rw [ofDigits_singleton] at h
  exact h

theorem gather_all {significand : Nat} {digits : List Nat} (h : ∀ d ∈ digits, d < 10)
    (room : (significand + 1) * 10 ^ digits.length ≤ largestSignificand + 1) :
    gather significand digits = (significand * 10 ^ digits.length + ofDigits digits, []) := by
  induction digits generalizing significand with
  | nil => simp [gather, ofDigits]
  | cons d ds ih =>
    obtain ⟨hd, hds⟩ := List.forall_mem_cons.mp h
    rw [List.length_cons, Nat.pow_succ, Nat.mul_comm (10 ^ ds.length), ← Nat.mul_assoc] at room
    have hpos : 0 < 10 ^ ds.length := Nat.pow_pos (by decide)
    have hnext : (significand * 10 + d + 1) * 10 ^ ds.length ≤ largestSignificand + 1 := by
      refine le_trans (Nat.mul_le_mul_right _ ?_) room
      omega
    have hfits : significand * 10 + d ≤ largestSignificand := by
      have := Nat.le_mul_of_pos_right (significand * 10 + d + 1) hpos
      omega
    rw [gather, if_pos hfits, ih hds hnext, ofDigits_cons, List.length_cons, Nat.pow_succ]
    congr 1
    ring

theorem gather_spec (significand : Nat) (digits : List Nat) :
    ∃ taken, digits = taken ++ (gather significand digits).2 ∧
      (gather significand digits).1 = significand * 10 ^ taken.length + ofDigits taken := by
  induction digits generalizing significand with
  | nil => exact ⟨[], rfl, by simp [gather, ofDigits]⟩
  | cons d ds ih =>
    unfold gather
    split
    · obtain ⟨taken, hds, hvalue⟩ := ih (significand * 10 + d)
      refine ⟨d :: taken, by rw [List.cons_append, ← hds], ?_⟩
      rw [hvalue, ofDigits_cons, List.length_cons, Nat.pow_succ]
      ring
    · exact ⟨[], rfl, by simp [ofDigits]⟩

theorem gather_le {significand : Nat} (h : significand ≤ largestSignificand) (digits : List Nat) :
    (gather significand digits).1 ≤ largestSignificand := by
  induction digits generalizing significand with
  | nil => exact h
  | cons d ds ih =>
    unfold gather
    split
    · next hfits => exact ih hfits
    · exact h

theorem finite_of_toDouble? {n : Numeral} {x : Double} (h : n.toDouble? = some x) :
    x.magnitude < BinaryFormat.double.infinity :=
  Double.finite_of_ofScientific? (gather_le (gather_le (Nat.zero_le _) n.whole) n.fraction) h

theorem exists_toDouble?_eq {n : Numeral} (h : n.WellFormed) (short : n.whole.length ≤ 16) :
    ∃ taken rest, n.fraction = taken ++ rest ∧ (n.fraction ≠ [] → taken ≠ []) ∧
      ofDigits (n.whole ++ taken) ≤ largestSignificand ∧
      n.toDouble? = Double.ofScientific? n.negative (ofDigits (n.whole ++ taken))
        (n.exponent.getD 0 - taken.length) := by
  have hroom : (0 + 1) * 10 ^ n.whole.length ≤ largestSignificand + 1 := by
    rw [Nat.zero_add, Nat.one_mul]
    exact (Nat.pow_le_pow_right (by decide) short).trans (by decide +kernel)
  have hwhole : gather 0 n.whole = (ofDigits n.whole, []) := by
    rw [gather_all h.whole hroom, Nat.zero_mul, Nat.zero_add]
  obtain ⟨taken, hfraction, hvalue⟩ := gather_spec (ofDigits n.whole) n.fraction
  have hle := gather_le (gather_le (Nat.zero_le _) n.whole) n.fraction
  rw [hwhole] at hle
  rw [← ofDigits_append] at hvalue
  refine ⟨taken, _, hfraction, ?_, by rw [← hvalue]; exact hle, ?_⟩
  · -- There is room for one more digit.
    intro hsome htaken
    obtain ⟨d, ds, hds⟩ := List.exists_cons_of_ne_nil hsome
    have hd : d < 10 := h.fraction d (by rw [hds]; exact List.mem_cons_self)
    have hless : ofDigits n.whole < 10 ^ 16 :=
      (ofDigits_lt h.whole).trans_le (Nat.pow_le_pow_right (by decide) short)
    have hlargest : 10 ^ 17 ≤ largestSignificand := by decide +kernel
    have hfits : ofDigits n.whole * 10 + d ≤ largestSignificand := by omega
    rw [htaken, List.nil_append, hds, gather, if_pos hfits] at hfraction
    obtain ⟨more, hmore, -⟩ := gather_spec (ofDigits n.whole * 10 + d) ds
    have hlength := congrArg List.length hfraction
    have hlength' := congrArg List.length hmore
    rw [List.length_cons] at hlength
    rw [List.length_append] at hlength'
    omega
  · unfold toDouble?
    simp only [hwhole, ← hvalue]
    have hlength := congrArg List.length hfraction
    rw [List.length_append] at hlength
    congr 1
    rw [List.length_nil]
    omega

theorem isSome_toDouble?_of_neg {n : Numeral} (h : n.WellFormed) (short : n.whole.length ≤ 16)
    (small : n.exponent.getD 0 < 0 ∨ n.exponent.getD 0 = 0 ∧ n.fraction ≠ []) :
    n.toDouble?.isSome = true := by
  obtain ⟨taken, rest, -, htaken, -, hread⟩ := exists_toDouble?_eq h short
  rw [hread]
  apply Double.isSome_ofScientific?_of_neg
  rcases small with hneg | ⟨hzero, hsome⟩
  · omega
  · have := List.length_pos_of_ne_nil (htaken hsome)
    omega

theorem isSome_toDouble?_ofFactor (negative : Bool) {factor : Nat} {exponent : Int}
    (pos : 0 < factor)
    (small : (factor : ℚ) * 10 ^ exponent ≤
      (2 ^ BinaryFormat.double.precision - 5 / 2) * 2 ^ BinaryFormat.double.coarsest)
    (far : isWrittenOut (Decimal.ofFactor factor exponent).exponent = false)
    (wellFormed : (ofDecimal negative (Decimal.ofFactor factor exponent)).WellFormed) :
    (ofDecimal negative (Decimal.ofFactor factor exponent)).toDouble?.isSome = true := by
  obtain ⟨d, ds, hd, hdigits⟩ := Decimal.exists_digits_ofFactor pos
  have hnumeral : ofDecimal negative (Decimal.ofFactor factor exponent) =
      ⟨negative, [d], ds, some (Decimal.ofFactor factor exponent).exponent⟩ := by
    unfold ofDecimal
    rw [far, if_neg Bool.false_ne_true]
    simp only [Decimal.ofFactor, hdigits, List.take_succ_cons, List.take_zero, List.drop_succ_cons,
      List.drop_zero]
  rw [hnumeral] at wellFormed ⊢
  obtain ⟨taken, rest, hfraction, -, hle, hread⟩ :=
    exists_toDouble?_eq wellFormed (Nat.le_add_left 1 15)
  obtain ⟨zeros, hzeros⟩ := Decimal.exists_trimmed (Decimal.digitsOf factor)
  simp only [List.singleton_append] at hfraction hle hread
  rw [hdigits, hfraction] at hzeros
  have hfactor : factor = ofDigits (d :: taken ++ (rest ++ List.replicate zeros 0)) := by
    rw [← List.append_assoc, List.cons_append, ← hzeros, Decimal.ofDigits_digitsOf]
  have hlength : ((Decimal.digitsOf factor).length : Int) = taken.length + 1 + rest.length + zeros := by
    rw [hzeros]
    simp only [List.cons_append, List.length_cons, List.length_append, List.length_replicate]
    omega
  rw [hread]
  simp only [Option.getD_some]
  have hpower : (Decimal.ofFactor factor exponent).exponent - taken.length =
      exponent + (rest ++ List.replicate zeros 0).length := by
    rw [List.length_append, List.length_replicate]
    simp only [Decimal.ofFactor]
    omega
  rw [hpower]
  rcases lt_or_ge (exponent + ((rest ++ List.replicate zeros 0).length : Int)) 0 with hneg | hnonneg
  · exact Double.isSome_ofScientific?_of_neg _ _ hneg
  · obtain ⟨power, hcount⟩ := Int.eq_ofNat_of_zero_le hnonneg
    rw [hcount]
    have hfirst : 0 < ofDigits (d :: taken) := by
      rw [ofDigits_cons]
      exact Nat.add_pos_left (Nat.mul_pos (Nat.pos_of_ne_zero hd) (Nat.pow_pos (by decide))) _
    refine Double.isSome_ofScientific? negative hfirst hle (le_trans ?_ small)
    -- The digits that are left out only make the decimal larger.
    have hsplit : ofDigits (d :: taken) * 10 ^ (rest ++ List.replicate zeros 0).length ≤ factor := by
      conv_rhs => rw [hfactor]
      rw [ofDigits_append]
      exact Nat.le_add_right _ _
    calc (ofDigits (d :: taken) : ℚ) * 10 ^ power
        = ofDigits (d :: taken) * 10 ^ (rest ++ List.replicate zeros 0).length * 10 ^ exponent := by
          rw [← zpow_natCast, ← hcount, zpow_add₀ (by norm_num), zpow_natCast]
          ring
      _ ≤ factor * 10 ^ exponent := by
          gcongr
          exact_mod_cast hsplit

theorem isSome_toDouble?_of_isWrittenOut (negative : Bool) {d : Decimal} (h : d.WellFormed)
    (near : isWrittenOut d.exponent = true) : (ofDecimal negative d).toDouble?.isSome = true := by
  have hwell := wellFormed_ofDecimal negative h
  have hsome := List.length_pos_of_ne_nil h.nonempty
  have hnear := near
  unfold isWrittenOut at hnear
  simp only [Bool.and_eq_true, decide_eq_true_eq] at hnear
  unfold ofDecimal at hwell ⊢
  rw [if_pos near] at hwell ⊢
  by_cases hneg : d.exponent < 0
  · rw [if_pos hneg] at hwell ⊢
    refine isSome_toDouble?_of_neg hwell (Nat.le_add_left 1 15) (.inr ⟨rfl, ?_⟩)
    exact List.append_ne_nil_of_right_ne_nil _ h.nonempty
  · rw [if_neg hneg] at hwell ⊢
    refine isSome_toDouble?_of_neg hwell ?_ (.inr ⟨rfl, ?_⟩)
    · simp only
      rw [List.length_take]
      omega
    · simp only
      rw [← List.length_pos_iff_ne_nil, List.length_drop, List.length_append, List.length_replicate]
      omega

theorem isSome_toDouble?_largest :
    ∀ negative, (ofDouble ⟨negative, BinaryFormat.double.infinity - 1⟩).toDouble?.isSome = true ∧
      (ofDouble ⟨negative, BinaryFormat.double.infinity - 2⟩).toDouble?.isSome = true := by
  decide +kernel

theorem isSome_toDouble?_ofDouble {x : Double}
    (finite : x.magnitude < BinaryFormat.double.infinity) :
    (ofDouble x).toDouble?.isSome = true := by
  obtain ⟨negative, magnitude⟩ := x
  have hwell := wellFormed_ofDouble ⟨negative, magnitude⟩
  obtain ⟨hfirst, hsecond⟩ := isSome_toDouble?_largest negative
  change magnitude < BinaryFormat.double.infinity at finite
  obtain below | rfl | rfl : magnitude + 3 ≤ BinaryFormat.double.infinity ∨
      magnitude = BinaryFormat.double.infinity - 1 ∨
        magnitude = BinaryFormat.double.infinity - 2 := by omega
  · have hshortest := Decimal.wellFormed_shortest .double magnitude
    unfold ofDouble at hwell ⊢
    cases hnear : isWrittenOut (Decimal.shortest .double magnitude).exponent with
    | true => exact isSome_toDouble?_of_isWrittenOut negative hshortest hnear
    | false =>
      obtain hzero | ⟨factor, exponent, hpos, hupper, hfactor⟩ :=
        Decimal.shortest_cases .double magnitude
      · rw [hzero] at hnear
        cases hnear
      · simp only [hfactor] at hnear hwell ⊢
        have hle := BinaryFormat.upper_le (f := .double) (by decide) (by decide) below
        exact isSome_toDouble?_ofFactor negative hpos (hupper.trans hle) hnear hwell
  · exact hfirst
  · exact hsecond

/-! ## Settled numerals -/

/-- A numeral of a whole number of eight bytes, or of a finite number. -/
structure Stays (n : Numeral) : Prop where
  wellFormed : n.WellFormed
  same : n.settled? = some n ∨ ∃ x : Double,
    x.magnitude < BinaryFormat.double.infinity ∧ n = ofDouble x

theorem stays_ofDouble {x : Double} (finite : x.magnitude < BinaryFormat.double.infinity) :
    (ofDouble x).Stays :=
  ⟨wellFormed_ofDouble x, .inr ⟨x, finite, rfl⟩⟩

theorem settled?_eq_or (n : Numeral) :
    n.settled? = some n ∨ n.settled? = n.toDouble?.map ofDouble := by
  unfold settled?
  exact ite_eq_or_eq _ _ _

theorem stays_of_settled? {n m : Numeral} (h : n.WellFormed) (settled : n.settled? = some m) :
    m.Stays := by
  obtain hsame | hread := n.settled?_eq_or
  · rw [hsame] at settled
    cases settled
    exact ⟨h, .inl hsame⟩
  · rw [hread] at settled
    obtain ⟨x, hx, rfl⟩ := Option.map_eq_some_iff.mp settled
    exact stays_ofDouble (finite_of_toDouble? hx)

theorem Stays.exists_settled? {n : Numeral} (h : n.Stays) :
    ∃ m, n.settled? = some m ∧ m.Stays := by
  obtain hsame | ⟨x, finite, rfl⟩ := h.same
  · exact ⟨n, hsame, h⟩
  · obtain hsame | hread := (ofDouble x).settled?_eq_or
    · exact ⟨_, hsame, h⟩
    · obtain ⟨y, hy⟩ := Option.isSome_iff_exists.mp (isSome_toDouble?_ofDouble finite)
      rw [hy, Option.map_some] at hread
      exact ⟨_, hread, stays_of_settled? h.wellFormed hread⟩

end Numeral

end CodeEditor.Number
