import CodeEditor.Proofs.Number.Numeral
import CodeEditor.Proofs.Number.Rounding

/-! # What the shortest decimal is

The shortest decimal of a number lies between the quotients that round to it, and does not start with a
zero. So it is written as a numeral that can be read.
-/

namespace CodeEditor.Number

namespace BinaryFormat

/-- Half a step above a number. -/
def upper (f : BinaryFormat) (encoding : Nat) : ℚ :=
  (((f.parts encoding).1 : ℚ) + 1 / 2) * 2 ^ (f.parts encoding).2

theorem significand_parts_pos (f : BinaryFormat) {encoding : Nat} (h : encoding ≠ 0) :
    0 < (f.parts encoding).1 := by
  have hpos := f.fractionSize_pos
  unfold parts
  simp only
  split
  · next hzero =>
    rw [Nat.mod_eq_of_lt (Nat.lt_of_div_eq_zero hpos hzero)]
    exact Nat.pos_of_ne_zero h
  · exact Nat.add_pos_right _ hpos

end BinaryFormat

namespace Decimal

/-! ## Digits without the zeros at their end -/

/-- The zeros at the end say nothing beside an exponent. -/
def trimmed (digits : List Nat) : List Nat := (digits.reverse.dropWhile (· = 0)).reverse

theorem exists_trimmed (digits : List Nat) :
    ∃ zeros, digits = trimmed digits ++ List.replicate zeros 0 := by
  refine ⟨(digits.reverse.takeWhile (· = 0)).length, ?_⟩
  have hzeros : digits.reverse.takeWhile (· = 0) =
      List.replicate (digits.reverse.takeWhile (· = 0)).length 0 :=
    List.eq_replicate_iff.mpr ⟨rfl, fun d hd => by simpa using List.mem_takeWhile_imp hd⟩
  have hsplit := List.takeWhile_append_dropWhile (p := (· = 0)) (l := digits.reverse)
  unfold trimmed
  rw [← List.reverse_inj, List.reverse_append, List.reverse_reverse, List.reverse_replicate, ← hzeros]
  exact hsplit.symm

theorem trimmed_eq_cons {digits : List Nat} {d : Nat} {ds : List Nat} (h : digits = d :: ds)
    (hd : d ≠ 0) : ∃ ds', trimmed digits = d :: ds' := by
  obtain ⟨zeros, hzeros⟩ := exists_trimmed digits
  cases htrimmed : trimmed digits with
  | nil =>
    rw [htrimmed, List.nil_append, h] at hzeros
    have hmem : d ∈ List.replicate zeros 0 := by
      rw [← hzeros]
      exact List.mem_cons_self
    exact absurd (List.eq_of_mem_replicate hmem) hd
  | cons d' ds' =>
    rw [htrimmed, h, List.cons_append] at hzeros
    cases hzeros
    exact ⟨ds', rfl⟩

/-! ## Between the bounds -/

variable {f : BinaryFormat} {magnitude candidate : Nat} {exponent : Int}

theorem quotient_scaled (n d : Nat) (e : Int) :
    BinaryFormat.quotient (scaled n d e) = (n : ℚ) / d / 10 ^ e :=
  BinaryFormat.quotient_scaledBy (Nat.zero_lt_succ 9) n d e

theorem scaled_pos {n d : Nat} (hd : 0 < d) (e : Int) : 0 < (scaled n d e).2 :=
  BinaryFormat.scaledBy_pos (Nat.zero_lt_succ 9) hd e

theorem scaled_fst_pos {n d : Nat} (hn : 0 < n) (e : Int) : 0 < (scaled n d e).1 :=
  BinaryFormat.scaledBy_fst_pos (Nat.zero_lt_succ 9) hn e

theorem le_upper_of_roundsTo (h : roundsTo f magnitude candidate exponent = true) :
    (candidate : ℚ) * 10 ^ exponent ≤ f.upper magnitude := by
  generalize hpair : BinaryFormat.scaled (4 * (f.parts magnitude).1 + 2) 4 (-(f.parts magnitude).2) =
    pair
  have hpos : 0 < pair.2 := by
    rw [← hpair]
    exact BinaryFormat.scaled_pos (by decide) _
  have hle : candidate * (scaled pair.1 pair.2 exponent).2 ≤ (scaled pair.1 pair.2 exponent).1 := by
    unfold roundsTo bounds at h
    simp only [hpair] at h
    split at h
    · simp only [Bool.and_eq_true, decide_eq_true_eq] at h
      exact h.2
    · simp only [Bool.and_eq_true, decide_eq_true_eq] at h
      exact h.2.le
  have hupper : BinaryFormat.quotient pair = f.upper magnitude := by
    rw [← hpair, BinaryFormat.quotient_scaled, BinaryFormat.upper, zpow_neg, div_inv_eq_mul]
    push_cast
    ring
  have hquotient : (candidate : ℚ) ≤ BinaryFormat.quotient (scaled pair.1 pair.2 exponent) := by
    unfold BinaryFormat.quotient
    rw [le_div_iff₀ (by exact_mod_cast scaled_pos hpos exponent)]
    exact_mod_cast hle
  rw [quotient_scaled, le_div_iff₀ (by positivity)] at hquotient
  rw [← hupper]
  exact hquotient

theorem pos_of_roundsTo (some : magnitude ≠ 0)
    (h : roundsTo f magnitude candidate exponent = true) : 0 < candidate := by
  have hsignificand := f.significand_parts_pos some
  rcases Nat.eq_zero_or_pos candidate with rfl | hpos
  · unfold roundsTo bounds at h
    simp only [Nat.zero_mul] at h
    split at h
    · simp only [Bool.and_eq_true, decide_eq_true_eq, Nat.le_zero] at h
      refine absurd h.1 (scaled_fst_pos (BinaryFormat.scaled_fst_pos ?_ _) _).ne'
      split <;> omega
    · simp only [Bool.and_eq_true, decide_eq_true_eq, Nat.not_lt_zero, false_and] at h
  · exact hpos

theorem roundsTo_of_onGrid? {factor : Nat} (h : onGrid? f magnitude exponent = some factor) :
    roundsTo f magnitude factor exponent = true := by
  unfold onGrid? at h
  simp only at h
  split at h
  · next hlow hnext =>
    cases h
    rcases BinaryFormat.nearest_eq_or _ _ with hnearest | hnearest <;> rw [hnearest]
    · exact hlow
    · exact hnext
  · next hlow _ =>
    cases h
    exact hlow
  · next hnext =>
    cases h
    exact hnext
  · cases h

/-- The decimal of a factor of a power of ten. -/
def ofFactor (factor : Nat) (exponent : Int) : Decimal :=
  ⟨trimmed (digitsOf factor), exponent + ((digitsOf factor).length : Int) - 1⟩

theorem search_cases (f : BinaryFormat) (magnitude : Nat) (leading : Int) (size : Nat) :
    search f magnitude leading size = ⟨[0], 0⟩ ∨
      ∃ factor exponent, roundsTo f magnitude factor exponent = true ∧
        search f magnitude leading size = ofFactor factor exponent := by
  induction size with
  | zero => exact .inl rfl
  | succ more ih =>
    unfold search
    simp only
    split
    · next factor found => exact .inr ⟨factor, _, roundsTo_of_onGrid? found, rfl⟩
    · exact ih

theorem shortest_cases (f : BinaryFormat) (magnitude : Nat) :
    shortest f magnitude = ⟨[0], 0⟩ ∨
      ∃ (factor : Nat) (exponent : Int), 0 < factor ∧
        (factor : ℚ) * 10 ^ exponent ≤ f.upper magnitude ∧
          shortest f magnitude = ofFactor factor exponent := by
  unfold shortest
  split
  · exact .inl rfl
  · next some =>
    obtain hzero | ⟨factor, exponent, hrounds, hsearch⟩ := search_cases f magnitude
      (leadingExponent (f.ratio magnitude).1 (f.ratio magnitude).2) 17
    · exact .inl hzero
    · exact .inr ⟨factor, exponent, pos_of_roundsTo some hrounds, le_upper_of_roundsTo hrounds,
        hsearch⟩

/-! ## Decimals as they are written -/

structure WellFormed (d : Decimal) : Prop where
  digits : ∀ digit ∈ d.digits, digit < 10
  nonempty : d.digits ≠ []
  leading : d.digits.head? = some 0 → d = ⟨[0], 0⟩

theorem mem_of_mem_trimmed {digits : List Nat} {digit : Nat} (h : digit ∈ trimmed digits) :
    digit ∈ digits := by
  obtain ⟨zeros, hzeros⟩ := exists_trimmed digits
  rw [hzeros]
  exact List.mem_append_left _ h

theorem exists_digits_ofFactor {factor : Nat} (h : 0 < factor) :
    ∃ d ds, d ≠ 0 ∧ trimmed (digitsOf factor) = d :: ds := by
  obtain ⟨d, ds, hdigits⟩ := List.exists_cons_of_ne_nil (digitsOf_ne_nil factor)
  have hfirst := head?_digitsOf h
  have hd : d ≠ 0 := by
    rintro rfl
    rw [hdigits] at hfirst
    exact hfirst rfl
  obtain ⟨ds', htrimmed⟩ := trimmed_eq_cons hdigits hd
  exact ⟨d, ds', hd, htrimmed⟩

theorem wellFormed_shortest (f : BinaryFormat) (magnitude : Nat) :
    (shortest f magnitude).WellFormed := by
  obtain hzero | ⟨factor, exponent, hpos, -, hfactor⟩ := shortest_cases f magnitude
  · rw [hzero]
    exact ⟨by decide, List.cons_ne_nil _ _, fun _ => rfl⟩
  · obtain ⟨d, ds, hd, htrimmed⟩ := exists_digits_ofFactor hpos
    rw [hfactor]
    refine ⟨fun digit hdigit => digitsOf_lt factor digit (mem_of_mem_trimmed hdigit), ?_, ?_⟩
    · rw [ofFactor, htrimmed]
      exact List.cons_ne_nil _ _
    · rw [ofFactor, htrimmed]
      rintro ⟨⟩
      exact absurd rfl hd

end Decimal

namespace Numeral

theorem wellFormed_ofDecimal (negative : Bool) {d : Decimal} (h : d.WellFormed) :
    (ofDecimal negative d).WellFormed := by
  have hzero : ∀ (count digit : Nat), digit ∈ List.replicate count 0 → digit < 10 := by
    intro count digit hdigit
    rw [List.eq_of_mem_replicate hdigit]
    decide
  obtain ⟨first, later, hdigits⟩ := List.exists_cons_of_ne_nil h.nonempty
  unfold ofDecimal
  split
  · split
    · -- All digits stand after the point.
      refine ⟨by simp, ?_, List.cons_ne_nil _ _, fun _ => rfl⟩
      intro digit hdigit
      rcases List.mem_append.mp hdigit with hdigit | hdigit
      · exact hzero _ _ hdigit
      · exact h.digits digit hdigit
    · have hpadded : ∀ count, ∀ digit ∈ d.digits ++ List.replicate count 0, digit < 10 := by
        intro count digit hdigit
        rcases List.mem_append.mp hdigit with hdigit | hdigit
        · exact h.digits digit hdigit
        · exact hzero _ _ hdigit
      refine ⟨fun digit hdigit => hpadded _ digit (List.mem_of_mem_take hdigit),
        fun digit hdigit => hpadded _ digit (List.mem_of_mem_drop hdigit), ?_, ?_⟩
      · simp only [hdigits, List.cons_append, List.take_succ_cons]
        exact List.cons_ne_nil _ _
      · simp only [hdigits, List.cons_append, List.take_succ_cons, List.head?_cons,
          Option.some.injEq]
        rintro rfl
        have hlone := h.leading (by rw [hdigits]; rfl)
        rw [hlone] at hdigits ⊢
        cases hdigits
        rfl
  · refine ⟨fun digit hdigit => h.digits digit (List.mem_of_mem_take hdigit),
      fun digit hdigit => h.digits digit (List.mem_of_mem_drop hdigit), ?_, ?_⟩
    · rw [hdigits, List.take_succ_cons]
      exact List.cons_ne_nil _ _
    · simp only [hdigits, List.take_succ_cons, List.take_zero, List.head?_cons, Option.some.injEq]
      rintro rfl
      rfl

theorem wellFormed_ofDouble (x : Double) : (ofDouble x).WellFormed :=
  wellFormed_ofDecimal x.negative (Decimal.wellFormed_shortest .double x.magnitude)

end Numeral

end CodeEditor.Number
