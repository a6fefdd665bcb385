import CodeEditor.Number.Written
import Mathlib.Data.List.Induction
import Mathlib.Data.List.TakeWhile
import Mathlib.Tactic.IntervalCases
import Mathlib.Tactic.Ring

/-! # Numerals read back

A numeral that can be read is written in one way, and reading what is written gives it back.
-/

namespace CodeEditor.Number

/-! ## Digits -/

theorem digitValue_digitChar {digit : Nat} (h : digit < 10) : digitValue (digitChar digit) = digit := by
  interval_cases digit <;> rfl

theorem isAsciiDigit_digitChar {digit : Nat} (h : digit < 10) :
    Text.isAsciiDigit (digitChar digit) = true := by
  interval_cases digit <;> rfl

theorem digitValue_lt {c : Char} (h : Text.isAsciiDigit c = true) : digitValue c < 10 := by
  unfold Text.isAsciiDigit at h
  simp only [Bool.and_eq_true, decide_eq_true_eq, Char.le_def, UInt32.le_iff_toNat_le] at h
  unfold digitValue
  have h9 : '9'.val.toNat = 57 := rfl
  have h0 : '0'.toNat = 48 := rfl
  have hc : c.toNat = c.val.toNat := rfl
  omega

theorem ofDigits_append (digits more : List Nat) :
    ofDigits (digits ++ more) = ofDigits digits * 10 ^ more.length + ofDigits more := by
  unfold ofDigits
  rw [List.foldl_append]
  have hfold : ∀ (ds : List Nat) (n : Nat), ds.foldl (fun n d => n * 10 + d) n =
      n * 10 ^ ds.length + ds.foldl (fun n d => n * 10 + d) 0 := by
    intro ds
    induction ds with
    | nil => simp
    | cons d ds ih =>
      intro n
      rw [List.foldl_cons, List.foldl_cons, ih, ih (0 * 10 + d), List.length_cons, Nat.pow_succ]
      ring
  exact hfold _ _

theorem ofDigits_singleton (d : Nat) : ofDigits [d] = d := by
  simp [ofDigits]

theorem ofDigits_lt {digits : List Nat} (h : ∀ d ∈ digits, d < 10) :
    ofDigits digits < 10 ^ digits.length := by
  induction digits using List.reverseRecOn with
  | nil => decide
  | append_singleton digits d ih =>
    have hd : d < 10 := h d (List.mem_append_right _ (List.mem_singleton_self d))
    have hds := ih fun x hx => h x (List.mem_append_left _ hx)
    rw [ofDigits_append, ofDigits_singleton, List.length_singleton, List.length_append,
      List.length_singleton, Nat.pow_succ, Nat.pow_zero, Nat.one_mul]
    omega

namespace Decimal

theorem digitsOf_eq (n : Nat) :
    digitsOf n = if n < 10 then [n] else digitsOf (n / 10) ++ [n % 10] := by
  have hchar : ∀ k < 10, digitValue k.digitChar = k := by decide
  unfold digitsOf
  rw [Nat.toDigits_eq_if (by decide)]
  split
  · next h => simp [hchar n h]
  · simp [hchar (n % 10) (Nat.mod_lt n (by decide))]

theorem digitsOf_lt (n : Nat) : ∀ d ∈ digitsOf n, d < 10 := by
  induction n using Nat.strongRecOn with
  | ind n ih =>
    rw [digitsOf_eq]
    split
    · next h => simpa using h
    · next h =>
      intro d hd
      rcases List.mem_append.mp hd with hd | hd
      · exact ih (n / 10) (by omega) d hd
      · rw [List.mem_singleton.mp hd]
        exact Nat.mod_lt n (by decide)

@[simp] theorem ofDigits_digitsOf (n : Nat) : ofDigits (digitsOf n) = n := by
  induction n using Nat.strongRecOn with
  | ind n ih =>
    rw [digitsOf_eq]
    split
    · exact ofDigits_singleton n
    · next h =>
      rw [ofDigits_append, ih (n / 10) (by omega), ofDigits_singleton, List.length_singleton]
      omega

theorem digitsOf_ne_nil (n : Nat) : digitsOf n ≠ [] := by
  rw [digitsOf_eq]
  split
  · exact List.cons_ne_nil _ _
  · simp

theorem head?_digitsOf {n : Nat} (h : 0 < n) : (digitsOf n).head? ≠ some 0 := by
  induction n using Nat.strongRecOn with
  | ind n ih =>
    rw [digitsOf_eq]
    split
    · simpa using h.ne'
    · next hmany =>
      have hfirst := ih (n / 10) (by omega) (by omega)
      obtain ⟨d, ds, hds⟩ := List.exists_cons_of_ne_nil (digitsOf_ne_nil (n / 10))
      rw [hds] at hfirst ⊢
      exact hfirst

end Decimal

namespace Numeral

/-! ## What can be read -/

structure WellFormed (n : Numeral) : Prop where
  whole : ∀ d ∈ n.whole, d < 10
  fraction : ∀ d ∈ n.fraction, d < 10
  nonempty : n.whole ≠ []
  leading : n.whole.head? = some 0 → n.whole = [0]

theorem digits_lt (text : List Char) : ∀ d ∈ digits text, d < 10 := by
  intro d hd
  obtain ⟨c, hc, rfl⟩ := List.mem_map.mp hd
  exact digitValue_lt (List.mem_takeWhile_imp hc)

/-- The front of a text that is made of digits. -/
structure Stops (rest : List Char) : Prop where
  head : ∀ c, rest.head? = some c → Text.isAsciiDigit c = false

theorem takeWhile_digits {ds : List Nat} (h : ∀ d ∈ ds, d < 10) {rest : List Char}
    (stops : Stops rest) :
    digits (ds.map digitChar ++ rest) = ds ∧ afterDigits (ds.map digitChar ++ rest) = rest := by
  have hall : ∀ c ∈ ds.map digitChar, Text.isAsciiDigit c = true := by
    intro c hc
    obtain ⟨d, hd, rfl⟩ := List.mem_map.mp hc
    exact isAsciiDigit_digitChar (h d hd)
  have hrest : rest.takeWhile Text.isAsciiDigit = [] ∧ rest.dropWhile Text.isAsciiDigit = rest := by
    cases rest with
    | nil => exact ⟨rfl, rfl⟩
    | cons c cs =>
      have hc := stops.head c rfl
      exact ⟨List.takeWhile_cons_of_neg (by rw [hc]; exact Bool.false_ne_true),
        List.dropWhile_cons_of_neg (by rw [hc]; exact Bool.false_ne_true)⟩
  have hvalues : (ds.map digitChar).map digitValue = ds := by
    rw [List.map_map]
    conv_rhs => rw [← List.map_id ds]
    exact List.map_congr_left fun d hd => digitValue_digitChar (h d hd)
  unfold digits afterDigits
  rw [List.takeWhile_append_of_pos hall, List.dropWhile_append_of_pos hall, hrest.1, hrest.2,
    List.append_nil, hvalues]
  exact ⟨rfl, rfl⟩

theorem stops_nil : Stops [] := ⟨nofun⟩

theorem stops_cons {c : Char} (h : Text.isAsciiDigit c = false) (rest : List Char) :
    Stops (c :: rest) := by
  constructor
  rintro _ ⟨⟩
  exact h

theorem readExponent?_digits {ds : List Nat} (h : ∀ d ∈ ds, d < 10) (some : ds ≠ []) :
    readExponent? ('-' :: ds.map digitChar) = .some (-(ofDigits ds : Int)) ∧
      readExponent? ('+' :: ds.map digitChar) = .some (ofDigits ds : Int) := by
  obtain ⟨hdigits, hafter⟩ := takeWhile_digits h stops_nil
  rw [List.append_nil] at hdigits hafter
  have hnonempty : (ds.map digitChar).isEmpty = false := by
    cases ds with
    | nil => exact absurd rfl some
    | cons d ds => rfl
  unfold readExponent?
  simp only [hdigits, hafter, hnonempty]
  exact ⟨rfl, rfl⟩

theorem readExponent?_exponentText (e : Int) : readExponent? (exponentText e) = some e := by
  have hread : ∀ ds : List Nat, (∀ d ∈ ds, d < 10) → ds ≠ [] → ofDigits ds = e.natAbs →
      readExponent? ((if e < 0 then '-' else '+') :: ds.map digitChar) = some e := by
    intro ds hlt hne hvalue
    obtain ⟨hminus, hplus⟩ := readExponent?_digits hlt hne
    split
    · rw [hminus, hvalue, Option.some.injEq]
      omega
    · rw [hplus, hvalue, Option.some.injEq]
      omega
  have hlt := Decimal.digitsOf_lt e.natAbs
  have hvalue := Decimal.ofDigits_digitsOf e.natAbs
  have hpadded : ∀ d ∈ 0 :: Decimal.digitsOf e.natAbs, d < 10 :=
    List.forall_mem_cons.mpr ⟨Nat.zero_lt_succ 9, hlt⟩
  unfold exponentText
  simp only
  by_cases hshort : (Decimal.digitsOf e.natAbs).length < 2
  · rw [if_pos hshort]
    exact hread _ hpadded (List.cons_ne_nil _ _) hvalue
  · rw [if_neg hshort]
    exact hread _ hlt (Decimal.digitsOf_ne_nil _) hvalue

/-! ## What is written -/

def exponentPart : Option Int → List Char
  | none => []
  | some exponent => 'e' :: exponentText exponent

def tailText (fraction : List Nat) (exponent : Option Int) : List Char :=
  (if fraction.isEmpty then [] else '.' :: fraction.map digitChar) ++ exponentPart exponent

theorem text_eq (n : Numeral) :
    n.text = (if n.negative then ['-'] else []) ++
      (n.whole.map digitChar ++ tailText n.fraction n.exponent) := by
  unfold text tailText
  cases n.exponent <;> simp only [exponentPart, List.append_assoc]

theorem stops_exponentPart (exponent : Option Int) : Stops (exponentPart exponent) := by
  cases exponent with
  | none => exact stops_nil
  | some e => exact stops_cons rfl _

theorem stops_tailText (fraction : List Nat) (exponent : Option Int) :
    Stops (tailText fraction exponent) := by
  unfold tailText
  split
  · exact stops_exponentPart exponent
  · exact stops_cons rfl _

theorem readTail?_tailText (negative : Bool) (whole : List Nat) {fraction : List Nat}
    (h : ∀ d ∈ fraction, d < 10) (exponent : Option Int) :
    readTail? negative whole (tailText fraction exponent) =
      some ⟨negative, whole, fraction, exponent⟩ := by
  unfold readTail? tailText
  cases fraction with
  | nil =>
    cases exponent with
    | none => rfl
    | some e =>
      show (readExponent? (exponentText e)).map _ = _
      rw [readExponent?_exponentText]
      rfl
  | cons d ds =>
    obtain ⟨hdigits, hafter⟩ := takeWhile_digits h (stops_exponentPart exponent)
    simp only [List.isEmpty_cons, Bool.false_eq_true, if_false, List.cons_append] at hdigits hafter ⊢
    rw [hdigits, hafter]
    cases exponent with
    | none => rfl
    | some e =>
      show (readExponent? (exponentText e)).map _ = _
      rw [readExponent?_exponentText]
      rfl

def readUnsigned? (negative : Bool) (text : List Char) : Option Numeral :=
  match digits text with
  | [] => none
  | 0 :: _ :: _ => none
  | whole => readTail? negative whole (afterDigits text)

theorem read?_minus (text : List Char) : read? ('-' :: text) = readUnsigned? true text := rfl

theorem read?_of_ne {c : Char} (h : c ≠ '-') (text : List Char) :
    read? (c :: text) = readUnsigned? false (c :: text) := by
  unfold read?
  split
  next negative rest hsign =>
    split at hsign
    · next hminus => exact absurd (List.cons.inj hminus).1 h
    · cases hsign
      rfl

theorem readUnsigned?_text {n : Numeral} (h : n.WellFormed) :
    readUnsigned? n.negative (n.whole.map digitChar ++ tailText n.fraction n.exponent) = some n := by
  obtain ⟨hdigits, hafter⟩ := takeWhile_digits h.whole (stops_tailText n.fraction n.exponent)
  unfold readUnsigned?
  rw [hdigits, hafter]
  split
  · next hnil => exact absurd hnil h.nonempty
  · next d ds hzero =>
    have hlone := h.leading (by rw [hzero]; rfl)
    rw [hzero] at hlone
    cases hlone
  · exact readTail?_tailText n.negative n.whole h.fraction n.exponent

theorem read?_text {n : Numeral} (h : n.WellFormed) : read? n.text = some n := by
  have hread := readUnsigned?_text h
  rw [text_eq]
  cases hnegative : n.negative with
  | true =>
    rw [hnegative] at hread
    exact hread
  | false =>
    -- The first character is a digit, not a sign.
    obtain ⟨d, ds, hwhole⟩ := List.exists_cons_of_ne_nil h.nonempty
    have hdigit := isAsciiDigit_digitChar (h.whole d (by rw [hwhole]; exact List.mem_cons_self))
    have hsign : digitChar d ≠ '-' := by
      intro hc
      rw [hc] at hdigit
      cases hdigit
    rw [hnegative, hwhole, List.map_cons, List.cons_append] at hread
    rw [if_neg Bool.false_ne_true, List.nil_append, hwhole, List.map_cons, List.cons_append,
      read?_of_ne hsign]
    exact hread

/-- What stands after the fraction: an exponent or nothing. -/
def readEnd? (negative : Bool) (whole fraction : List Nat) : List Char → Option Numeral
  | [] => some ⟨negative, whole, fraction, none⟩
  | c :: rest =>
    if c == 'e' || c == 'E' then
      (readExponent? rest).map fun e => ⟨negative, whole, fraction, some e⟩
    else none

theorem digits_of_readEnd? {negative : Bool} {whole fraction : List Nat} {text : List Char}
    {n : Numeral} (h : readEnd? negative whole fraction text = some n) :
    n.whole = whole ∧ n.fraction = fraction := by
  unfold readEnd? at h
  split at h
  · cases h
    exact ⟨rfl, rfl⟩
  · split at h
    · obtain ⟨e, -, rfl⟩ := Option.map_eq_some_iff.mp h
      exact ⟨rfl, rfl⟩
    · cases h

theorem wellFormed_of_readTail? {negative : Bool} {whole : List Nat} {text : List Char} {n : Numeral}
    (h : readTail? negative whole text = some n) :
    n.whole = whole ∧ ∀ d ∈ n.fraction, d < 10 := by
  unfold readTail? at h
  simp only at h
  split at h
  · split at h
    · cases h
    · obtain ⟨hwhole, hfraction⟩ := digits_of_readEnd? h
      rw [hfraction]
      exact ⟨hwhole, digits_lt _⟩
  · obtain ⟨hwhole, hfraction⟩ := digits_of_readEnd? h
    rw [hfraction]
    exact ⟨hwhole, List.forall_mem_nil _⟩

theorem wellFormed_of_readUnsigned? {negative : Bool} {text : List Char} {n : Numeral}
    (h : readUnsigned? negative text = some n) : n.WellFormed := by
  have hlt := digits_lt text
  unfold readUnsigned? at h
  split at h
  · cases h
  · cases h
  · next hnil hzero =>
    obtain ⟨hwhole, hfraction⟩ := wellFormed_of_readTail? h
    refine ⟨by rw [hwhole]; exact hlt, hfraction, by rw [hwhole]; exact hnil, ?_⟩
    rw [hwhole]
    intro hhead
    cases hdigits : digits text with
    | nil => exact absurd hdigits hnil
    | cons d ds =>
      rw [hdigits] at hhead
      cases hhead
      cases ds with
      | nil => rfl
      | cons d' ds' => exact absurd hdigits (hzero d' ds')

theorem wellFormed_of_read? {text : List Char} {n : Numeral} (h : read? text = some n) :
    n.WellFormed := by
  cases text with
  | nil => cases h
  | cons c cs =>
    by_cases hc : c = '-'
    · rw [hc, read?_minus] at h
      exact wellFormed_of_readUnsigned? h
    · rw [read?_of_ne hc] at h
      exact wellFormed_of_readUnsigned? h

end Numeral

end CodeEditor.Number
