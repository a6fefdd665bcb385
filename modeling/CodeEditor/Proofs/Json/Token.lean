import CodeEditor.Json.Token
import CodeEditor.Json.Writer
import CodeEditor.Proofs.Number.Numeral

/-! # Tokens of a written document

Whatever comes after it, a word or string literal that has been written is read as one token, with the
value that was written.
-/

namespace CodeEditor.Json.Token

variable {done : List Token} {rest : List Char}

/-- A text that cannot go on with a word. -/
structure Ends (rest : List Char) : Prop where
  head : ∀ c, rest.head? = some c → isWordChar c = false

theorem ends_nil : Ends [] := ⟨nofun⟩

theorem ends_cons {c : Char} (h : isWordChar c = false) (rest : List Char) : Ends (c :: rest) := by
  constructor
  rintro _ ⟨⟩
  exact h

/-! ## Blanks -/

theorem read?_blank : read? .between done (' ' :: rest) = read? .between done rest := rfl

theorem read?_replicate (count : Nat) :
    read? .between done (List.replicate count ' ' ++ rest) = read? .between done rest := by
  induction count with
  | zero => rfl
  | succ count ih =>
    rw [List.replicate_succ, List.cons_append]
    exact ih

@[simp] theorem read?_newLine (level : Nat) :
    read? .between done (newLine level ++ rest) = read? .between done rest :=
  read?_replicate (2 * level)

theorem ends_newLine (level : Nat) : Ends (newLine level ++ rest) := ends_cons rfl _

/-! ## Marks -/

theorem read?_mark {c : Char} (mark : isMark c = true) :
    read? .between done (c :: rest) = read? .between (.mark c :: done) rest := by
  have hspace : isSpace c = false := by
    simp only [isMark, Bool.or_eq_true, beq_iff_eq] at mark
    rcases mark with ((((rfl | rfl) | rfl) | rfl) | rfl) | rfl <;> rfl
  rw [read?, step?, start?, if_neg (by rw [hspace]; exact Bool.false_ne_true), if_pos mark]

/-! ## Words -/

theorem start?_of_isWordChar {c : Char} (h : isWordChar c = true) :
    start? c done = some (.inWord [c], done) := by
  have hother : ∀ c' : Char, isWordChar c' = false → c ≠ c' := by
    rintro _ hfalse rfl
    rw [h] at hfalse
    cases hfalse
  have hspace : isSpace c = false := by
    simp only [isSpace, Bool.or_eq_false_iff, beq_eq_false_iff_ne]
    refine ⟨⟨⟨?_, ?_⟩, ?_⟩, ?_⟩ <;> exact hother _ rfl
  have hmark : isMark c = false := by
    simp only [isMark, Bool.or_eq_false_iff, beq_eq_false_iff_ne]
    refine ⟨⟨⟨⟨⟨?_, ?_⟩, ?_⟩, ?_⟩, ?_⟩, ?_⟩ <;> exact hother _ rfl
  have hquote : (c == '"') = false := beq_eq_false_iff_ne.mpr (hother _ rfl)
  unfold start?
  simp only [hspace, hmark, hquote, h, Bool.false_eq_true, if_false, if_true]

theorem read?_inWord {before word : List Char} {value : Json}
    (chars : ∀ c ∈ word, isWordChar c = true)
    (known : ofWord? (before.reverse ++ word) = some value) (ends : Ends rest) :
    read? (.inWord before) done (word ++ rest) = read? .between (.scalar value :: done) rest := by
  induction word generalizing before with
  | nil =>
    rw [List.append_nil] at known
    cases rest with
    | nil => simp only [List.append_nil, read?, known, Option.map_some]
    | cons c cs =>
      have hc := ends.head c rfl
      simp only [List.nil_append, read?, step?, hc, Bool.false_eq_true, if_false, known]
      rfl
  | cons c cs ih =>
    obtain ⟨hc, hcs⟩ := List.forall_mem_cons.mp chars
    simp only [List.cons_append, read?, step?, hc, if_true]
    refine ih hcs ?_
    rw [List.reverse_cons, List.append_assoc]
    exact known

theorem read?_word {word : List Char} {value : Json} (some : word ≠ [])
    (chars : ∀ c ∈ word, isWordChar c = true) (known : ofWord? word = .some value)
    (ends : Ends rest) :
    read? .between done (word ++ rest) = read? .between (.scalar value :: done) rest := by
  obtain ⟨c, cs, rfl⟩ := List.exists_cons_of_ne_nil some
  obtain ⟨hc, hcs⟩ := List.forall_mem_cons.mp chars
  rw [List.cons_append, read?, step?, start?_of_isWordChar hc]
  exact read?_inWord hcs known ends

theorem isWordChar_nullText : ∀ c ∈ nullText, isWordChar c = true := by
  have hall : nullText.all isWordChar = true := by decide
  exact List.all_eq_true.mp hall

theorem isWordChar_boolText (value : Bool) : ∀ c ∈ boolText value, isWordChar c = true := by
  have hall : (boolText value).all isWordChar = true := by cases value <;> decide
  exact List.all_eq_true.mp hall

theorem boolText_ne_nil : ∀ value, boolText value ≠ [] := by decide

theorem ofWord?_boolText (value : Bool) : ofWord? (boolText value) = some (.bool value) := by
  cases value <;> rfl

/-! ## Numerals -/

theorem isWordChar_digitChar {digit : Nat} (h : digit < 10) :
    isWordChar (Number.digitChar digit) = true := by
  unfold isWordChar
  rw [Number.isAsciiDigit_digitChar h]
  simp

theorem isWordChar_digits {digits : List Nat} (h : ∀ d ∈ digits, d < 10) :
    ∀ c ∈ digits.map Number.digitChar, isWordChar c = true := by
  intro c hc
  obtain ⟨d, hd, rfl⟩ := List.mem_map.mp hc
  exact isWordChar_digitChar (h d hd)

theorem isWordChar_exponentText (exponent : Int) :
    ∀ c ∈ Number.Numeral.exponentText exponent, isWordChar c = true := by
  have hdigits := Number.Decimal.digitsOf_lt exponent.natAbs
  unfold Number.Numeral.exponentText
  refine List.forall_mem_cons.mpr ⟨by split <;> rfl, isWordChar_digits ?_⟩
  split
  · exact List.forall_mem_cons.mpr ⟨Nat.zero_lt_succ 9, hdigits⟩
  · exact hdigits

theorem isWordChar_text {n : Number.Numeral} (h : n.WellFormed) :
    ∀ c ∈ n.text, isWordChar c = true := by
  rw [Number.Numeral.text_eq]
  unfold Number.Numeral.tailText
  simp only [List.forall_mem_append]
  refine ⟨?_, isWordChar_digits h.whole, ?_, ?_⟩
  · split
    · exact List.forall_mem_cons.mpr ⟨rfl, List.forall_mem_nil _⟩
    · exact List.forall_mem_nil _
  · split
    · exact List.forall_mem_nil _
    · exact List.forall_mem_cons.mpr ⟨rfl, isWordChar_digits h.fraction⟩
  · cases n.exponent with
    | none => exact List.forall_mem_nil _
    | some exponent => exact List.forall_mem_cons.mpr ⟨rfl, isWordChar_exponentText exponent⟩

theorem ofWord?_text {n : Number.Numeral} (h : n.WellFormed) : ofWord? n.text = some (.number n) := by
  have hread := Number.Numeral.read?_text h
  have hother : ∀ word, Number.Numeral.read? word = none → (n.text == word) = false := by
    intro word hnone
    rw [beq_eq_false_iff_ne]
    intro hsame
    rw [hsame, hnone] at hread
    cases hread
  unfold ofWord?
  rw [hother _ rfl, hother _ rfl, hother _ rfl, hread]
  rfl

theorem read?_number {n : Number.Numeral} (h : n.WellFormed) (ends : Ends rest) :
    read? .between done (n.text ++ rest) = read? .between (.scalar (.number n) :: done) rest := by
  refine read?_word ?_ (isWordChar_text h) (ofWord?_text h) ends
  intro hnone
  have hread := Number.Numeral.read?_text h
  rw [hnone] at hread
  cases hread

/-! ## String literals -/

theorem hexValue?_hexDigit : ∀ n < 16, hexValue? (hexDigit n) = some n := by decide

theorem pushUnit_toNat {t : OpenText} {c : Char} (h : c.toNat < 0x20) : t.pushUnit c.toNat = t.push c := by
  unfold OpenText.pushUnit
  rw [if_neg (by simp; omega), if_neg (by simp; omega), Char.ofNat_toNat]

theorem read?_unit {t : OpenText} {code lacking value : Nat} {c : Char} (h : hexValue? c = some value) :
    read? (.unit t code (lacking + 2)) done (c :: rest) =
      read? (.unit t (code * 16 + value) (lacking + 1)) done rest := by
  simp only [read?, step?, h]
  rfl

theorem read?_lastUnit {t : OpenText} {code value : Nat} {c : Char} (h : hexValue? c = some value) :
    read? (.unit t code 1) done (c :: rest) =
      read? (.inText (t.pushUnit (code * 16 + value))) done rest := by
  simp only [read?, step?, h]
  rfl

theorem read?_escape (t : OpenText) (c : Char) :
    read? (.inText t) done (escape c ++ rest) = read? (.inText (t.push c)) done rest := by
  have hcode : ∀ code, c.toNat = code → c = Char.ofNat code := by
    rintro _ rfl
    exact (Char.ofNat_toNat c).symm
  unfold escape
  split
  · next h => rw [h]; rfl
  split
  · next h => rw [h]; rfl
  split
  · next h => rw [h]; rfl
  split
  · next h => rw [h]; rfl
  split
  · next h => rw [h]; rfl
  split
  · next h => rw [hcode _ h]; rfl
  split
  · next h => rw [hcode _ h]; rfl
  split
  · next h =>
    have hhigh := hexValue?_hexDigit (c.toNat / 16) (by omega)
    have hlow := hexValue?_hexDigit (c.toNat % 16) (Nat.mod_lt _ (by decide))
    have hzero : hexValue? '0' = some 0 := rfl
    have hvalue : (((0 * 16 + 0) * 16 + 0) * 16 + c.toNat / 16) * 16 + c.toNat % 16 = c.toNat := by
      omega
    show read? (.unit t 0 4) done ('0' :: '0' :: hexDigit (c.toNat / 16) ::
      hexDigit (c.toNat % 16) :: rest) = _
    rw [read?_unit hzero, read?_unit hzero, read?_unit hhigh, read?_lastUnit hlow, hvalue,
      pushUnit_toNat h]
  · next hquote hslash _ _ _ _ _ hcontrol =>
    rw [List.singleton_append, read?, step?]
    simp only [beq_eq_false_iff_ne.mpr hquote, beq_eq_false_iff_ne.mpr hslash, Bool.false_eq_true,
      if_false, if_neg hcontrol]

theorem read?_inText (before text : List Char) :
    read? (.inText ⟨before, true, none⟩) done (text.flatMap escape ++ '"' :: rest) =
      read? .between (.scalar (.text (some (String.ofList (before.reverse ++ text)))) :: done)
        rest := by
  induction text generalizing before with
  | nil => rw [List.append_nil]; rfl
  | cons c cs ih =>
    rw [List.flatMap_cons, List.append_assoc, read?_escape]
    have hnext := ih (c :: before)
    rw [List.reverse_cons, List.append_assoc] at hnext
    exact hnext

theorem read?_literalText (l : Literal) :
    read? .between done (literalText l ++ rest) = read? .between (.scalar (.text l) :: done) rest := by
  cases l with
  | none => rfl
  | some value =>
    rw [literalText, quoted, List.cons_append, List.append_assoc]
    have h : read? (.inText ⟨[], true, none⟩) done (value.toList.flatMap escape ++ '"' :: rest) = _ :=
      read?_inText [] value.toList
    rw [List.reverse_nil, List.nil_append, String.ofList_toList] at h
    exact h

end CodeEditor.Json.Token
