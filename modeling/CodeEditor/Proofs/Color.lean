import CodeEditor.Proofs.Checked.Color
import CodeEditor.Proofs.Text.Parts

/-! # Reading and writing colors

A string reads as a color when it is six or eight digits, with at most one mark in front of them and blanks
around. Each color reads back from how it is written, and is written in the same way whatever it was read
from.
-/

namespace CodeEditor.Color

variable {s : String} {digits : List Char} {c : Color}

/-! ## What a string says -/

/-- The string is these digits behind one mark or none, with blanks around. -/
def Says (s : String) (digits : List Char) : Prop :=
  ∃ core, Text.IsTrimmed s.toList core ∧
    (core = '#' :: digits ∨ core = digits ∧ core.head? ≠ some '#')

theorem says_iff : Says s digits ↔ withoutMark (Text.trim s.toList) = digits := by
  have hmark : ∀ core, withoutMark core = digits ↔
      core = '#' :: digits ∨ core = digits ∧ core.head? ≠ some '#' := by
    intro core
    fun_cases withoutMark core
    · next rest => simp
    · next hunmarked =>
      have hhead : core.head? ≠ some '#' := by
        intro h
        obtain ⟨rest, rfl⟩ := List.head?_eq_some_iff.mp h
        exact hunmarked rest rfl
      constructor
      · exact fun h => .inr ⟨h, hhead⟩
      · rintro (rfl | ⟨h, -⟩)
        · exact absurd rfl hhead
        · exact h
  rw [hmark]
  constructor
  · rintro ⟨core, htrimmed, h⟩
    rwa [htrimmed.trim_eq]
  · exact fun h => ⟨_, Text.isTrimmed_trim s.toList, h⟩

theorem ofHex?_eq_some : ofHex? s = some c ↔ ∃ digits, Says s digits ∧ Spells digits c := by
  rw [ofHex?, ofDigits?_eq_some]
  constructor
  · exact fun h => ⟨_, says_iff.mpr rfl, h⟩
  · rintro ⟨digits, hsays, h⟩
    rwa [says_iff.mp hsays]

/-! ## How a color is written -/

theorem lower_hexDigit : ∀ n < 16, (hexDigit n).toLower = Nat.digitChar n := by decide

theorem upper_digitChar : ∀ n < 16, (Nat.digitChar n).toUpper = hexDigit n := by decide

theorem upper_lower : ∀ n < 128, (Char.ofNat n).toLower.toUpper = (Char.ofNat n).toUpper := by
  decide +kernel

theorem lower_pair (b : UInt8) : (pair b).map Char.toLower = digitsOf b := by
  have hb : b.toNat < 256 := b.toNat_lt
  rw [pair, List.map_cons, List.map_cons, lower_hexDigit _ (by omega), lower_hexDigit _ (by omega)]
  rfl

theorem upper_digitsOf (b : UInt8) : (digitsOf b).map Char.toUpper = pair b := by
  have hb : b.toNat < 256 := b.toNat_lt
  rw [digitsOf, List.map_cons, List.map_cons, upper_digitChar _ (by omega),
    upper_digitChar _ (by omega)]
  rfl

theorem pair_eq_iff (b : UInt8) : pair b = ['F', 'F'] ↔ b = 255 := by
  constructor
  · intro h
    have hread : byte? 'F' 'F' = some b := by
      rw [byte?_eq_some, ← lower_pair, h]
    rw [show byte? 'F' 'F' = some 255 by decide, Option.some.injEq] at hread
    exact hread.symm
  · rintro rfl
    decide

theorem spells_toHex (c : Color) : Spells c.toHex.toList.tail c := by
  rw [toHex, String.toList_ofList, List.tail_cons]
  split
  · next halpha =>
    refine .inl ⟨?_, halpha⟩
    simp only [List.map_append, lower_pair]
  · next halpha =>
    refine .inr ?_
    simp only [List.map_append, lower_pair, List.append_assoc]

theorem mark_toHex (c : Color) : c.toHex = String.ofList ('#' :: c.toHex.toList.tail) := by
  rw [toHex, String.toList_ofList, List.tail_cons]

theorem Spells.congr {digits' : List Char} (h : Spells digits c)
    (alike : digits'.map Char.toLower = digits.map Char.toLower) : Spells digits' c := by
  unfold Spells at h ⊢
  rwa [alike]

/-- The digits in capitals, without the alpha of a color through which nothing shines. -/
def canonical (digits : List Char) : List Char :=
  let capitals := digits.map Char.toUpper
  if capitals.length = 8 ∧ capitals.take 2 = ['F', 'F'] then capitals.drop 2 else capitals

theorem Spells.capitals (h : Spells digits c) :
    digits.map Char.toUpper = (digits.map Char.toLower).map Char.toUpper := by
  rw [List.map_map]
  apply List.map_congr_left
  intro d hd
  have hsmall := ((isAsciiHexDigit_iff d).mp (h.isAsciiHexDigit d hd)).lt
  have hupper := upper_lower d.toNat hsmall
  rw [Char.ofNat_toNat] at hupper
  exact hupper.symm

theorem Spells.toHex_eq (h : Spells digits c) : c.toHex = String.ofList ('#' :: canonical digits) := by
  have hcapitals := h.capitals
  unfold canonical
  rcases h with ⟨h, halpha⟩ | h
  · rw [hcapitals, h]
    simp only [List.map_append, upper_digitsOf]
    rw [if_neg (by simp [pair]), toHex, if_pos halpha]
  · rw [hcapitals, h]
    simp only [List.map_append, upper_digitsOf, List.append_assoc]
    by_cases halpha : c.alpha = 255
    · rw [if_pos ⟨rfl, (pair_eq_iff c.alpha).mpr halpha⟩, toHex, if_pos halpha]
      rfl
    · rw [if_neg fun h => halpha ((pair_eq_iff c.alpha).mp h.2), toHex, if_neg halpha]
      rfl

/-! ## Digits among blanks -/

theorem isBlank_of_isAsciiHexDigit {d : Char} (h : Text.isAsciiHexDigit d = true) :
    Text.isBlank d = false := by
  rw [isAsciiHexDigit_iff] at h
  unfold IsHexCode at h
  simp only [Text.isBlank, Bool.or_eq_false_iff, Bool.and_eq_false_iff, decide_eq_false_iff_not,
    beq_eq_false_iff_ne]
  omega

theorem says_of_digits (hdigits : ∀ d ∈ digits, Text.isAsciiHexDigit d = true)
    (front mark back : List Char) (hfront : Text.AllBlank front) (hback : Text.AllBlank back)
    (hmark : mark = [] ∨ mark = ['#']) :
    Says (String.ofList (front ++ mark ++ digits ++ back)) digits := by
  have solid : ∀ d ∈ digits, Text.isBlank d = false :=
    fun d hd => isBlank_of_isAsciiHexDigit (hdigits d hd)
  refine ⟨mark ++ digits, ?_, ?_⟩
  · rw [String.toList_ofList, List.append_assoc front]
    refine Text.isTrimmed_append hfront hback ?_
    rcases hmark with rfl | rfl
    · exact solid
    · exact List.forall_mem_cons.mpr ⟨by decide, solid⟩
  · rcases hmark with rfl | rfl
    · refine .inr ⟨rfl, ?_⟩
      intro hhead
      exact absurd (hdigits '#' (List.mem_of_mem_head? hhead)) (by decide)
    · exact .inl rfl

/-! ## Both ways -/

/-- How strings and colors stand for each other. -/
structure Codec (s : String) (c : Color) : Prop where
  /-- The strings of six or eight digits are read, and no others. -/
  accepted : (∃ c, ofHex? s = some c) ↔ ∃ digits, Says s digits ∧
    (digits.length = 6 ∨ digits.length = 8) ∧ ∀ d ∈ digits, Text.isAsciiHexDigit d = true
  channels : ofHex? s = some c ↔ ∃ digits, Says s digits ∧ Spells digits c
  back : ofHex? c.toHex = some c
  /-- Neither blanks nor the mark nor the case of digits count. -/
  alike : ∀ front mark digits back, Text.AllBlank front → Text.AllBlank back →
    mark = [] ∨ mark = ['#'] →
      digits.map Char.toLower = c.toHex.toList.tail.map Char.toLower →
        ofHex? (String.ofList (front ++ mark ++ digits ++ back)) = some c
  /-- The color is written as the canonical form of any string that it is read from. -/
  canonical : ∀ digits, ofHex? s = some c → Says s digits →
    c.toHex = String.ofList ('#' :: canonical digits)
  /-- No cut is made past the end or inside a character. -/
  within : ofBytes? (withoutMark (Text.trim s.toList)) = OptionT.mk (some (ofHex? s))

theorem hex_is_read_and_written (s : String) (c : Color) : Codec s c where
  accepted := by
    simp only [ofHex?_eq_some]
    constructor
    · rintro ⟨c, digits, hsays, h⟩
      exact ⟨digits, hsays, h.length, h.isAsciiHexDigit⟩
    · rintro ⟨digits, hsays, h⟩
      obtain ⟨c, hspells⟩ := (exists_spells_iff digits).mpr h
      exact ⟨c, digits, hsays, hspells⟩
  channels := ofHex?_eq_some
  back := by
    have h := spells_toHex c
    have hsays := says_of_digits h.isAsciiHexDigit [] ['#'] [] nofun nofun (.inr rfl)
    rw [List.append_nil, List.nil_append, List.singleton_append, ← mark_toHex] at hsays
    exact ofHex?_eq_some.mpr ⟨_, hsays, h⟩
  alike := by
    intro front mark digits back hfront hback hmark halike
    have h := (spells_toHex c).congr halike
    have hsays := says_of_digits h.isAsciiHexDigit front mark back hfront hback hmark
    exact ofHex?_eq_some.mpr ⟨digits, hsays, h⟩
  canonical := by
    intro digits hread hsays
    obtain ⟨digits', hsays', h⟩ := ofHex?_eq_some.mp hread
    obtain rfl : digits = digits' := (says_iff.mp hsays).symm.trans (says_iff.mp hsays')
    exact h.toHex_eq
  within := ofBytes?_eq (withoutMark (Text.trim s.toList))

example : ofHex? "\t80ff0000 " = some ⟨255, 0, 0, 0x80⟩ ∧
    (ofHex? "ffabcdef").map toHex = some "#ABCDEF" ∧ ofHex? "##abcdef" = none := by decide

end CodeEditor.Color
