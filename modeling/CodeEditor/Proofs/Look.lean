import CodeEditor.Attributes
import Mathlib.Data.List.Forall2

/-! # Attributes that look the same

`Attributes.agrees` compares fractions as numbers: the two zeros are one, and what stands for no
number agrees with nothing. On all other attributes it is an equivalence.
-/

namespace CodeEditor

/-! ## Numbers -/

namespace Number.Single

theorem agrees_iff (x y : Single) :
    x.agrees y ↔ x.isNaN = false ∧ y.isNaN = false ∧
      (x.bits = y.bits ∨ x.magnitude = 0 ∧ y.magnitude = 0) := by
  simp [agrees, and_assoc]

theorem agrees_comm {x y : Single} : x.agrees y ↔ y.agrees x := by rw [agrees_symm]

theorem agrees_trans {x y z : Single} (hxy : x.agrees y) (hyz : y.agrees z) : x.agrees z := by
  rw [agrees_iff] at *
  obtain ⟨hx, -, h1⟩ := hxy
  obtain ⟨-, hz, h2⟩ := hyz
  refine ⟨hx, hz, ?_⟩
  have magnitude_eq : ∀ a b : Single, a.bits = b.bits → a.magnitude = b.magnitude :=
    fun a b h => by rw [magnitude, magnitude, h]
  rcases h1 with h1 | ⟨h1, h1'⟩ <;> rcases h2 with h2 | ⟨h2, h2'⟩
  · exact Or.inl (h1.trans h2)
  · exact Or.inr ⟨(magnitude_eq x y h1).trans h2, h2'⟩
  · exact Or.inr ⟨h1, (magnitude_eq y z h2).symm.trans h1'⟩
  · exact Or.inr ⟨h1, h2'⟩

end Number.Single

/-! ## Attributes -/

namespace Attributes

theorem agrees_iff (a b : Attributes) :
    a.agrees b ↔
      (a.font.family = b.font.family ∧ a.font.size.agrees b.font.size ∧
        a.font.weight = b.font.weight ∧ a.font.italic = b.font.italic) ∧
      a.foreground = b.foreground ∧ a.background = b.background ∧ a.kerning.agrees b.kerning ∧
      a.ligatures = b.ligatures ∧ a.paragraph.tabWidth = b.paragraph.tabWidth ∧
      a.paragraph.lineSpacing.agrees b.paragraph.lineSpacing := by
  simp [agrees, Font.agrees, Paragraph.agrees, and_assoc]

/-- All fractions are numbers. -/
def IsNumeric (a : Attributes) : Prop :=
  a.font.size.isNaN = false ∧ a.kerning.isNaN = false ∧ a.paragraph.lineSpacing.isNaN = false

theorem agrees_self {a : Attributes} (h : a.IsNumeric) : a.agrees a := by
  rw [agrees_iff]
  obtain ⟨h1, h2, h3⟩ := h
  simp [Number.Single.agrees_self, h1, h2, h3]

theorem agrees_symm {a b : Attributes} (h : a.agrees b) : b.agrees a := by
  rw [agrees_iff] at *
  obtain ⟨⟨h1, h2, h3, h4⟩, h5, h6, h7, h8, h9, h10⟩ := h
  exact ⟨⟨h1.symm, Number.Single.agrees_comm.mp h2, h3.symm, h4.symm⟩, h5.symm, h6.symm,
    Number.Single.agrees_comm.mp h7, h8.symm, h9.symm, Number.Single.agrees_comm.mp h10⟩

theorem agrees_trans {a b c : Attributes} (hab : a.agrees b) (hbc : b.agrees c) : a.agrees c := by
  rw [agrees_iff] at *
  obtain ⟨⟨h1, h2, h3, h4⟩, h5, h6, h7, h8, h9, h10⟩ := hab
  obtain ⟨⟨k1, k2, k3, k4⟩, k5, k6, k7, k8, k9, k10⟩ := hbc
  exact ⟨⟨h1.trans k1, Number.Single.agrees_trans h2 k2, h3.trans k3, h4.trans k4⟩, h5.trans k5,
    h6.trans k6, Number.Single.agrees_trans h7 k7, h8.trans k8, h9.trans k9,
    Number.Single.agrees_trans h10 k10⟩

/-! ## Alike -/

/-- No difference can be seen: the two agree, or are the same and stand for no number somewhere. -/
def Alike (a b : Attributes) : Prop := a = b ∨ a.agrees b

theorem Alike.refl (a : Attributes) : Alike a a := Or.inl rfl

theorem Alike.symm {a b : Attributes} (h : Alike a b) : Alike b a :=
  h.imp Eq.symm agrees_symm

theorem Alike.trans {a b c : Attributes} (hab : Alike a b) (hbc : Alike b c) : Alike a c := by
  rcases hab with rfl | hab
  · exact hbc
  · rcases hbc with rfl | hbc
    · exact Or.inr hab
    · exact Or.inr (agrees_trans hab hbc)

theorem Alike.foreground {a b : Attributes} (h : Alike a b) : a.foreground = b.foreground := by
  rcases h with rfl | hab
  · rfl
  · rw [agrees_iff] at hab
    exact hab.2.1

theorem Alike.weight {a b : Attributes} (h : Alike a b) : a.font.weight = b.font.weight := by
  rcases h with rfl | hab
  · rfl
  · rw [agrees_iff] at hab
    exact hab.1.2.2.1

theorem alike_iff_agrees {a b : Attributes} (h : a.IsNumeric) : Alike a b ↔ a.agrees b := by
  constructor
  · rintro (rfl | hab)
    · exact agrees_self h
    · exact hab
  · exact Or.inr

/-! ## One byte after the other -/

theorem forall₂_alike_refl (l : List Attributes) : List.Forall₂ Alike l l :=
  List.forall₂_same.mpr fun a _ => Alike.refl a

theorem forall₂_alike_symm {l m : List Attributes} (h : List.Forall₂ Alike l m) :
    List.Forall₂ Alike m l :=
  (h.imp fun _ _ => Alike.symm).flip

theorem forall₂_alike_trans {l m n : List Attributes} (hlm : List.Forall₂ Alike l m)
    (hmn : List.Forall₂ Alike m n) : List.Forall₂ Alike l n := by
  induction hlm generalizing n with
  | nil => exact hmn
  | cons hab _ ih =>
    cases hmn with
    | cons hbc hrest => exact .cons (hab.trans hbc) (ih hrest)

end Attributes

end CodeEditor
