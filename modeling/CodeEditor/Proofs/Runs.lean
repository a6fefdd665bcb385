import CodeEditor.Run
import CodeEditor.Proofs.Boundary
import CodeEditor.Proofs.Look

/-! # Lists of runs

A list of runs is seen in two ways: as the attributes of one byte after the other, and as a cover of a
text by runs that start and stop between characters. Runs that are not empty, and of which no two
neighbours look the same, are determined by the attributes of the bytes.
-/

namespace CodeEditor.Run

/-! ## The attributes of the bytes -/

/-- The attributes of one byte after the other. -/
def styles (runs : List Run) : List Attributes :=
  runs.flatMap fun r => List.replicate r.length r.attributes

@[simp] theorem styles_nil : styles [] = [] := rfl

@[simp] theorem styles_cons (r : Run) (rs : List Run) :
    styles (r :: rs) = List.replicate r.length r.attributes ++ styles rs := rfl

@[simp] theorem styles_append (a b : List Run) : styles (a ++ b) = styles a ++ styles b := by
  simp [styles]

@[simp] theorem length_styles (runs : List Run) : (styles runs).length = total runs := by
  induction runs with
  | nil => rfl
  | cons r rs ih => simp [ih, total]

@[simp] theorem styles_covering (length : Nat) (a : Attributes) :
    styles (covering length a) = List.replicate length a := by
  rw [covering]
  split
  · next h => simp [h]
  · simp

theorem attributesAt?_eq (runs : List Run) (byte : Nat) :
    attributesAt? runs byte = (styles runs)[byte]? := by
  induction runs generalizing byte with
  | nil => rfl
  | cons r rs ih =>
    rw [attributesAt?, styles_cons, List.getElem?_append]
    split
    · next h => simp [h]
    · next h => simp [h, ih]

theorem styles_splitAt (position : Nat) (runs : List Run) :
    styles (splitAt position runs).1 = (styles runs).take position ∧
      styles (splitAt position runs).2 = (styles runs).drop position := by
  induction runs generalizing position with
  | nil => simp [splitAt]
  | cons r rs ih =>
    rw [splitAt]
    split
    · next h => simp [h]
    · split
      · next h => simp [List.take_append, List.drop_append, h.le, show position - r.length = 0 by omega]
      · next h =>
        obtain ⟨h1, h2⟩ := ih (position - r.length)
        have hle : r.length ≤ position := Nat.le_of_not_lt h
        simp [List.take_append, List.drop_append, h1, h2, hle]

theorem styles_map (runs : List Run) (change : Attributes → Attributes) :
    styles (runs.map fun r => { r with attributes := change r.attributes }) =
      (styles runs).map change := by
  induction runs with
  | nil => rfl
  | cons r rs ih => simp [ih]

theorem take_map_drop {α : Type} (l : List α) (change : α → α) {p q : Nat} (h : p ≤ q) :
    l.take p ++ ((l.drop p).take (q - p)).map change ++ l.drop q =
      l.mapIdx fun i a => if p ≤ i ∧ i < q then change a else a := by
  apply List.ext_getElem?
  intro i
  rw [List.getElem?_mapIdx]
  rcases Nat.lt_or_ge i l.length with hi | hi
  · rcases Nat.lt_or_ge i p with h1 | h1
    · rw [List.append_assoc, List.getElem?_append_left (by simp; omega), List.getElem?_take_of_lt h1]
      simp [hi, show ¬ p ≤ i by omega]
    · rcases Nat.lt_or_ge i q with h2 | h2
      · rw [List.getElem?_append_left (by simp; omega), List.getElem?_append_right (by simp; omega)]
        have hp : min p l.length = p := by omega
        simp [hi, h1, h2, hp, show i - p < q - p by omega, show p + (i - p) = i by omega]
      · rw [List.getElem?_append_right (by simp; omega)]
        have hq : min p l.length + min (q - p) (l.length - p) = q := by omega
        simp [hi, hq, show ¬ i < q by omega, show q + (i - q) = i by omega]
  · rw [List.getElem?_eq_none (by simp; omega), List.getElem?_eq_none (by simpa using hi)]
    rfl

theorem styles_update (runs : List Run) {s : Span} (ordered : s.start ≤ s.stop)
    (change : Attributes → Attributes) :
    styles (update runs s change) =
      (styles runs).mapIdx fun byte a => if s.start ≤ byte ∧ byte < s.stop then change a else a := by
  rw [update, ← take_map_drop _ _ ordered]
  simp only [styles_append, styles_map, styles_splitAt, List.drop_drop]
  rw [Nat.add_sub_cancel' ordered]

theorem styles_replace (runs inserted : List Run) {s : Span} (ordered : s.start ≤ s.stop) :
    styles (replace runs s inserted) =
      (styles runs).take s.start ++ styles inserted ++ (styles runs).drop s.stop := by
  rw [replace]
  simp only [styles_append, (styles_splitAt _ _).1, (styles_splitAt _ _).2, List.drop_drop]
  rw [Nat.add_sub_cancel' ordered]

theorem forall₂_replicate_append {α : Type} {R : α → α → Prop} {a b : α} {l m : List α} (n : Nat)
    (h : R a b) (hlm : List.Forall₂ R l m) :
    List.Forall₂ R (List.replicate n a ++ l) (List.replicate n b ++ m) := by
  induction n with
  | zero => exact hlm
  | succ n ih => exact .cons h ih

theorem styles_merge (runs : List Run) :
    List.Forall₂ Attributes.Alike (styles (merge runs)) (styles runs) := by
  induction runs with
  | nil => exact .nil
  | cons r rs ih =>
    have keep := Attributes.Alike.refl r.attributes
    rw [merge]
    split
    · next h =>
      rw [h] at ih
      exact forall₂_replicate_append _ keep ih
    · next next rest h =>
      rw [h] at ih
      split
      · next hagree =>
        -- The bytes of `next` take the attributes of `r`, which look the same.
        have joined : List.Forall₂ Attributes.Alike
            (List.replicate next.length r.attributes ++ styles rest) (styles (next :: rest)) :=
          forall₂_replicate_append _ (Or.inr hagree) (Attributes.forall₂_alike_refl _)
        rw [styles_cons, List.replicate_add, List.append_assoc]
        exact forall₂_replicate_append _ keep (Attributes.forall₂_alike_trans joined ih)
      · exact forall₂_replicate_append _ keep ih

/-! ## Neighbours -/

/-- No two neighbours look the same. -/
def Separated (runs : List Run) : Prop :=
  runs.IsChain fun a b => ¬ a.attributes.agrees b.attributes

theorem separated_merge (runs : List Run) : Separated (merge runs) := by
  induction runs with
  | nil => exact .nil
  | cons r rs ih =>
    rw [merge]
    split
    · exact .singleton _
    · next next rest h =>
      rw [h] at ih
      split
      · next hagree =>
        cases rest with
        | nil => exact .singleton _
        | cons third rest =>
          obtain ⟨hthird, hrest⟩ := List.isChain_cons_cons.mp ih
          refine List.isChain_cons_cons.mpr ⟨fun hsame => hthird ?_, hrest⟩
          exact Attributes.agrees_trans (Attributes.agrees_symm hagree) hsame
      · next hagree => exact List.isChain_cons_cons.mpr ⟨by simpa using hagree, ih⟩

/-! ## Runs over a text -/

/-- The runs lie over the text one after the other, each over one character or more. -/
inductive Covers : List Char → List Run → Prop
  | nil : Covers [] []
  | cons {piece text : List Char} {r : Run} {runs : List Run} (filled : piece ≠ [])
      (length : r.length = Text.byteLength piece) (rest : Covers text runs) :
      Covers (piece ++ text) (r :: runs)

theorem Covers.runs_nil {text : List Char} {runs : List Run} (h : Covers text runs)
    (empty : text = []) : runs = [] := by
  cases h with
  | nil => rfl
  | cons filled length rest => exact absurd (List.append_eq_nil_iff.mp empty).1 filled

theorem Covers.total_eq {text : List Char} {runs : List Run} (h : Covers text runs) :
    total runs = Text.byteLength text := by
  induction h with
  | nil => rfl
  | cons filled length rest ih =>
    rw [Text.byteLength_append, ← length, ← ih]
    simp [total]

theorem Covers.length_pos {text : List Char} {runs : List Run} (h : Covers text runs) :
    ∀ r ∈ runs, 0 < r.length := by
  induction h with
  | nil => simp
  | cons filled length rest ih =>
    refine List.forall_mem_cons.mpr ⟨?_, ih⟩
    rw [length, Nat.pos_iff_ne_zero, ne_eq, Text.byteLength_eq_zero]
    exact filled

theorem Covers.append {a b : List Char} {as bs : List Run} (ha : Covers a as) (hb : Covers b bs) :
    Covers (a ++ b) (as ++ bs) := by
  induction ha with
  | nil => exact hb
  | cons filled length rest ih => rw [List.append_assoc]; exact .cons filled length ih

theorem covers_covering (text : List Char) (a : Attributes) :
    Covers text (covering (Text.byteLength text) a) := by
  rw [covering]
  split
  · next h => rw [(Text.byteLength_eq_zero text).mp h]; exact .nil
  · next h =>
    have filled : text ≠ [] := fun hnil => h ((Text.byteLength_eq_zero text).mpr hnil)
    simpa using Covers.cons (r := ⟨Text.byteLength text, a⟩) filled rfl .nil

theorem Covers.map {text : List Char} {runs : List Run} (h : Covers text runs)
    (change : Attributes → Attributes) :
    Covers text (runs.map fun r => { r with attributes := change r.attributes }) := by
  induction h with
  | nil => exact .nil
  | cons filled length rest ih => exact .cons filled length ih

theorem cut_cases {before after piece text : List Char} (h : before ++ after = piece ++ text) :
    (∃ right, right ≠ [] ∧ piece = before ++ right ∧ after = right ++ text) ∨
      ∃ more, before = piece ++ more ∧ text = more ++ after := by
  rcases List.append_eq_append_iff.mp h with ⟨right, hpiece, hafter⟩ | hmore
  · cases right with
    | nil => right; exact ⟨[], by simpa using hpiece.symm, by simpa using hafter.symm⟩
    | cons c cs => left; exact ⟨c :: cs, by simp, hpiece, hafter⟩
  · right; exact hmore

theorem Covers.splitAt {before after : List Char} {runs : List Run}
    (h : Covers (before ++ after) runs) :
    Covers before (splitAt (Text.byteLength before) runs).1 ∧
      Covers after (splitAt (Text.byteLength before) runs).2 := by
  generalize htext : before ++ after = text at h
  induction h generalizing before with
  | nil =>
    obtain ⟨rfl, rfl⟩ := List.append_eq_nil_iff.mp htext
    exact ⟨.nil, .nil⟩
  | @cons piece text r runs filled length rest ih =>
    by_cases hbefore : before = []
    · subst hbefore
      rw [List.nil_append] at htext
      subst htext
      exact ⟨.nil, .cons filled length rest⟩
    have hpos : Text.byteLength before ≠ 0 := fun h => hbefore ((Text.byteLength_eq_zero _).mp h)
    rw [Run.splitAt, if_neg hpos]
    rcases cut_cases htext with ⟨right, hright, rfl, rfl⟩ | ⟨more, rfl, rfl⟩
    · have hrest : Text.byteLength right ≠ 0 := fun h => hright ((Text.byteLength_eq_zero _).mp h)
      rw [Text.byteLength_append] at length
      rw [if_pos (by omega)]
      refine ⟨?_, .cons hright (by simp; omega) rest⟩
      simpa using Covers.cons (r := ⟨Text.byteLength before, r.attributes⟩) hbefore rfl .nil
    · obtain ⟨h1, h2⟩ := ih rfl
      rw [Text.byteLength_append, ← length, if_neg (by omega), Nat.add_sub_cancel_left]
      exact ⟨.cons filled length h1, h2⟩

theorem Covers.update {before inside after : List Char} {runs : List Run} {s : Span}
    (h : Covers (before ++ inside ++ after) runs) (hstart : Text.byteLength before = s.start)
    (hstop : Text.byteLength (before ++ inside) = s.stop) (change : Attributes → Attributes) :
    Covers (before ++ inside ++ after) (update runs s change) := by
  rw [List.append_assoc] at h
  obtain ⟨h1, h2⟩ := h.splitAt
  obtain ⟨h3, h4⟩ := h2.splitAt
  have hsize : s.stop - s.start = Text.byteLength inside := by
    rw [← hstart, ← hstop, Text.byteLength_append, Nat.add_sub_cancel_left]
  rw [Run.update, hsize, ← hstart]
  exact (h1.append (h3.map change)).append h4

theorem Covers.replace {before inside after text : List Char} {runs inserted : List Run} {s : Span}
    (h : Covers (before ++ inside ++ after) runs) (hstart : Text.byteLength before = s.start)
    (hstop : Text.byteLength (before ++ inside) = s.stop) (hinserted : Covers text inserted) :
    Covers (before ++ text ++ after) (replace runs s inserted) := by
  rw [List.append_assoc] at h
  obtain ⟨h1, h2⟩ := h.splitAt
  obtain ⟨-, h4⟩ := h2.splitAt
  have hsize : s.stop - s.start = Text.byteLength inside := by
    rw [← hstart, ← hstop, Text.byteLength_append, Nat.add_sub_cancel_left]
  rw [Run.replace, hsize, ← hstart]
  exact (h1.append hinserted).append h4

theorem Covers.merge {text : List Char} {runs : List Run} (h : Covers text runs) :
    Covers text (merge runs) := by
  induction h with
  | nil => exact .nil
  | @cons piece text r runs filled length rest ih =>
    rw [Run.merge]
    split
    · next h => rw [h] at ih; exact .cons filled length ih
    · next next others h =>
      rw [h] at ih
      split
      · cases ih with
        | @cons second text _ _ hsecond hlength hrest =>
          rw [← List.append_assoc]
          exact .cons (by simp [filled]) (by simp [length, hlength]) hrest
      · exact .cons filled length ih

/-! ## Canonical runs -/

theorem sameRuns_iff (as bs : List Run) :
    sameRuns as bs ↔
      List.Forall₂ (fun a b => a.length = b.length ∧ a.attributes.agrees b.attributes) as bs := by
  induction as generalizing bs with
  | nil => cases bs <;> simp [sameRuns]
  | cons a as ih => cases bs <;> simp [sameRuns, ih, and_assoc]

theorem sameRuns_symm {as bs : List Run} (h : sameRuns as bs) : sameRuns bs as := by
  rw [sameRuns_iff] at *
  exact (h.imp fun a b hab => ⟨hab.1.symm, Attributes.agrees_symm hab.2⟩).flip

theorem styles_of_sameRuns {as bs : List Run} (h : sameRuns as bs) :
    List.Forall₂ (fun a b => a.agrees b) (styles as) (styles bs) := by
  rw [sameRuns_iff] at h
  induction h with
  | nil => exact .nil
  | cons hab _ ih =>
    rw [styles_cons, styles_cons, hab.1]
    exact forall₂_replicate_append _ hab.2 ih

/-- A run that looks like the first `n` bytes of another list is not shorter than they are: the run
after it would look like them, too. -/
theorem length_le_of_agrees {r : Run} {rs : List Run} {a : Attributes} {n : Nat}
    {others : List Attributes} (hpos : ∀ x ∈ r :: rs, 0 < x.length) (hsep : Separated (r :: rs))
    (hsame : r.attributes.agrees a)
    (h : List.Forall₂ (fun a b => a.agrees b) (styles (r :: rs)) (List.replicate n a ++ others)) :
    n ≤ r.length := by
  by_contra hlt
  have hrest := List.forall₂_drop r.length h
  obtain ⟨more, hmore⟩ : ∃ more, n = r.length + (more + 1) := ⟨n - r.length - 1, by omega⟩
  rw [hmore, List.replicate_add, List.append_assoc, styles_cons, List.drop_left' (by simp),
    List.drop_left' (by simp)] at hrest
  cases rs with
  | nil => cases hrest
  | cons second rs =>
    have hsecond : 0 < second.length := hpos second (by simp)
    obtain ⟨length, hlength⟩ : ∃ length, second.length = length + 1 := ⟨second.length - 1, by omega⟩
    rw [styles_cons, hlength] at hrest
    cases hrest with
    | cons hnext _ =>
      exact (List.isChain_cons_cons.mp hsep).1
        (Attributes.agrees_trans hsame (Attributes.agrees_symm hnext))

/-- Runs that are not empty, no two neighbours of which look the same, are determined by how their bytes
look. -/
theorem sameRuns_of_styles {as bs : List Run} (hpa : ∀ r ∈ as, 0 < r.length)
    (hpb : ∀ r ∈ bs, 0 < r.length) (hsa : Separated as) (hsb : Separated bs)
    (h : List.Forall₂ (fun a b => a.agrees b) (styles as) (styles bs)) : sameRuns as bs := by
  induction as generalizing bs with
  | nil =>
    cases bs with
    | nil => rfl
    | cons b bs =>
      have := hpb b List.mem_cons_self
      have := h.length_eq
      simp at this
      omega
  | cons a as ih =>
    have ha : 0 < a.length := hpa a List.mem_cons_self
    cases bs with
    | nil =>
      have := h.length_eq
      simp at this
      omega
    | cons b bs =>
      have hb : 0 < b.length := hpb b List.mem_cons_self
      have hflip : List.Forall₂ (fun a b => a.agrees b) (styles (b :: bs)) (styles (a :: as)) :=
        (h.imp fun _ _ => Attributes.agrees_symm).flip
      have hsame : a.attributes.agrees b.attributes := by
        obtain ⟨n, hn⟩ : ∃ n, a.length = n + 1 := ⟨a.length - 1, by omega⟩
        obtain ⟨m, hm⟩ : ∃ m, b.length = m + 1 := ⟨b.length - 1, by omega⟩
        rw [styles_cons, styles_cons, hn, hm] at h
        cases h with
        | cons hfirst _ => exact hfirst
      have hlength : a.length = b.length :=
        le_antisymm (length_le_of_agrees hpb hsb (Attributes.agrees_symm hsame) hflip)
          (length_le_of_agrees hpa hsa hsame h)
      have hrest := List.forall₂_drop a.length h
      rw [styles_cons, styles_cons, List.drop_left' (by simp), List.drop_left' (by simp [hlength])]
        at hrest
      rw [sameRuns, ih (fun r hr => hpa r (List.mem_cons_of_mem _ hr))
        (fun r hr => hpb r (List.mem_cons_of_mem _ hr)) hsa.of_cons hsb.of_cons hrest]
      simp [hlength, hsame]

end CodeEditor.Run
