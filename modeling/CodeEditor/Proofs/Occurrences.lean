import CodeEditor.Occurrences
import CodeEditor.Proofs.Boundary
import Mathlib.Data.List.Forall2

/-! # Where a marker is taken

A marker may stand at places that overlap. A scan from the left takes the first of them, goes on from
its end, and so on. Here: the scan by characters, and that the bytes found are those of the places it
takes.
-/

namespace CodeEditor.Occurrences

variable {mode : CaseMode} {marker text found rest : List Char} {ts us : List Nat}

/-! ## One place -/

/-- Characters that stand for the marker, one for each of its own. -/
def Spells (mode : CaseMode) (marker found : List Char) : Prop :=
  List.Forall₂ (fun c m => mode.same c m = true) found marker

/-- The marker stands in the text from the character `start` on. -/
def OccursAt (mode : CaseMode) (marker text : List Char) (start : Nat) : Prop :=
  ∃ before found after, text = before ++ found ++ after ∧ before.length = start ∧
    Spells mode marker found

theorem prefixOf?_of_spells (h : Spells mode marker found) (rest : List Char) :
    prefixOf? mode marker (found ++ rest) = some found := by
  induction h with
  | nil => rfl
  | cons same _ ih =>
    rw [List.cons_append, prefixOf?, if_pos same, ih]
    rfl

theorem spells_of_prefixOf? (h : prefixOf? mode marker text = some found) :
    Spells mode marker found ∧ ∃ rest, text = found ++ rest := by
  induction marker generalizing text found with
  | nil =>
    rw [prefixOf?] at h
    cases h
    exact ⟨.nil, text, rfl⟩
  | cons m ms ih =>
    cases text with
    | nil => cases h
    | cons c cs =>
      rw [prefixOf?] at h
      split at h
      · next same =>
        obtain ⟨more, hmore, rfl⟩ := Option.map_eq_some_iff.mp h
        obtain ⟨hspells, rest, rfl⟩ := ih hmore
        exact ⟨.cons same hspells, rest, rfl⟩
      · cases h

theorem prefixOf?_eq_none_iff :
    prefixOf? mode marker text = none ↔ ¬ ∃ found rest, text = found ++ rest ∧ Spells mode marker found := by
  constructor
  · rintro h ⟨found, rest, rfl, hspells⟩
    rw [prefixOf?_of_spells hspells] at h
    cases h
  · intro h
    rw [Option.eq_none_iff_forall_ne_some]
    intro found hfound
    obtain ⟨hspells, rest, htext⟩ := spells_of_prefixOf? hfound
    exact h ⟨found, rest, htext, hspells⟩

/-! ## The scan -/

/-- The places at which a scan from the left takes the marker, each counted from the start of the
text: it takes a place where the marker stands and goes on from its end, and otherwise goes on by one
character. -/
inductive Taken (mode : CaseMode) (marker : List Char) : List Char → List Nat → Prop
  | done : Taken mode marker [] []
  | skip {c : Char} {rest : List Char} {ts : List Nat}
      (absent : ¬ ∃ found after, c :: rest = found ++ after ∧ Spells mode marker found)
      (later : Taken mode marker rest ts) : Taken mode marker (c :: rest) (ts.map (· + 1))
  | take {found rest : List Char} {ts : List Nat} (spells : Spells mode marker found)
      (later : Taken mode marker rest ts) :
      Taken mode marker (found ++ rest) (0 :: ts.map (· + marker.length))

theorem Spells.length_eq (h : Spells mode marker found) : found.length = marker.length :=
  List.Forall₂.length_eq h

/-- A marker that has characters is taken at the same places by every scan. -/
theorem Taken.unique (some : marker ≠ []) (h : Taken mode marker text ts)
    (h' : Taken mode marker text us) : ts = us := by
  have hpos := List.length_pos_of_ne_nil some
  induction h generalizing us with
  | done =>
    generalize htext : ([] : List Char) = text at h'
    cases h' with
    | done => rfl
    | skip => cases htext
    | @take found rest ts spells later =>
      have := spells.length_eq
      have := congrArg List.length htext
      simp only [List.length_nil, List.length_append] at this
      omega
  | @skip c rest ts absent later ih =>
    generalize htext : c :: rest = text at h'
    cases h' with
    | done => cases htext
    | skip _ later' =>
      obtain ⟨rfl, rfl⟩ := List.cons.inj htext
      rw [ih later']
    | @take found rest' ts' spells later' => exact absurd ⟨found, rest', htext, spells⟩ absent
  | @take found rest ts spells later ih =>
    have hlength := spells.length_eq
    generalize htext : found ++ rest = text at h'
    cases h' with
    | done =>
      have := congrArg List.length htext
      simp only [List.length_nil, List.length_append] at this
      omega
    | @skip c rest' ts' absent later' => exact absurd ⟨found, rest, htext.symm, spells⟩ absent
    | @take found' rest' ts' spells' later' =>
      have hlength' := spells'.length_eq
      obtain ⟨rfl, rfl⟩ := List.append_inj htext (hlength.trans hlength'.symm)
      rw [ih later']

/-! ## The scan by bytes -/

theorem scan_covered (mode : CaseMode) (marker : List Char) (covered position : Nat)
    (text : List Char) :
    scan mode marker covered position text =
      scan mode marker 0 (position + Text.byteLength (text.take covered)) (text.drop covered) := by
  induction text generalizing covered position with
  | nil => simp [scan]
  | cons c cs ih =>
    cases covered with
    | zero => rfl
    | succ covered =>
      rw [scan, ih, List.take_succ_cons, List.drop_succ_cons, Text.byteLength_cons, Nat.add_assoc]

theorem scan_of_spells (some : marker ≠ []) (h : Spells mode marker found) (position : Nat)
    (rest : List Char) :
    scan mode marker 0 position (found ++ rest) =
      ⟨position, position + Text.byteLength found⟩ ::
        scan mode marker 0 (position + Text.byteLength found) rest := by
  have hprefix := prefixOf?_of_spells h rest
  cases found with
  | nil => exact absurd (List.eq_nil_of_length_eq_zero h.length_eq.symm) some
  | cons c cs =>
    rw [List.cons_append] at hprefix ⊢
    rw [scan, hprefix]
    simp only [List.length_cons, Nat.add_sub_cancel, Text.byteLength_cons]
    rw [scan_covered, List.take_left, List.drop_left, Nat.add_assoc]

theorem scan_of_absent {c : Char} {rest : List Char}
    (h : ¬ ∃ found after, c :: rest = found ++ after ∧ Spells mode marker found) (position : Nat) :
    scan mode marker 0 position (c :: rest) = scan mode marker 0 (position + c.utf8Size) rest := by
  rw [scan, prefixOf?_eq_none_iff.mpr h]

theorem scan_of_taken (some : marker ≠ []) (h : Taken mode marker text ts) (position : Nat) :
    scan mode marker 0 position text = ts.map fun t =>
      ⟨position + Text.byteOffset text t, position + Text.byteOffset text (t + marker.length)⟩ := by
  induction h generalizing position with
  | done => rfl
  | @skip c rest ts absent later ih =>
    have hone : ∀ t, Text.byteOffset (c :: rest) (t + 1) = c.utf8Size + Text.byteOffset rest t := by
      intro t
      rw [Text.byteOffset, List.take_succ_cons, Text.byteLength_cons]
      rfl
    rw [scan_of_absent absent, ih, List.map_map]
    apply List.map_congr_left
    intro t _
    simp only [Function.comp_apply]
    rw [Nat.add_right_comm t 1, hone, hone, Nat.add_assoc, Nat.add_assoc]
  | @take found rest ts spells later ih =>
    have hshift : ∀ t, Text.byteOffset (found ++ rest) (t + marker.length) =
        Text.byteLength found + Text.byteOffset rest t := by
      intro t
      rw [← spells.length_eq, Nat.add_comm, Text.byteOffset_append_add]
    have hfirst := hshift 0
    rw [Nat.zero_add, show Text.byteOffset rest 0 = 0 from rfl, Nat.add_zero] at hfirst
    rw [scan_of_spells some spells, ih, List.map_cons, List.map_map, Nat.zero_add, hfirst]
    congr 1
    apply List.map_congr_left
    intro t _
    simp only [Function.comp_apply, hshift, Nat.add_assoc]

theorem exists_taken (some : marker ≠ []) (text : List Char) : ∃ ts, Taken mode marker text ts := by
  induction hlength : text.length using Nat.strong_induction_on generalizing text with
  | _ n ih =>
    cases text with
    | nil => exact ⟨[], .done⟩
    | cons c rest =>
      by_cases here : ∃ found after, c :: rest = found ++ after ∧ Spells mode marker found
      · obtain ⟨found, after, htext, hspells⟩ := here
        have hpos := List.length_pos_of_ne_nil some
        have hfound := hspells.length_eq
        have hless : after.length < n := by
          rw [← hlength, htext, List.length_append]
          omega
        obtain ⟨ts, hts⟩ := ih after.length hless after rfl
        rw [htext]
        exact ⟨_, .take hspells hts⟩
      · obtain ⟨ts, hts⟩ := ih rest.length (by rw [← hlength]; exact Nat.lt_succ_self _) rest rfl
        exact ⟨_, .skip here hts⟩

/-- What is found are the bytes of the places that the scan takes. -/
theorem find_of_taken (some : marker ≠ []) (h : Taken mode marker text ts) :
    find mode marker text = ts.map fun t => Text.bytesOf text ⟨t, t + marker.length⟩ := by
  rw [find, if_neg (by simpa using some), scan_of_taken some h]
  simp only [Text.bytesOf, Nat.zero_add]

theorem Taken.inside (h : Taken mode marker text ts) : ∀ t ∈ ts, t + marker.length ≤ text.length := by
  induction h with
  | done => exact List.forall_mem_nil _
  | skip _ _ ih =>
    rw [List.forall_mem_map]
    intro t ht
    have := ih t ht
    rw [List.length_cons]
    omega
  | take spells _ ih =>
    have hlength := spells.length_eq
    rw [List.length_append, List.forall_mem_cons, List.forall_mem_map]
    refine ⟨by omega, ?_⟩
    intro t ht
    have := ih t ht
    omega

end CodeEditor.Occurrences
