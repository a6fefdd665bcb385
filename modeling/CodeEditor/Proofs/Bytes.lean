import CodeEditor.Proofs.StyledText

/-! # The bytes of a styled text

Each operation does to the bytes what it says: a replacement moves the bytes after it, a batch gives
each byte the changes that reach it. The runs are determined by the bytes.
-/

namespace CodeEditor

/-! ## Changes that reach a byte -/

namespace Restyle

/-- The change reaches a byte of a text. -/
def touches (text : List Char) (byte : Nat) (r : Restyle) : Bool :=
  decide ((Text.snap text r.span).start ≤ byte ∧ byte < (Text.snap text r.span).stop)

/-- The changes that reach a byte, one after the other. -/
def onByte (text : List Char) (changes : List Restyle) (byte : Nat) (a : Attributes) : Attributes :=
  (changes.filter (touches text byte)).foldl (fun a r => r.change a) a

theorem onByte_cons (text : List Char) (r : Restyle) (rs : List Restyle) (byte : Nat)
    (a : Attributes) :
    onByte text (r :: rs) byte a =
      onByte text rs byte (if r.touches text byte then r.change a else a) := by
  rw [onByte, List.filter_cons]
  split <;> rfl

end Restyle

namespace StyledText

theorem styles_restyleRuns (text : List Char) (runs : List Run) (r : Restyle) :
    Run.styles (restyleRuns text runs r) =
      (Run.styles runs).mapIdx fun byte a => if r.touches text byte then r.change a else a := by
  rw [restyleRuns]
  split
  · next hempty =>
    -- No byte lies in an empty span.
    rw [Span.isEmpty, decide_eq_true_iff] at hempty
    refine (List.mapIdx_eq_iff.mpr fun byte => ?_).symm
    have : r.touches text byte = false := by rw [Restyle.touches, decide_eq_false_iff_not]; omega
    simp [this]
  · rw [Run.styles_update _ (Text.snap_ordered text r.span)]
    simp [Restyle.touches]

theorem styles_foldl_restyleRuns (text : List Char) (changes : List Restyle) (runs : List Run) :
    Run.styles (changes.foldl (restyleRuns text) runs) =
      (Run.styles runs).mapIdx (Restyle.onByte text changes) := by
  induction changes generalizing runs with
  | nil =>
    refine (List.mapIdx_eq_iff.mpr fun byte => ?_).symm
    rw [show Restyle.onByte text [] byte = id from rfl, Option.map_id, id, List.foldl_nil]
  | cons r rs ih =>
    rw [List.foldl_cons, ih, styles_restyleRuns, List.mapIdx_mapIdx]
    congr 1
    funext byte a
    exact (Restyle.onByte_cons text r rs byte a).symm

theorem styles_restyle (t : StyledText) (changes : List Restyle) :
    List.Forall₂ Attributes.Alike (Run.styles (t.restyle changes).runs)
      ((Run.styles t.runs).mapIdx (Restyle.onByte t.text changes)) := by
  rw [← styles_foldl_restyleRuns]
  have hmerge := Run.styles_merge (t.restyledRuns changes)
  rw [restyle_eq]
  split
  · next hsame =>
    have hold := Run.styles_of_sameRuns (Run.sameRuns_symm hsame)
    exact Attributes.forall₂_alike_trans (hold.imp fun _ _ => Or.inr) hmerge
  · exact hmerge

theorem styles_replace (t : StyledText) (s : Span) (text : List Char) (a : Attributes) :
    List.Forall₂ Attributes.Alike (Run.styles (t.replace s text a).runs)
      ((Run.styles t.runs).take (Text.snap t.text s).start ++
        List.replicate (Text.byteLength text) a ++
        (Run.styles t.runs).drop (Text.snap t.text s).stop) := by
  have ordered := Text.snap_ordered t.text s
  rw [replace]
  split
  · next hnone =>
    rw [Bool.and_eq_true, Span.isEmpty, decide_eq_true_iff, List.isEmpty_iff] at hnone
    obtain ⟨hspan, rfl⟩ := hnone
    rw [show (Text.snap t.text s).stop = (Text.snap t.text s).start by omega]
    simpa using Attributes.forall₂_alike_refl (Run.styles t.runs)
  · rw [← Run.styles_covering, ← Run.styles_replace _ _ ordered]
    exact Run.styles_merge _

/-! ## One byte -/

theorem attributesAt?_eq (t : StyledText) (byte : Nat) :
    t.attributesAt? byte = (Run.styles t.runs)[byte]? := Run.attributesAt?_eq t.runs byte

/-- Neither of two bytes is there, or they look the same. -/
def SameLook (a b : Option Attributes) : Prop := Option.Rel Attributes.Alike a b

theorem rel_getElem? {R : Attributes → Attributes → Prop} {l m : List Attributes}
    (h : List.Forall₂ R l m) (byte : Nat) : Option.Rel R l[byte]? m[byte]? := by
  induction h generalizing byte with
  | nil => exact .none
  | cons hab _ ih =>
    cases byte with
    | zero => exact .some hab
    | succ byte => exact ih byte

theorem sameLook_getElem? {l m : List Attributes} (h : List.Forall₂ Attributes.Alike l m)
    (byte : Nat) : SameLook l[byte]? m[byte]? := rel_getElem? h byte

theorem forall₂_of_getElem? {R : Attributes → Attributes → Prop} {l m : List Attributes}
    (h : ∀ byte : Nat, Option.Rel R l[byte]? m[byte]?) : List.Forall₂ R l m := by
  induction l generalizing m with
  | nil =>
    cases m with
    | nil => exact .nil
    | cons b m => cases h 0
  | cons a l ih =>
    cases m with
    | nil => cases h 0
    | cons b m =>
      cases h 0 with
      | some hab => exact .cons hab (ih fun byte => h (byte + 1))

/-! ## What the operations do -/

/-- After a replacement over the whole characters of a span. -/
structure Replaced (t : StyledText) (s : Span) (text : List Char) (a : Attributes)
    (t' : StyledText) : Prop where
  /-- The text stands between what was before the span and what was after it. -/
  cut : ∃ before inside after, t.text = before ++ inside ++ after ∧
    Text.byteLength before = s.start ∧ Text.byteLength (before ++ inside) = s.stop ∧
    t'.text = before ++ text ++ after
  before : ∀ byte < s.start, SameLook (t'.attributesAt? byte) (t.attributesAt? byte)
  inserted : ∀ byte < Text.byteLength text, SameLook (t'.attributesAt? (s.start + byte)) (some a)
  after : ∀ byte, SameLook (t'.attributesAt? (s.start + Text.byteLength text + byte))
    (t.attributesAt? (s.stop + byte))
  unchanged : s.start = s.stop → text = [] → t' = t

theorem replaced_replace {t : StyledText} (h : t.Sound) (s : Span) (text : List Char)
    (a : Attributes) : t.Replaced (Text.snap t.text s) text a (t.replace s text a) := by
  obtain ⟨before, inside, after, htext, hstart, hstop⟩ := Text.exists_pieces_snap t.text s
  have hlook := sameLook_getElem? (styles_replace t s text a)
  have htotal := h.covers.total_eq
  have hlength := Run.length_styles t.runs
  have hfits : (Text.snap t.text s).start ≤ Text.byteLength t.text :=
    (Text.isBoundary_snap_start t.text s).le_byteLength
  simp only [← attributesAt?_eq] at hlook
  refine ⟨⟨before, inside, after, htext, hstart, hstop, ?_⟩, ?_, ?_, ?_, ?_⟩
  · rw [replace_eq htext hstart hstop]
    split
    · next hnone => rw [htext, hnone.1, hnone.2]
    · rfl
  · intro byte hbyte
    have := hlook byte
    rwa [List.append_assoc, List.getElem?_append_left (by simp; omega),
      List.getElem?_take_of_lt hbyte, ← attributesAt?_eq] at this
  · intro byte hbyte
    have := hlook ((Text.snap t.text s).start + byte)
    rwa [List.append_assoc, List.getElem?_append_right (by simp), List.length_take,
      show (Text.snap t.text s).start + byte -
        min (Text.snap t.text s).start (Run.styles t.runs).length = byte by omega,
      List.getElem?_append_left (by simpa using hbyte),
      List.getElem?_replicate_of_lt hbyte] at this
  · intro byte
    have := hlook ((Text.snap t.text s).start + Text.byteLength text + byte)
    rwa [List.getElem?_append_right (by simp; omega), List.length_append, List.length_take,
      List.length_replicate,
      show (Text.snap t.text s).start + Text.byteLength text + byte -
        (min (Text.snap t.text s).start (Run.styles t.runs).length + Text.byteLength text) = byte
        by omega, List.getElem?_drop, ← attributesAt?_eq] at this
  · rintro hspan rfl
    rw [replace, Span.isEmpty, hspan]
    simp

/-- After a batch of changes. -/
structure Restyled (t : StyledText) (changes : List Restyle) (t' : StyledText) : Prop where
  text : t'.text = t.text
  /-- Each byte has undergone exactly the changes that reach it, in order. -/
  bytes : ∀ byte, SameLook (t'.attributesAt? byte)
    ((t.attributesAt? byte).map (Restyle.onByte t.text changes byte))

theorem restyled_batch (t : StyledText) (changes : List Restyle) (committed : Bool) :
    t.Restyled changes (t.batch changes committed) := by
  rw [batch_eq_restyle]
  refine ⟨text_restyle t changes, fun byte => ?_⟩
  have := sameLook_getElem? (styles_restyle t changes) byte
  rwa [List.getElem?_mapIdx, ← attributesAt?_eq, ← attributesAt?_eq] at this

/-- Each operation on a text does to its bytes what it says. -/
structure Bytewise (t : StyledText) : Prop where
  setText : ∀ text a, (t.setText text a).text = text ∧
    ∀ byte < Text.byteLength text, (t.setText text a).attributesAt? byte = some a
  widens : ∀ s, Text.Widens t.text s (Text.snap t.text s)
  replace : ∀ s text a, t.Replaced (Text.snap t.text s) text a (t.replace s text a)
  batch : ∀ changes committed, t.Restyled changes (t.batch changes committed)

theorem bytewise_of_sound {t : StyledText} (h : t.Sound) : t.Bytewise where
  setText text a := by
    refine ⟨rfl, fun byte hbyte => ?_⟩
    rw [attributesAt?_eq]
    simp only [StyledText.setText, plain, Run.styles_covering]
    exact List.getElem?_replicate_of_lt hbyte
  widens := Text.widens_snap t.text
  replace := replaced_replace h
  batch := restyled_batch t

theorem sameRuns_of_bytes {t u : StyledText} (ht : t.Sound) (hu : u.Sound)
    (h : ∀ byte, Option.Rel (fun a b => a.agrees b) (t.attributesAt? byte) (u.attributesAt? byte)) :
    Run.sameRuns t.runs u.runs := by
  simp only [attributesAt?_eq] at h
  exact Run.sameRuns_of_styles ht.covers.length_pos hu.covers.length_pos ht.separated hu.separated
    (forall₂_of_getElem? h)

/-- Whatever has been done to a text, the next operation does to each byte what it says, and other
operations that end with the same look of the same bytes end with the same runs. -/
theorem operations_act_bytewise (text : List Char) (a : Attributes) (operations : List Operation) :
    let t := (plain text a).applyAll operations
    t.Bytewise ∧ ∀ text' a' operations', let u := (plain text' a').applyAll operations'
      t.text = u.text →
      (∀ byte < t.byteLength,
        Option.Rel (fun a b => a.agrees b) (t.attributesAt? byte) (u.attributesAt? byte)) →
      Run.sameRuns t.runs u.runs := by
  have ht := sound_applyAll (sound_plain text a) operations
  refine ⟨bytewise_of_sound ht, fun text' a' operations' htext hbytes => ?_⟩
  have hu := sound_applyAll (sound_plain text' a') operations'
  refine sameRuns_of_bytes ht hu fun byte => ?_
  rcases Nat.lt_or_ge byte ((plain text a).applyAll operations).byteLength with hbyte | hbyte
  · exact hbytes byte hbyte
  · -- Past the end neither text has a byte.
    have absent : ∀ t : StyledText, t.Sound → t.byteLength ≤ byte → t.attributesAt? byte = none :=
      fun t h hle => by
        rw [attributesAt?_eq, List.getElem?_eq_none]
        rwa [Run.length_styles, h.covers.total_eq]
    rw [absent _ ht hbyte, absent _ hu (by rw [byteLength, ← htext]; exact hbyte)]
    exact .none

-- A span inside a character is widened over it; a batch reaches as far as the text.
example :
    let red := Attributes.standard.withForeground (.rgb 255 0 0)
    ((plain ['a', '≠', 'b'] .standard).applyAll [.replace ⟨2, 3⟩ ['c', 'd'] red]).runs =
      ((plain ['a', 'c', 'd', 'b'] .standard).applyAll
        [.batch [.attributes ⟨1, 9⟩ red, .attributes ⟨3, 4⟩ .standard] false]).runs := by
  decide

end StyledText

end CodeEditor
