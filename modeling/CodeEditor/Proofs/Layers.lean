import CodeEditor.Proofs.Cache
import CodeEditor.Proofs.Painting
import Mathlib.Algebra.GroupWithZero.Nat

/-! # Layers of color

Each rule of a grammar lays its color over the matches of its pattern. After a pass a byte has the color
of the last rule that reaches it, on the base attributes; what it had before is gone. Rules that lay
nothing over the text might as well not be there.
-/

namespace CodeEditor

/-! ## What a rule paints -/

namespace Rule

variable [Engine]

/-- The color of a rule and its matches in a text; none when the rule is a placeholder, is no pattern, or
has a scope without a color. -/
def layer? (colors : ColorMap) (text : List Char) (r : Rule) : Option (Color × List Span) :=
  if r.isPlaceholder then none
  else
    match r.compile with
    | .error _ => none
    | .ok p => (colors.find? r.scope).map fun color => (color, Engine.matchesIn p text)

/-- The scope and the pattern of a rule, unless it is a placeholder or no pattern. -/
def pattern? (r : Rule) : Option (String × Engine.Pattern) :=
  if r.isPlaceholder then none else r.compile.toOption.map (r.scope, ·)

/-- The color in which a rule paints a byte of a text. -/
def paint? (colors : ColorMap) (text : List Char) (byte : Nat) (r : Rule) : Option Color :=
  match r.layer? colors text with
  | none => none
  | some (color, spans) =>
    if spans.any fun s => s.start ≤ byte && byte < s.stop then some color else none

/-- The rule is a pattern, but its scope has no color. -/
def isUnmapped (colors : ColorMap) (r : Rule) : Bool :=
  !r.isPlaceholder && r.compile.toBool && !colors.contains r.scope

def strokes (layer : Color × List Span) : List Restyle :=
  layer.2.map fun s => .foreground s layer.1

end Rule

/-- The color of a byte of a text: that of the last rule which paints it. -/
def Grammar.paint? [Engine] (g : Grammar) (colors : ColorMap) (text : List Char) (byte : Nat) :
    Option Color :=
  (g.rules.filterMap (Rule.paint? colors text byte)).getLast?

/-! ## Strokes over a byte -/

namespace Restyle

theorem onByte_append (text : List Char) (as bs : List Restyle) (byte : Nat) (a : Attributes) :
    onByte text (as ++ bs) byte a = onByte text bs byte (onByte text as byte a) := by
  simp [onByte]

theorem touches_of_whole {text : List Char} {s : Span} (h : Text.IsWhole text s) (byte : Nat)
    (change : Attributes → Attributes) :
    touches text byte ⟨s, change⟩ = (s.start ≤ byte && byte < s.stop) := by
  have hsnap : Text.snap text s = s := Text.snap_eq_self h.start h.stop h.nonempty.le
  simp only [touches, hsnap, Bool.decide_and]

theorem onByte_spans {text : List Char} {spans : List Span} {change : Attributes → Attributes}
    (whole : ∀ s ∈ spans, Text.IsWhole text s) (settles : ∀ a, change (change a) = change a)
    (byte : Nat) (a : Attributes) :
    onByte text (spans.map fun s => ⟨s, change⟩) byte a =
      if spans.any fun s => s.start ≤ byte && byte < s.stop then change a else a := by
  induction spans generalizing a with
  | nil => rfl
  | cons s spans ih =>
    obtain ⟨hs, hspans⟩ := List.forall_mem_cons.mp whole
    rw [List.map_cons, onByte_cons, ih hspans, touches_of_whole hs, List.any_cons]
    cases hreach : (decide (s.start ≤ byte) && decide (byte < s.stop)) with
    | false => rfl
    | true => simp only [if_true, Bool.true_or, settles, ite_self]

end Restyle

namespace Attributes

@[simp] theorem withForeground_withForeground (a : Attributes) (c d : Color) :
    (a.withForeground c).withForeground d = a.withForeground d := rfl

@[simp] theorem withForeground_foreground (a : Attributes) : a.withForeground a.foreground = a := rfl

end Attributes

namespace Highlight

variable {text : List Char} {colors : ColorMap}

theorem onByte_strokes {layer : Color × List Span} (whole : ∀ s ∈ layer.2, Text.IsWhole text s)
    (byte : Nat) (a : Attributes) :
    Restyle.onByte text (Rule.strokes layer) byte a =
      if layer.2.any fun s => s.start ≤ byte && byte < s.stop then a.withForeground layer.1 else a := by
  apply Restyle.onByte_spans whole
  intro a
  exact a.withForeground_withForeground layer.1 layer.1

variable [Engine]

theorem whole_layer {r : Rule} {layer : Color × List Span} (h : r.layer? colors text = some layer) :
    ∀ s ∈ layer.2, Text.IsWhole text s := by
  unfold Rule.layer? at h
  split at h
  · cases h
  · split at h
    · cases h
    · next p hp =>
      obtain ⟨color, -, rfl⟩ := Option.map_eq_some_iff.mp h
      exact Engine.whole p text

/-- The strokes of some rules give a byte the color of the last of them that paints it. -/
theorem onByte_rules (rules : List Rule) (byte : Nat) (a : Attributes) :
    Restyle.onByte text ((rules.filterMap (Rule.layer? colors text)).flatMap Rule.strokes) byte a =
      a.withForeground
        (((rules.filterMap (Rule.paint? colors text byte)).getLast?).getD a.foreground) := by
  induction rules generalizing a with
  | nil => rfl
  | cons r rules ih =>
    cases hlayer : r.layer? colors text with
    | none =>
      have hpaint : r.paint? colors text byte = none := by rw [Rule.paint?, hlayer]
      rw [List.filterMap_cons_none hlayer, List.filterMap_cons_none hpaint]
      exact ih a
    | some layer =>
      rw [List.filterMap_cons_some hlayer, List.flatMap_cons, Restyle.onByte_append,
        onByte_strokes (whole_layer hlayer)]
      cases hreach : layer.2.any fun s => s.start ≤ byte && byte < s.stop with
      | false =>
        have hpaint : r.paint? colors text byte = none := by simp [Rule.paint?, hlayer, hreach]
        rw [List.filterMap_cons_none hpaint]
        exact ih a
      | true =>
        have hpaint : r.paint? colors text byte = some layer.1 := by
          simp [Rule.paint?, hlayer, hreach]
        rw [List.filterMap_cons_some hpaint, List.getLast?_cons, if_pos rfl]
        exact ih (a.withForeground layer.1)

/-! ## The rules of a pass -/

theorem patterns_compile (g : Grammar) :
    (compile g).patterns = g.rules.filterMap Rule.pattern? := by
  simp only [compile, List.filterMap_filter]
  congr 1
  funext r
  unfold Rule.pattern?
  cases r.isPlaceholder <;> rfl

theorem found_compile (g : Grammar) :
    ((compile g).patterns.map (paints colors text)).filterMap id =
      (g.rules.filterMap (Rule.layer? colors text)).map Rule.strokes := by
  rw [patterns_compile, List.filterMap_map, List.filterMap_filterMap, List.map_filterMap]
  congr 1
  funext r
  unfold Rule.pattern? Rule.layer?
  cases r.isPlaceholder with
  | true => rfl
  | false =>
    cases r.compile with
    | error e => rfl
    | ok p => cases hcolor : colors.find? r.scope <;> simp [Except.toOption, paints, hcolor, Rule.strokes]

theorem strokes_compile (g : Grammar) (base : Attributes) :
    strokes (compile g) text colors base =
      .attributes ⟨0, Text.byteLength text⟩ base ::
        (g.rules.filterMap (Rule.layer? colors text)).flatMap Rule.strokes := by
  rw [strokes, found_compile, List.flatMap_def]

theorem skipped_compile (g : Grammar) :
    ((compile g).patterns.map (paints colors text)).countP Option.isNone =
      g.rules.countP (Rule.isUnmapped colors) := by
  rw [patterns_compile, List.countP_map, List.countP_filterMap]
  congr 1
  funext r
  unfold Rule.pattern? Rule.isUnmapped Dictionary.contains
  cases r.isPlaceholder with
  | true => rfl
  | false => cases r.compile <;> simp [Except.toOption, Except.toBool, paints]

theorem bytes_once {t : StyledText} (h : t.Sound) (g : Grammar) (colors : ColorMap)
    (base : Attributes) {byte : Nat} (inside : byte < t.byteLength) :
    ∃ shown, (once t g colors base).1.attributesAt? byte = some shown ∧
      shown.Alike (base.withForeground ((g.paint? colors t.text byte).getD base.foreground)) := by
  obtain ⟨a, ha⟩ := Option.isSome_iff_exists.mp ((StyledText.isSome_attributesAt? h byte).mpr inside)
  have hwhole : Text.snap t.text ⟨0, Text.byteLength t.text⟩ = ⟨0, Text.byteLength t.text⟩ :=
    Text.snap_eq_self (Text.isBoundary_zero _) (Text.isBoundary_byteLength _) (Nat.zero_le _)
  have hreset : Restyle.onByte t.text (strokes (compile g) t.text colors base) byte a =
      base.withForeground ((g.paint? colors t.text byte).getD base.foreground) := by
    have htouch :
        (Restyle.attributes ⟨0, Text.byteLength t.text⟩ base).touches t.text byte = true := by
      simp only [Restyle.touches, Restyle.attributes, hwhole, decide_eq_true_iff]
      exact ⟨Nat.zero_le _, inside⟩
    rw [strokes_compile, Restyle.onByte_cons, if_pos htouch]
    exact onByte_rules g.rules byte base
  have hlook := (StyledText.restyled_batch t (strokes (compile g) t.text colors base) true).bytes byte
  rw [StyledText.batch_eq_restyle, ha, Option.map_some, hreset] at hlook
  rw [once, pass_eq]
  cases hshown : (t.restyle (strokes (compile g) t.text colors base)).attributesAt? byte with
  | none =>
    rw [hshown] at hlook
    cases hlook
  | some shown =>
    rw [hshown] at hlook
    cases hlook with
    | some halike => exact ⟨shown, rfl, halike⟩

end Highlight

end CodeEditor
