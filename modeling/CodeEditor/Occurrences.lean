import CodeEditor.Text.Case
import CodeEditor.StyledText

/-! # Occurrences of a marker in a text -/

namespace CodeEditor

/-- Whether upper and lower case are told apart. -/
inductive CaseMode where
  | sensitive
  | ignored
  deriving DecidableEq, Repr

namespace CaseMode

/-- The characters that a mode takes for one another. -/
def same (mode : CaseMode) (a b : Char) : Bool :=
  match mode with
  | sensitive => a == b
  | ignored => a == b || Text.lower a == Text.lower b

end CaseMode

namespace Occurrences

/-- The characters that stand where the marker is looked for, if the text starts with it. -/
def prefixOf? (mode : CaseMode) : List Char → List Char → Option (List Char)
  | [], _ => some []
  | _ :: _, [] => none
  | m :: ms, c :: cs =>
    if mode.same c m then (prefixOf? mode ms cs).map (c :: ·) else none

/-- The occurrences met from left to right. `covered` characters still belong to the last one, and
the text that is left starts at byte `position`. -/
def scan (mode : CaseMode) (marker : List Char) (covered position : Nat) : List Char → List Span
  | [] => []
  | c :: cs =>
    match covered with
    | covered + 1 => scan mode marker covered (position + c.utf8Size) cs
    | 0 =>
      match prefixOf? mode marker (c :: cs) with
      | some found =>
        ⟨position, position + Text.byteLength found⟩ ::
          scan mode marker (found.length - 1) (position + c.utf8Size) cs
      | none => scan mode marker 0 (position + c.utf8Size) cs

/-- The places of a marker, leftmost first, each from the end of the one before. An empty marker has
none. -/
def find (mode : CaseMode) (marker text : List Char) : List Span :=
  if marker.isEmpty then [] else scan mode marker 0 0 text

end Occurrences

namespace StyledText

/-- Makes every occurrence of a marker bold, and counts them. -/
def embolden (t : StyledText) (mode : CaseMode) (marker : List Char) : StyledText × Nat :=
  let found := Occurrences.find mode marker t.text
  if found.isEmpty then (t, 0) else (t.restyle (found.map .bold), found.length)

/-- Makes the occurrences of one marker after the other bold, and counts them all. -/
def emboldenAll (t : StyledText) (mode : CaseMode) (markers : List (List Char)) :
    StyledText × Nat :=
  markers.foldl (fun (t, count) marker =>
    let (t, more) := t.embolden mode marker
    (t, count + more)) (t, 0)

end StyledText

end CodeEditor
