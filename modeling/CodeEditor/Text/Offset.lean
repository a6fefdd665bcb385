import CodeEditor.Span

/-! # Byte offsets in a text

A text is a list of characters; its byte offsets are those of its UTF-8 form. A boundary is an
offset that does not lie inside a character.
-/

namespace CodeEditor.Text

/-- How many bytes the text takes in UTF-8. -/
def byteLength (text : List Char) : Nat := text.foldl (fun n c => n + c.utf8Size) 0

theorem foldl_utf8Size (text : List Char) (n : Nat) :
    text.foldl (fun n c => n + c.utf8Size) n = n + byteLength text := by
  induction text generalizing n with
  | nil => simp [byteLength]
  | cons c cs ih => simp only [byteLength, List.foldl_cons]; rw [ih, ih (0 + _)]; omega

@[simp] theorem byteLength_nil : byteLength [] = 0 := rfl

@[simp] theorem byteLength_cons (c : Char) (cs : List Char) :
    byteLength (c :: cs) = c.utf8Size + byteLength cs := by
  simp only [byteLength, List.foldl_cons]; rw [foldl_utf8Size]; simp [byteLength]

@[simp] theorem byteLength_append (a b : List Char) :
    byteLength (a ++ b) = byteLength a + byteLength b := by
  induction a with
  | nil => simp
  | cons c cs ih => simp [ih]; omega

/-- The byte offset of the character at `index`, or the end when the text is shorter. -/
def byteOffset (text : List Char) (index : Nat) : Nat := byteLength (text.take index)

/-- The greatest boundary that is at most `byte`. -/
def floorBoundary : List Char → Nat → Nat
  | [], _ => 0
  | c :: cs, byte =>
    if byte < c.utf8Size then 0 else c.utf8Size + floorBoundary cs (byte - c.utf8Size)

/-- The least boundary that is at least `byte`, or the end when `byte` lies past it. -/
def ceilBoundary : List Char → Nat → Nat
  | [], _ => 0
  | c :: cs, byte => if byte = 0 then 0 else c.utf8Size + ceilBoundary cs (byte - c.utf8Size)

/-- The span cut to the text and widened to boundaries; never reversed. -/
def snap (text : List Char) (s : Span) : Span :=
  let start := floorBoundary text s.start
  ⟨start, max start (ceilBoundary text s.stop)⟩

/-- The characters that end at or before `byte`, and the rest. -/
def splitAtByte : List Char → Nat → List Char × List Char
  | [], _ => ([], [])
  | c :: cs, byte =>
    if byte < c.utf8Size then ([], c :: cs)
    else
      let (before, after) := splitAtByte cs (byte - c.utf8Size)
      (c :: before, after)

end CodeEditor.Text
