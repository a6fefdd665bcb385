import CodeEditor.Text.Blank

/-! # Font weights -/

namespace CodeEditor

/-- The weights of a font, lightest first. -/
inductive Weight where
  | ultraLight
  | thin
  | light
  | regular
  | medium
  | semibold
  | bold
  | heavy
  | black
  deriving DecidableEq, Repr

namespace Weight

instance : Inhabited Weight := ⟨regular⟩

def rank : Weight → Nat
  | ultraLight => 0
  | thin => 1
  | light => 2
  | regular => 3
  | medium => 4
  | semibold => 5
  | bold => 6
  | heavy => 7
  | black => 8

def name : Weight → String
  | ultraLight => "ultraLight"
  | thin => "thin"
  | light => "light"
  | regular => "regular"
  | medium => "medium"
  | semibold => "semibold"
  | bold => "bold"
  | heavy => "heavy"
  | black => "black"

def all : List Weight :=
  [ultraLight, thin, light, regular, medium, semibold, bold, heavy, black]

/-- Reads a name in any case of ASCII letters, with blanks around it. -/
def ofName? (s : String) : Option Weight :=
  let key := Text.lowerAscii (Text.trimmed s)
  all.find? fun w => Text.lowerAscii w.name = key

/-- Bold or heavier. -/
def isBold (w : Weight) : Bool := bold.rank ≤ w.rank

/-- The weight raised to bold; heavier ones stay. -/
def bolded (w : Weight) : Weight := if w.isBold then w else bold

theorem isBold_bolded (w : Weight) : w.bolded.isBold := by cases w <;> rfl

theorem bolded_bolded (w : Weight) : w.bolded.bolded = w.bolded := by cases w <;> rfl

end Weight

end CodeEditor
