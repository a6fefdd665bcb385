import CodeEditor.Attributes
import CodeEditor.Dictionary

/-! # Color themes -/

namespace CodeEditor

/-- Gives a foreground to some scopes. -/
structure TokenColor where
  scopes : List String
  foreground : Color
  deriving DecidableEq, Repr

structure Theme where
  name : String
  /-- Colors of the editor's parts. -/
  colors : Dictionary Color
  /-- Where two entries list a scope, the first one counts. -/
  tokenColors : List TokenColor
  weight : Weight
  deriving DecidableEq, Repr

namespace Theme

/-- A theme that sets nothing. -/
def plain (name : String) : Theme := ⟨name, .empty, [], .regular⟩

instance : Inhabited Theme := ⟨plain ""⟩

def foregroundKey : String := "editor.foreground"
def backgroundKey : String := "editor.background"
def selectionKey : String := "editor.selectionBackground"
def cursorKey : String := "editor.cursor"

/-- The color of a part of the editor, if the theme sets it. -/
def color? (t : Theme) (key : String) : Option Color := t.colors.find? key

def foreground (t : Theme) : Color := (t.color? foregroundKey).getD (.rgb 0xD4 0xD4 0xD4)

def background (t : Theme) : Color := (t.color? backgroundKey).getD (.rgb 0x1E 0x1E 0x1E)

def selection (t : Theme) : Color := (t.color? selectionKey).getD (.rgb 0x26 0x4F 0x78)

/-- The cursor has the color of the text unless the theme sets its own. -/
def cursor (t : Theme) : Color := (t.color? cursorKey).getD t.foreground

/-- The foreground of a scope, from the first entry that lists it. -/
def tokenColor? (t : Theme) (scope : String) : Option Color :=
  (t.tokenColors.find? (·.scopes.contains scope)).map (·.foreground)

/-- The attributes of text that no pattern colors. -/
def base (t : Theme) (family : String) (size : Number.Single) (tabWidth : UInt8) : Attributes :=
  { font := ⟨family, size, t.weight, false⟩
    foreground := t.foreground
    background := none
    kerning := .zero
    ligatures := 0
    paragraph := ⟨tabWidth, .ofNat 1⟩ }

end Theme

end CodeEditor
