import CodeEditor.Color
import CodeEditor.Weight

/-! # How text looks -/

namespace CodeEditor

structure Font where
  family : String
  size : Number.Single
  weight : Weight
  italic : Bool
  deriving DecidableEq, Repr

namespace Font

def standard : Font := ⟨"Menlo", .ofNat 13, .regular, false⟩

instance : Inhabited Font := ⟨standard⟩

/-- The same font with its weight raised to bold. -/
def bolded (f : Font) : Font := { f with weight := f.weight.bolded }

/-- The same font, sizes being compared as numbers. -/
def agrees (a b : Font) : Bool :=
  a.family == b.family && a.size.agrees b.size && a.weight == b.weight && a.italic == b.italic

end Font

structure Paragraph where
  tabWidth : UInt8
  lineSpacing : Number.Single
  deriving DecidableEq, Repr

namespace Paragraph

def standard : Paragraph := ⟨2, .ofNat 1⟩

instance : Inhabited Paragraph := ⟨standard⟩

def agrees (a b : Paragraph) : Bool :=
  a.tabWidth == b.tabWidth && a.lineSpacing.agrees b.lineSpacing

end Paragraph

/-- All that decides how a stretch of text is drawn. -/
structure Attributes where
  font : Font
  foreground : Color
  background : Option Color
  kerning : Number.Single
  ligatures : UInt8
  paragraph : Paragraph
  deriving DecidableEq, Repr

namespace Attributes

def standard : Attributes := ⟨.standard, .black, none, .zero, 0, .standard⟩

instance : Inhabited Attributes := ⟨standard⟩

/-- Nothing can be seen to differ: the same attributes, fractions being compared as numbers. -/
def agrees (a b : Attributes) : Bool :=
  a.font.agrees b.font && a.foreground == b.foreground && a.background == b.background &&
    a.kerning.agrees b.kerning && a.ligatures == b.ligatures && a.paragraph.agrees b.paragraph

def withForeground (a : Attributes) (color : Color) : Attributes := { a with foreground := color }

def withFont (a : Attributes) (font : Font) : Attributes := { a with font := font }

def bolded (a : Attributes) : Attributes := a.withFont a.font.bolded

end Attributes

end CodeEditor
