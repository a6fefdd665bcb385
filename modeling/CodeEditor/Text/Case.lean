import CodeEditor.Text.Table.Case

/-! # Upper and lower case -/

namespace CodeEditor.Text

/-- The lowercase text of a character. Only the capital I with a dot has two characters in it. -/
def lower (c : Char) : List Char :=
  if c.toNat < 0x80 then [c.toLower]
  else if c.toNat == 0x130 then ['i', Char.ofNat 0x307]
  else [Char.ofNat (Table.lowering.apply c.toNat)]

/-- The character that stands for `c` and its case counterparts. -/
def fold (c : Char) : Char :=
  if c.toNat < 0x80 then c.toLower else Char.ofNat (Table.folding.apply c.toNat)

/-- The characters that fold to the same one as `c`. Of ASCII characters only letters have others:
their other case, with the Kelvin sign for `k` and the long s for `s`. -/
def counterparts (c : Char) : List Char :=
  if c.toNat < 0x80 then
    if c.toLower == 'k' then ['k', 'K', Char.ofNat 0x212A]
    else if c.toLower == 's' then ['s', 'S', Char.ofNat 0x17F]
    else [c.toLower, c.toUpper]
  else
    let folded := fold c
    folded :: (Table.folding.sources folded.toNat).map Char.ofNat

end CodeEditor.Text
