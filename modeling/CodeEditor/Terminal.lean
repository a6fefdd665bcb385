import CodeEditor.Number.Written
import CodeEditor.StyledText
import CodeEditor.Text.Split

/-! # Styled text for a terminal

Colors and weights are given in escape sequences. No style is on at the end of a line.
-/

namespace CodeEditor.Terminal

/-- The character that starts an escape sequence. -/
def escapeChar : Char := Char.ofNat 0x1B

def sequence (numbers : List Nat) : List Char :=
  let parts := numbers.map fun n => (Number.Numeral.ofNat n).text
  escapeChar :: '[' :: ((parts.intersperse [';']).flatten ++ ['m'])

/-- Turns every style off. -/
def reset : List Char := sequence [0]

def bold : List Char := sequence [1]

def foreground (c : Color) : List Char :=
  sequence [38, 2, c.red.toNat, c.green.toNat, c.blue.toNat]

/-- Some text of one line in its style. -/
def segment (a : Attributes) (text : List Char) : List Char :=
  if text.isEmpty then []
  else (if a.font.weight.isBold then bold else []) ++ foreground a.foreground ++ text ++ reset

def run (a : Attributes) (text : List Char) : List Char :=
  (((Text.split '\n' text).map (segment a)).intersperse ['\n']).flatten

def runs : List Run → List Char → List Char
  | [], _ => []
  | r :: rs, text =>
    let (here, rest) := Text.splitAtByte text r.length
    run r.attributes here ++ runs rs rest

/-- What a terminal is sent to show a text. -/
def render (t : StyledText) : List Char := runs t.runs t.text

end CodeEditor.Terminal
