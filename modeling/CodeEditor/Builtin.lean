import CodeEditor.Grammar
import CodeEditor.Theme

/-! # Themes and grammars that are always at hand -/

namespace CodeEditor.Builtin

/-! ## Themes -/

/-- Light text on a dark ground. -/
def dark : Theme where
  name := "Default"
  colors := .ofList
    [(Theme.foregroundKey, .rgb 0xD4 0xD4 0xD4),
      (Theme.backgroundKey, .rgb 0x1E 0x1E 0x1E),
      (Theme.selectionKey, .rgb 0x26 0x4F 0x78),
      (Theme.cursorKey, .rgb 0xAE 0xAF 0xAD)]
  tokenColors :=
    [⟨["Keywords"], .rgb 0x56 0x9C 0xD6⟩,
      ⟨["Functions"], .rgb 0xDC 0xDC 0xAA⟩,
      ⟨["Numbers", "Units"], .rgb 0xB5 0xCE 0xA8⟩,
      ⟨["Strings", "Backquotes"], .rgb 0xCE 0x91 0x78⟩,
      ⟨["Operators", "Symbols"], .rgb 0xC5 0x86 0xC0⟩,
      ⟨["Brackets"], .rgb 0xFF 0xD7 0x00⟩,
      ⟨["Comments"], .rgb 0x6A 0x99 0x55⟩,
      ⟨["Preprocessor Statements"], .rgb 0x9B 0x9B 0x9B⟩,
      ⟨["Namespace"], .rgb 0x4E 0xC9 0xB0⟩]
  weight := .regular

/-- Dark text on a light ground. -/
def light : Theme where
  name := "Prime Light"
  colors := .ofList
    [(Theme.foregroundKey, .rgb 0x1F 0x1F 0x1F),
      (Theme.backgroundKey, .rgb 0xFF 0xFF 0xFF),
      (Theme.selectionKey, .rgb 0xAD 0xD6 0xFF),
      (Theme.cursorKey, .rgb 0x00 0x00 0x00)]
  tokenColors :=
    [⟨["Keywords", "Preprocessor Statements"], .rgb 0x00 0x00 0xFF⟩,
      ⟨["Functions"], .rgb 0x79 0x5E 0x26⟩,
      ⟨["Numbers", "Units"], .rgb 0x09 0x86 0x58⟩,
      ⟨["Strings", "Backquotes"], .rgb 0xA3 0x15 0x15⟩,
      ⟨["Comments"], .rgb 0x00 0x80 0x00⟩,
      ⟨["Namespace"], .rgb 0x26 0x7F 0x99⟩,
      ⟨["Operators", "Symbols", "Brackets"], .rgb 0xAF 0x00 0xDB⟩]
  weight := .medium

def themes : List Theme := [dark, light]

/-! ## Grammars -/

/-- The grammar of the calculator's language. -/
def ppl : Grammar where
  name := "HP Prime PPL"
  scopeName := "source.ppl"
  rules :=
    [⟨"Symbols",
        "[\\x\x7b2190\x7d-\\x\x7b22FF\x7d\\x\x7b25A0\x7d-\\x\x7b25FF\x7d" ++
        "\\x\x7b0391\x7d-\\x\x7b03C9\x7d]"⟩,
      ⟨"Operators", ":=|==|[≠≤≥▶+\\-*/^=<>|]"⟩,
      ⟨"Brackets", "[()\\[\\]\x7b\x7d]"⟩,
      ⟨"Numbers", "(?<![A-Za-z_])(?:#[0-9A-Fa-f]+[hdob]?|[0-9]+(?:\\.[0-9]+)?(?:[Ee][+-]?[0-9]+)?)"⟩,
      ⟨"Units", "_[A-Za-z°µΩ]+(?:\\^[0-9]+)?"⟩,
      ⟨"Functions", "\\b[A-Za-z_][A-Za-z0-9_]*(?=\\()"⟩,
      ⟨"Namespace", "\\b[A-Za-z_][A-Za-z0-9_]*(?=::)"⟩,
      ⟨"Keywords",
        "(?i)\\b(?:BEGIN|END|IF|THEN|ELSE|IFERR|FOR|FROM|TO|DOWNTO|STEP|DO|WHILE|REPEAT|UNTIL|" ++
        "CASE|DEFAULT|RETURN|LOCAL|EXPORT|KILL|BREAK|CONTINUE|AND|OR|NOT|XOR|MOD|VIEW|KEY)\\b"⟩,
      ⟨"Preprocessor Statements", "(?m)^#(?:pragma|cas|end|python)\\b.*$"⟩,
      ⟨"Backquotes", "`[^`\\n]*`"⟩,
      ⟨"Strings", "\"(?:[^\"\\\\\\n]|\\\\.)*\""⟩,
      ⟨"Comments", "//[^\\n]*"⟩]

def grammars : List Grammar := [ppl]

end CodeEditor.Builtin
