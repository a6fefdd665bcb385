import CodeEditor.Text.Blank

/-! # Words for yes and no -/

namespace CodeEditor.Flag

/-- Reads a word for yes or no in any case of ASCII letters, with blanks around it. Nothing stands
for no. -/
def ofWord? (s : String) : Option Bool :=
  let word := Text.lowerAscii (Text.trimmed s)
  if ["1", "true", "yes", "on"].contains word then some true
  else if ["", "0", "false", "no", "off"].contains word then some false
  else none

end CodeEditor.Flag
