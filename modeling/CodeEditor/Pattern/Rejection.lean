/-! # Why an expression is no pattern -/

namespace CodeEditor.Pattern

inductive Rejection where
  | unclosedGroup
  | unopenedGroup
  | unclosedClass
  /-- A class or one of its ranges has something in it that is no character. -/
  | malformedClass
  | reversedRange
  | nothingToRepeat
  | reversedRepeat
  | trailingBackslash
  | unknownEscape (c : Char)
  | malformedCode
  | codeOutOfRange (code : Nat)
  | unknownProperty (name : String)
  | unknownGroup
  | malformedGroupName
  | unknownFlag
  /-- A reference by number in an expression that names its groups. -/
  | mixedReferences
  | tooDeep
  deriving DecidableEq, Repr

end CodeEditor.Pattern
