import CodeEditor.Number.Numeral
import CodeEditor.Shell.Token

/-! # Calculations with whole numbers in scripts -/

namespace CodeEditor.Shell.Arithmetic

/-- The operators, those that bind less first. Of two that start alike the longer one comes first. -/
def levels : List (List String) :=
  [["||"], ["&&"], ["==", "!="], ["<=", ">=", "<", ">"], ["+", "-"], ["*", "/", "%"]]

def ofBool (b : Bool) : Int := if b then 1 else 0

/-- The value of an operation; none when it divides by zero. -/
def apply (operator : String) (a b : Int) : Option Int :=
  match operator with
  | "||" => some (ofBool (a != 0 || b != 0))
  | "&&" => some (ofBool (a != 0 && b != 0))
  | "==" => some (ofBool (a == b))
  | "!=" => some (ofBool (a != b))
  | "<=" => some (ofBool (a ≤ b))
  | ">=" => some (ofBool (b ≤ a))
  | "<" => some (ofBool (a < b))
  | ">" => some (ofBool (b < a))
  | "+" => some (a + b)
  | "-" => some (a - b)
  | "*" => some (a * b)
  | "/" => if b = 0 then none else some (Int.tdiv a b)
  | _ => if b = 0 then none else some (Int.tmod a b)

def skipBlanks (text : List Char) : List Char :=
  text.dropWhile fun c => c == ' ' || c == '\t' || c == '\n'

/-- What follows the operator at the start of a text. -/
def afterOperator? (operator : String) (text : List Char) : Option (List Char) :=
  if operator.toList.isPrefixOf text then some (text.drop operator.length) else none

/-- The first operator of a level that a text starts with, and what follows it. -/
def operatorOf? (operators : List String) (text : List Char) : Option (String × List Char) :=
  operators.findSome? fun operator => (afterOperator? operator text).map (operator, ·)

mutual

/-- The value of the calculation at the start of a text, with operators of some levels. -/
def value? (valueOf : String → Int) : (fuel : Nat) → List (List String) → List Char →
    Option (Int × List Char)
  | 0, _, _ => none
  | fuel + 1, [], text => atom? valueOf fuel (skipBlanks text)
  | fuel + 1, operators :: tighter, text => do
    let (first, rest) ← value? valueOf fuel tighter text
    more? valueOf fuel operators tighter first rest

/-- Goes on after the first operand with more operators of the same level. -/
def more? (valueOf : String → Int) : (fuel : Nat) → List String → List (List String) → Int →
    List Char → Option (Int × List Char)
  | 0, _, _, _, _ => none
  | fuel + 1, operators, tighter, first, text =>
    match operatorOf? operators (skipBlanks text) with
    | none => some (first, text)
    | some (operator, rest) => do
      let (second, rest) ← value? valueOf fuel tighter rest
      more? valueOf fuel operators tighter (← apply operator first second) rest

/-- The value of a number, a variable, or a calculation in brackets, perhaps with a sign. -/
def atom? (valueOf : String → Int) : (fuel : Nat) → List Char → Option (Int × List Char)
  | 0, _ => none
  | fuel + 1, text =>
    match text with
    | '-' :: rest => (atom? valueOf fuel (skipBlanks rest)).map fun (v, rest) => (-v, rest)
    | '+' :: rest => atom? valueOf fuel (skipBlanks rest)
    | '!' :: rest =>
      (atom? valueOf fuel (skipBlanks rest)).map fun (v, rest) => (ofBool (v == 0), rest)
    | '(' :: rest => do
      let (v, rest) ← value? valueOf fuel levels rest
      match skipBlanks rest with
      | ')' :: rest => some (v, rest)
      | _ => none
    | c :: _ =>
      if Text.isAsciiDigit c then
        some ((Number.ofDigits (Number.Numeral.digits text) : Int), Number.Numeral.afterDigits text)
      else if Token.isNameStart c then
        some (valueOf (String.ofList (text.takeWhile Token.isNamePart)),
          text.dropWhile Token.isNamePart)
      else none
    | [] => none

end

/-- The value of a calculation that fills the text. -/
def evaluate? (valueOf : String → Int) (text : List Char) : Option Int := do
  let (value, rest) ← value? valueOf (10 * (text.length + 1)) levels text
  if (skipBlanks rest).isEmpty then some value else none

/-- The number that a text writes; zero when it writes none. -/
def numberOf (text : List Char) : Int :=
  match text with
  | '-' :: rest => -(Number.ofDigits (Number.Numeral.digits rest) : Int)
  | rest => (Number.ofDigits (Number.Numeral.digits rest) : Int)

end CodeEditor.Shell.Arithmetic
