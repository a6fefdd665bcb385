import CodeEditor.Json.Token

/-! # Reading a JSON text

The reader takes one token after the other and keeps the lists and records that are still open.
-/

namespace CodeEditor.Json

/-- A list or record that is still open, last item first; a record may await the value of a name. -/
inductive Frame where
  | list (items : List Json)
  | record (members : List (Literal × Json))
  | member (members : List (Literal × Json)) (name : Literal)
  deriving Inhabited

/-- What may come next. -/
inductive Expecting where
  | value
  | itemOrEnd
  | nameOrEnd
  | name
  | colon
  | commaOrEnd
  /-- The document is read, and nothing may follow. -/
  | nothing (document : Json)
  deriving Inhabited

/-- Where a value goes once it is read. -/
def place (value : Json) : List Frame → Option (Expecting × List Frame)
  | [] => some (.nothing value, [])
  | .list items :: rest => some (.commaOrEnd, .list (value :: items) :: rest)
  | .member members name :: rest => some (.commaOrEnd, .record ((name, value) :: members) :: rest)
  | .record _ :: _ => none

/-- Takes the token that starts a value. -/
def beginValue (token : Token) (frames : List Frame) : Option (Expecting × List Frame) :=
  match token with
  | .scalar value => place value frames
  | .mark c =>
    if c == '[' then some (.itemOrEnd, .list [] :: frames)
    else if c == '\x7b' then some (.nameOrEnd, .record [] :: frames)
    else none

/-- Takes the token that ends the innermost list or record. -/
def endFrame (c : Char) (frames : List Frame) : Option (Expecting × List Frame) :=
  match frames with
  | .list items :: rest => if c == ']' then place (.list items.reverse) rest else none
  | .record members :: rest => if c == '\x7d' then place (.record members.reverse) rest else none
  | _ => none

/-- Takes the name of a member. -/
def beginMember (token : Token) (frames : List Frame) : Option (Expecting × List Frame) :=
  match token, frames with
  | .scalar (.text name), .record members :: rest => some (.colon, .member members name :: rest)
  | _, _ => none

def take (expecting : Expecting) (frames : List Frame) (token : Token) :
    Option (Expecting × List Frame) :=
  match expecting, token with
  | .value, _ => beginValue token frames
  | .itemOrEnd, .mark c => if c == ']' then endFrame c frames else beginValue token frames
  | .itemOrEnd, _ => beginValue token frames
  | .nameOrEnd, .mark c => endFrame c frames
  | .nameOrEnd, _ => beginMember token frames
  | .name, _ => beginMember token frames
  | .colon, .mark ':' => some (.value, frames)
  | .commaOrEnd, .mark ',' =>
    match frames with
    | .list _ :: _ => some (.value, frames)
    | .record _ :: _ => some (.name, frames)
    | _ => none
  | .commaOrEnd, .mark c => endFrame c frames
  | _, _ => none

/-- The document that the tokens left complete. -/
def build (expecting : Expecting) (frames : List Frame) : List Token → Option Json
  | [] =>
    match expecting with
    | .nothing document => some document
    | _ => none
  | token :: rest =>
    match take expecting frames token with
    | some (expecting, frames) => build expecting frames rest
    | none => none

/-- The document that a text writes. -/
def parse? (text : List Char) : Option Json := do build .value [] (← Token.ofText? text)

end CodeEditor.Json
