import CodeEditor.Json.Basic

/-! # Documents with a fixed set of fields

Such a document is a record, or a list of its fields in their order. In a record, members that are
no field are passed over, and no field may occur twice.
-/

namespace CodeEditor.Json

structure Field where
  /-- What the field is called, with other names it may have. -/
  names : List String
  /-- A record need not have the field. -/
  optional : Bool
  /-- A list may end before the field. -/
  omissible : Bool

/-- The value of a field in a record, `some none` when it may be missing and is. -/
def Field.find? (f : Field) (members : List (String × Json)) : Option (Option Json) :=
  match members.filter (fun m => f.names.contains m.1) with
  | [] => if f.optional then some none else none
  | [m] => some (some m.2)
  | _ => none

/-- The fields of a list, in order. -/
def fieldsInOrder : List Field → List Json → Option (List (Option Json))
  | [], [] => some []
  | [], _ :: _ => none
  | f :: fs, [] => if f.omissible then (fieldsInOrder fs []).map (none :: ·) else none
  | _ :: fs, item :: items => (fieldsInOrder fs items).map (some item :: ·)

/-- The values of the fields that a document has. -/
def fields? (shape : List Field) : Json → Option (List (Option Json))
  | .record members => do
    let members ← members.mapM fun (name, value) => name.map (·, value)
    shape.mapM (·.find? members)
  | .list items => fieldsInOrder shape items
  | _ => none

/-- The text of a string that has one. -/
def text? : Json → Option String
  | .text value => value
  | _ => none

/-- A string or null. -/
def textOrNull? : Json → Option (Option String)
  | .null => some none
  | .text value => value.map some
  | _ => none

/-- A list whose items are all read by `item`. -/
def listOf? {α : Type} (item : Json → Option α) : Json → Option (List α)
  | .list items => items.mapM item
  | _ => none

end CodeEditor.Json
