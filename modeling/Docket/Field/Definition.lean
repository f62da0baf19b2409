import Docket.Json.Reader
import Docket.Json.Value
import Docket.Json.Writer
import Docket.Storage.Disk
import Docket.Storage.Replace

/-! Fields of documents: a name, an expression, and where the value comes from. Documents hold the
values of fields, in the order in which the fields first got one. -/

namespace Docket

/-- Where the value of a field comes from. -/
inductive Source where
  | expression
  | script
  | sql
deriving DecidableEq, Repr, Inhabited

/-- A field. -/
structure Field where
  name : Text
  expression : Text := []
  source : Source := .expression
deriving DecidableEq, Repr

/-- Why a file of fields or a document was not read or written. -/
inductive DocumentFailure where
  | inaccessible (path : Text)
  | invalid (path : Text)
deriving DecidableEq, Repr

/-- The wording of a failure. -/
def DocumentFailure.message : DocumentFailure → Text
  | inaccessible path => "Field file ".toList ++ path ++ " could not be accessed".toList
  | invalid path => "Field file ".toList ++ path ++ " is not valid".toList

/-- The source of a name. -/
def Source.ofName? (name : Text) : Option Source :=
  if name == "expression".toList then some .expression
  else if name == "script".toList || name == "skript".toList then some .script
  else if name == "sql".toList then some .sql
  else none

/-- The source that a JSON value names; the name may be the only member of an object. -/
def Source.ofJson? : Json → Option Source
  | .string name => ofName? name
  | .object [(name, .null)] => ofName? name
  | _ => none

namespace Field

/-- The expression that gives the value. The text of a script or a query is a list of arguments. -/
def formula (field : Field) : Text :=
  match field.source with
  | .expression => field.expression
  -- The text goes between the parentheses as it is, without quoting.
  | .script => "SCRIPTING(".toList ++ field.expression ++ [')']
  | .sql => "SQL(".toList ++ field.expression ++ [')']

/-- The field that a JSON value holds. -/
def ofJson? (json : Json) : Option Field :=
  -- A field of the record may be written under either of its names.
  let names := [["name", "field_name"], ["expression"], ["source", "source_type"]]
  match Json.fields? (names.map (·.map String.toList)) json with
  | some [some name, expression, source] => do
    let name ← name.text?
    let expression ← Json.fieldOr? Json.text? [] expression
    let source ← Json.fieldOr? Source.ofJson? .expression source
    return ⟨name, expression, source⟩
  | _ => none

/-- The fields in a file. -/
def loadAll (path : Text) (disk : Disk) : Except DocumentFailure (List Field) :=
  match disk.readText path with
  | .error _ => .error (.inaccessible path)
  | .ok text =>
    match (Json.read? text).bind (Json.itemsOf? ofJson?) with
    | some fields => .ok fields
    | none => .error (.invalid path)

end Field

/-- The values of fields by name. -/
abbrev Document := Sheet Text Text

namespace Document

/-- The JSON form of a document. -/
def toJson (document : Document) : Json :=
  .object (document.entries.map fun (name, value) => (name, .string value))

/-- The document that a JSON value holds. -/
def ofJson? (json : Json) : Option Document :=
  (json.membersOf? Json.text?).map Sheet.ofPairs

/-- The document in a file. -/
def load (path : Text) (disk : Disk) : Except DocumentFailure Document :=
  match disk.readText path with
  | .error _ => .error (.inaccessible path)
  | .ok text =>
    match (Json.read? text).bind ofJson? with
    | some document => .ok document
    | none => .error (.invalid path)

/-- Writes a document to a file, which is replaced as a whole. -/
def save (document : Document) (path : Text) (disk : Disk) :
    Except DocumentFailure Unit × Disk :=
  match disk.replace path (.text document.toJson.render) with
  | (.ok (), disk) => (.ok (), disk)
  | (.error _, disk) => (.error (.inaccessible path), disk)

end Document

end Docket
