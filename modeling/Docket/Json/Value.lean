import Docket.Text.Integer

/-! JSON values as written, with the order and the repetitions of object members, and records:
objects with known fields, or arrays of the field values in order. -/

namespace Docket

/-- A JSON value. A value with a string that stands for no text, because a surrogate is unpaired,
is `garbled`: it can only be skipped. Numbers that are not plain integers keep no value. -/
inductive Json where
  | null
  | bool (value : Bool)
  | integer (value : Int)
  | decimal
  | string (text : Text)
  | array (items : List Json)
  | object (members : List (Text × Json))
  | garbled
deriving Inhabited

namespace Json

/-- The text of a string. -/
def text? : Json → Option Text
  | string text => some text
  | _ => none

/-- The value of a truth value. -/
def bool? : Json → Option Bool
  | bool value => some value
  | _ => none

/-- A natural number below `2 ^ 64`. -/
def word? : Json → Option Nat
  | integer value => if 0 ≤ value ∧ value < Text.wordCount then some value.toNat else none
  | _ => none

/-- An integer that fits in 64 bits with a sign. -/
def int64? : Json → Option Int64
  | integer value =>
    if Text.fits value then some (Int64.ofInt value) else none
  | _ => none

/-- The members of an object. -/
def objectMembers? : Json → Option (List (Text × Json))
  | object members => some members
  | _ => none

/-- The items of an array. -/
def arrayItems? : Json → Option (List Json)
  | array items => some items
  | _ => none

/-- The members of an object whose values can all be read. -/
def membersOf? {α : Type} (read : Json → Option α) (json : Json) : Option (List (Text × α)) :=
  json.objectMembers?.bind fun members =>
    members.mapM fun (name, value) => (read value).map fun value => (name, value)

/-- The items of an array that can all be read. -/
def itemsOf? {α : Type} (read : Json → Option α) (json : Json) : Option (List α) :=
  json.arrayItems?.bind (·.mapM read)

/-- The values of the members that carry one of the names of a field. -/
def occurrences (names : List Text) (members : List (Text × Json)) : List Json :=
  (members.filter fun (name, _) => names.contains name).map Prod.snd

/-- The value of each field in an object, where a field may have several names but one value.
Members of other names are skipped. -/
def objectFields? (members : List (Text × Json)) (fields : List (List Text)) :
    Option (List (Option Json)) :=
  fields.mapM fun names =>
    match occurrences names members with
    | [] => some none
    | [value] => some (some value)
    | _ => none

/-- The value of each field in an array, where the last fields may be missing. -/
def arrayFields? : List Json → Nat → Option (List (Option Json))
  | [], count => some (List.replicate count none)
  | _ :: _, 0 => none
  | item :: items, count + 1 => (arrayFields? items count).map (some item :: ·)

/-- The value of each field of a record. -/
def fields? (fields : List (List Text)) (json : Json) : Option (List (Option Json)) :=
  match json with
  | object members => objectFields? members fields
  | array items => arrayFields? items fields.length
  | _ => none

/-- The value of a field, or a default where the field is missing. -/
def fieldOr? {α : Type} (read : Json → Option α) (default : α) : Option Json → Option α
  | none => some default
  | some json => read json

end Json

end Docket
