import Docket.Counter.Category
import Docket.Json.Value
import Docket.Table.Index
import Docket.Text.Integer

/-! The counter table: values by category and name. -/

namespace Docket.Counter

/-- The counters of one category by name. -/
abbrev Group := Index Int64

/-- A counter as it is listed. -/
structure Listed where
  category : Category
  name : Text
  value : Int64
deriving DecidableEq, Repr

/-- A table holds a group of counters for each category that it mentions. -/
structure Table where
  auto : Option Group := none
  custom : Option Group := none
  system : Option Group := none
deriving DecidableEq, Inhabited

namespace Table

/-- The group of a category, if the table mentions the category. -/
def group? (table : Table) : Category → Option Group
  | .auto => table.auto
  | .custom => table.custom
  | .system => table.system

/-- The group of a category, empty if the table does not mention it. -/
def group (table : Table) (category : Category) : Group :=
  (table.group? category).getD .empty

/-- Replaces the group of a category. -/
def putGroup (table : Table) (category : Category) (group : Group) : Table :=
  match category with
  | .auto => { table with auto := some group }
  | .custom => { table with custom := some group }
  | .system => { table with system := some group }

@[simp] theorem group?_putGroup (table : Table) (category other : Category) (group : Group) :
    (table.putGroup category group).group? other =
      if other = category then some group else table.group? other := by
  cases category <;> cases other <;> rfl

/-- Mentions every category. -/
def complete (table : Table) : Table :=
  Category.all.foldl (fun table category => table.putGroup category (table.group category)) table

/-- The table that mentions every category and has no counter. -/
def empty : Table :=
  complete {}

/-- The value of a counter. -/
def get? (table : Table) (category : Category) (name : Text) : Option Int64 :=
  (table.group category).get? name

/-- Sets a counter. -/
def put (table : Table) (category : Category) (name : Text) (value : Int64) : Table :=
  table.putGroup category ((table.group category).put name value)

/-- Hands out the value of a counter and moves the counter by `step`. A missing counter starts at
`start`. A counter that would leave 64 bits stays where it is. -/
def advance (table : Table) (category : Category) (name : Text) (start step : Int64) :
    Except Failure Int64 × Table :=
  let current := (table.get? category name).getD start
  let next := current.toInt + step.toInt
  if Text.fits next then
    (.ok current, table.put category name (Int64.ofInt next))
  else
    -- The category is mentioned from now on, although no counter has changed.
    (.error (.overflow category name), table.putGroup category (table.group category))

/-- Removes a counter. -/
def remove (table : Table) (category : Category) (name : Text) : Table :=
  match table.group? category with
  | some group => table.putGroup category (group.erase name)
  | none => table

/-- Removes all counters of a category. -/
def clear (table : Table) (category : Category) : Table :=
  match table.group? category with
  | some _ => table.putGroup category .empty
  | none => table

/-- The counters of a category in the order of their names. -/
def listCategory (table : Table) (category : Category) : List (Text × Int64) :=
  (table.group category).entries

/-- All counters, by category and then by name. -/
def list (table : Table) : List Listed :=
  Category.all.flatMap fun category =>
    (table.listCategory category).map fun (name, value) => ⟨category, name, value⟩

/-- The JSON form of a group. -/
def groupJson (group : Group) : Json :=
  .object (group.entries.map fun (name, value) => (name, .integer value.toInt))

/-- The JSON form of a table. -/
def toJson (table : Table) : Json :=
  let groups := Category.all.filterMap fun category =>
    (table.group? category).map fun group => (category.name, groupJson group)
  .object [("counters".toList, .object groups)]

/-- The table of groups in the order in which they were read; a later group of a category wins. -/
def ofGroups? : List (Text × List (Text × Int64)) → Table → Option Table
  | [], table => some table
  | (name, entries) :: rest, table =>
    match Category.ofName? name with
    -- A group that comes later replaces the whole group before it.
    | some category => ofGroups? rest (table.putGroup category (Index.ofPairs entries))
    | none => none

/-- The table that a JSON value holds. -/
def ofJson? (json : Json) : Option Table :=
  match Json.fields? [["counters".toList]] json with
  | some [field] =>
    let read (json : Json) : Option Table :=
      (json.membersOf? (Json.membersOf? Json.int64?)).bind (ofGroups? · {})
    -- An object without the member stands for a table that mentions nothing.
    Json.fieldOr? read {} field
  | _ => none

end Table

end Docket.Counter
