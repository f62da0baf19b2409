import Docket.Counter.Store
import Docket.Proofs.Json.RoundTrip
import Docket.Proofs.Table.Entries

/-! Counter tables that mention every category survive being written to a file and read back. -/

namespace Docket.Counter

namespace Table

/-- A table is full when it mentions every category. -/
def IsFull (table : Table) : Prop :=
  -- A group without counters counts as a mention.
  ∀ category, (table.group? category).isSome

/-- A full table has a group for each of the three categories. -/
theorem IsFull.groups {table : Table} (full : table.IsFull) : ∃ auto custom system,
    table = ⟨some auto, some custom, some system⟩ := by
  -- Each of the three fields of the table is a group.
  obtain ⟨auto, hasAuto⟩ := Option.isSome_iff_exists.mp (full .auto)
  obtain ⟨custom, hasCustom⟩ := Option.isSome_iff_exists.mp (full .custom)
  obtain ⟨system, hasSystem⟩ := Option.isSome_iff_exists.mp (full .system)
  refine ⟨auto, custom, system, ?_⟩
  cases table
  simp only [group?] at hasAuto hasCustom hasSystem
  rw [hasAuto, hasCustom, hasSystem]

/-- Replacing a group keeps a table full. -/
theorem isFull_putGroup {table : Table} (full : table.IsFull) (category : Category)
    (group : Group) : (table.putGroup category group).IsFull := by
  -- The category itself has the new group, and the others have what they had.
  intro other
  rw [group?_putGroup]
  split
  · rfl
  · exact full other

/-- A table is full after every category has been mentioned. -/
theorem isFull_complete (table : Table) : table.complete.IsFull := by
  intro category
  cases category <;> rfl

/-- Mentioning every category leaves a full table as it is. -/
theorem complete_of_isFull {table : Table} (full : table.IsFull) : table.complete = table := by
  obtain ⟨auto, custom, system, rfl⟩ := full.groups
  rfl

/-- The table without counters is full. -/
theorem isFull_empty : empty.IsFull :=
  isFull_complete {}

/-- Setting a counter keeps a table full. -/
theorem isFull_put {table : Table} (full : table.IsFull) (category : Category) (name : Text)
    (value : Int64) : (table.put category name value).IsFull :=
  isFull_putGroup full category _

/-- Advancing a counter keeps a table full, also if the counter cannot move. -/
theorem isFull_advance {table : Table} (full : table.IsFull) (category : Category) (name : Text)
    (start step : Int64) : (table.advance category name start step).2.IsFull := by
  -- A counter that cannot move is at least mentioned.
  simp only [advance]
  split
  · exact isFull_put full category name _
  · exact isFull_putGroup full category _

/-- Removing a counter keeps a table full. -/
theorem isFull_remove {table : Table} (full : table.IsFull) (category : Category) (name : Text) :
    (table.remove category name).IsFull := by
  -- A category that was not mentioned stays so, but a full table has none.
  unfold remove
  split
  · exact isFull_putGroup full category _
  · exact full

/-- Removing the counters of a category keeps a table full. -/
theorem isFull_clear {table : Table} (full : table.IsFull) (category : Category) :
    (table.clear category).IsFull := by
  -- The group is replaced by an empty one, or there was none.
  unfold clear
  split
  · exact isFull_putGroup full category _
  · exact full

/-- The written value of a counter reads back. -/
theorem int64?_integer (value : Int64) : Json.int64? (.integer value.toInt) = some value := by
  simp [Json.int64?, Text.fits_toInt]

/-- The written members of a group read back as its entries. -/
theorem membersOf?_groupJson (group : Group) :
    Json.membersOf? Json.int64? (groupJson group) = some group.entries := by
  -- Every entry is written as a member of its own and read back alone.
  refine Json.mapM_map _ _ (fun entry => ?_) group.entries
  simp [int64?_integer]

/-- The written form of a full table reads back as that table. -/
theorem ofJson?_toJson {table : Table} (full : table.IsFull) :
    ofJson? table.toJson = some table := by
  -- The groups are read one after the other and collected into the table.
  obtain ⟨auto, custom, system, rfl⟩ := full.groups
  have object (read : Json → Option (List (Text × Int64))) (members : List (Text × Json)) :
      Json.membersOf? read (.object members) =
        members.mapM fun member => (read member.2).map fun value => (member.1, value) := rfl
  have groups : Json.membersOf? (Json.membersOf? Json.int64?)
      (.object [(Category.auto.name, groupJson auto), (Category.custom.name, groupJson custom),
        (Category.system.name, groupJson system)]) =
      some [(Category.auto.name, auto.entries), (Category.custom.name, custom.entries),
        (Category.system.name, system.entries)] := by
    simp [object, membersOf?_groupJson]
  -- Each category is recognised by its name and put into its own field.
  have collected : ofGroups? [(Category.auto.name, auto.entries),
      (Category.custom.name, custom.entries), (Category.system.name, system.entries)] {} =
      some ⟨some auto, some custom, some system⟩ := by
    have auto_ : Category.ofName? Category.auto.name = some .auto := by decide
    have custom_ : Category.ofName? Category.custom.name = some .custom := by decide
    have system_ : Category.ofName? Category.system.name = some .system := by decide
    simp [ofGroups?, auto_, custom_, system_, putGroup]
  have fields (groups : Json) : Json.fields? [["counters".toList]]
      (.object [("counters".toList, groups)]) = some [some groups] := rfl
  simp only [ofJson?, toJson, Category.all, List.filterMap_cons, List.filterMap_nil, group?,
    Option.map_some, fields, Json.fieldOr?, groups, Option.bind_some, collected]

/-- The members of a group are whole. -/
theorem membersWhole_entries (entries : List (Text × Int64)) :
    Json.membersWhole (entries.map fun (name, value) => (name, .integer value.toInt)) = true := by
  -- All values are integers.
  induction entries with
  | nil => rfl
  | cons entry rest ih => exact ih

/-- The written form of a full table is whole. -/
theorem isWhole_toJson {table : Table} (full : table.IsFull) :
    Json.isWhole table.toJson = true := by
  -- The table is an object of objects of integers.
  obtain ⟨auto, custom, system, rfl⟩ := full.groups
  simp [toJson, Category.all, group?, groupJson, Json.isWhole, Json.membersWhole,
    membersWhole_entries]

end Table

namespace Store

/-- The file text of a full table reads back as that table. -/
theorem read?_fileText {table : Table} (full : table.IsFull) :
    (Json.read? (fileText table)).bind Table.ofJson? = some table := by
  -- The text gives the JSON value back, and that gives the table.
  rw [fileText, Json.read?_render (Table.isWhole_toJson full)]
  exact Table.ofJson?_toJson full

/-- The file text of a table is not blank, as it begins with a brace. -/
theorem blank_fileText (table : Table) : Text.blank (fileText table) = false := by
  rfl

end Store

end Docket.Counter
