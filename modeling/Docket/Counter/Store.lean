import Docket.Counter.Table
import Docket.Json.Reader
import Docket.Json.Writer
import Docket.Storage.Replace

/-! Counter stores: a table in memory, kept in a file if the store has one. -/

namespace Docket.Counter

/-- A store works on its table and, if it has a file, writes every change there first. -/
structure Store where
  table : Table
  path : Option Text
deriving DecidableEq, Inhabited

namespace Store

/-- A store without counters and without a file. -/
def inMemory : Store :=
  ⟨.empty, none⟩

/-- What the file of a table holds. -/
def fileText (table : Table) : Text :=
  table.toJson.render

/-- The table in a counter file; a missing or blank file holds none. -/
def load (path : Text) (disk : Disk) : Except Failure (Option Table) :=
  match disk.readText path with
  -- Only a path to nothing means that there is no file; any other fault is an error.
  | .error .missing => .ok none
  | .error _ => .error (.inaccessible path)
  | .ok text =>
    if Text.blank text then .ok none
    else match (Json.read? text).bind Table.ofJson? with
      | some table => .ok (some table.complete)
      | none => .error (.corrupt path)

/-- Writes a table to a counter file. -/
def persist (path : Text) (table : Table) (disk : Disk) : Except Failure Unit × Disk :=
  match disk.replace path (.text (fileText table)) with
  | (.ok (), disk) => (.ok (), disk)
  | (.error _, disk) => (.error (.inaccessible path), disk)

/-- Opens the store of a counter file and creates the file if there is no table in it. -/
def openFile (path : Text) (disk : Disk) : Except Failure Store × Disk :=
  match load path disk with
  | .error failure => (.error failure, disk)
  | .ok (some table) => (.ok ⟨table, some path⟩, disk)
  | .ok none =>
    match persist path .empty disk with
    | (.ok (), disk) => (.ok ⟨.empty, some path⟩, disk)
    | (.error failure, disk) => (.error failure, disk)

/-- Adopts a changed table once its file holds it; an unchanged table is not written. -/
def adopt (store : Store) (next : Table) (disk : Disk) : Except Failure Unit × Store × Disk :=
  if next = store.table then (.ok (), store, disk)
  else match store.path with
    | none => (.ok (), { store with table := next }, disk)
    | some path =>
      match persist path next disk with
      -- The table changes after the file does, so a failure leaves both as they were.
      | (.ok (), disk) => (.ok (), { store with table := next }, disk)
      | (.error failure, disk) => (.error failure, store, disk)

/-- Answers with `answer` if the next table could be adopted. -/
def commit {α : Type} (store : Store) (answer : α) (next : Table) (disk : Disk) :
    Except Failure α × Store × Disk :=
  match store.adopt next disk with
  | (.ok (), store, disk) => (.ok answer, store, disk)
  | (.error failure, store, disk) => (.error failure, store, disk)

/-- Hands out the value of a counter and moves the counter by `step`. -/
def advance (store : Store) (category : Category) (name : Text) (start step : Int64)
    (disk : Disk) : Except Failure Int64 × Store × Disk :=
  match store.table.advance category name start step with
  | (.ok value, next) => store.commit value next disk
  -- The table of a failed advance is dropped, so nothing is written either.
  | (.error failure, _) => (.error failure, store, disk)

/-- The value of a counter. -/
def get? (store : Store) (category : Category) (name : Text) : Option Int64 :=
  store.table.get? category name

/-- Sets a counter, so that it hands out `value` next. -/
def set (store : Store) (category : Category) (name : Text) (value : Int64) (disk : Disk) :
    Except Failure Unit × Store × Disk :=
  store.commit () (store.table.put category name value) disk

/-- Deletes a counter; tells whether it was there. -/
def delete (store : Store) (category : Category) (name : Text) (disk : Disk) :
    Except Failure Bool × Store × Disk :=
  store.commit (store.get? category name).isSome (store.table.remove category name) disk

/-- Deletes the counters of a category; tells how many there were. -/
def clear (store : Store) (category : Category) (disk : Disk) :
    Except Failure Nat × Store × Disk :=
  store.commit (store.table.group category).size (store.table.clear category) disk

/-- Where a store keeps its table. -/
def backing (store : Store) : Text :=
  match store.path with
  | none => "memory".toList
  | some path => "file:".toList ++ path

end Store

/-- The value at which a counter restarts when none is given. -/
def restartValue : Int64 := 1

end Docket.Counter
