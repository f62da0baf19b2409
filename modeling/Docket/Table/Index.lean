import Docket.Table.Lookup
import Docket.Text.Order

/-! Indexes: tables that list their entries in the order of their names. -/

namespace Docket

/-- An index holds at most one value for each name, in strictly increasing order of names. -/
structure Index (α : Type) where
  entries : List (Text × α) := []
  sorted : (entries.map Prod.fst).Pairwise (fun a b => Text.before a b = true) := by simp
deriving DecidableEq

namespace Index

variable {α : Type}

/-- An index without entries. -/
def empty : Index α := {}

instance : Inhabited (Index α) := ⟨empty⟩

/-- The names in order. -/
def names (index : Index α) : List Text :=
  index.entries.map Prod.fst

/-- The number of entries. -/
def size (index : Index α) : Nat :=
  index.entries.length

/-- The value stored for a name. -/
def get? (index : Index α) (name : Text) : Option α :=
  index.entries.lookup name

/-- Entries with the value of one name replaced, or with a new entry at its place in the order. -/
def putEntry (name : Text) (value : α) : List (Text × α) → List (Text × α)
  | [] => [(name, value)]
  | entry :: rest =>
    if entry.1 = name then (name, value) :: rest
    else if Text.before name entry.1 then (name, value) :: entry :: rest
    else entry :: putEntry name value rest

/-- Storing a value brings no name but its own. -/
theorem mem_names_putEntry {name other : Text} {value : α} {entries : List (Text × α)}
    (inside : other ∈ (putEntry name value entries).map Prod.fst) :
    other = name ∨ other ∈ entries.map Prod.fst := by
  induction entries with
  | nil => simpa [putEntry] using inside
  | cons entry rest ih =>
    -- The value replaces one of its name, goes in front of a later name, or goes on behind the
    -- head.
    unfold putEntry at inside
    split at inside
    · simp only [List.map_cons, List.mem_cons] at inside ⊢
      exact inside.imp id .inr
    · split at inside
      · simpa using inside
      · simp only [List.map_cons, List.mem_cons] at inside ⊢
        rcases inside with here | later
        · exact .inr (.inl here)
        · exact (ih later).imp id .inr

/-- Storing a value keeps the order of the names. -/
theorem sorted_putEntry (name : Text) (value : α) (entries : List (Text × α))
    (sorted : (entries.map Prod.fst).Pairwise (fun a b => Text.before a b = true)) :
    ((putEntry name value entries).map Prod.fst).Pairwise
      (fun a b => Text.before a b = true) := by
  induction entries with
  | nil => simp [putEntry]
  | cons entry rest ih =>
    have ⟨first, later⟩ := List.pairwise_cons.mp sorted
    -- What stands behind the head is never ahead of it, whether it was there or is new.
    unfold putEntry
    split
    · rename_i same
      exact List.pairwise_cons.mpr ⟨fun a inside => same ▸ first a inside, later⟩
    · split
      · rename_i ahead
        refine List.pairwise_cons.mpr ⟨fun a inside => ?_, sorted⟩
        rcases List.mem_cons.mp inside with rfl | inside
        · exact ahead
        · exact Text.before_trans ahead (first a inside)
      · rename_i apart behind
        refine List.pairwise_cons.mpr ⟨fun a inside => ?_, ih later⟩
        rcases mem_names_putEntry inside with rfl | inside
        · -- A different name that is not ahead of the head comes after it.
          exact (Text.before_or_before apart).resolve_right behind
        · exact first a inside

/-- Stores a value under a name. -/
def put (index : Index α) (name : Text) (value : α) : Index α where
  entries := putEntry name value index.entries
  sorted := sorted_putEntry name value index.entries index.sorted

/-- Removes the entry of a name. -/
def erase (index : Index α) (name : Text) : Index α where
  entries := index.entries.filter (·.1 ≠ name)
  sorted := index.sorted.sublist (List.filter_sublist.map _)

/-- The index of the given pairs; a later value of a name wins. -/
def ofPairs (pairs : List (Text × α)) : Index α :=
  pairs.foldl (fun index pair => index.put pair.1 pair.2) empty

theorem lookup_putEntry (name other : Text) (value : α) (entries : List (Text × α)) :
    (putEntry name value entries).lookup other =
      if other = name then some value else entries.lookup other := by
  induction entries with
  | nil => simp [putEntry, Table.lookup_cons_pair]
  | cons entry rest ih =>
    -- Wherever the new entry goes, no earlier entry has its name.
    obtain ⟨first, stored⟩ := entry
    simp only [putEntry]
    split
    · simp only [Table.lookup_cons_pair]
      grind
    · split
      · simp only [Table.lookup_cons_pair]
      · simp only [Table.lookup_cons_pair, ih]
        grind

/-- Reading after a write gives the written value at its name and the old one elsewhere. -/
@[simp] theorem get?_put (index : Index α) (name other : Text) (value : α) :
    (index.put name value).get? other =
      if other = name then some value else index.get? other :=
  lookup_putEntry name other value index.entries

end Index

end Docket
