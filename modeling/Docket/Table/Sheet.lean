import Docket.Table.Lookup

/-! Sheets: tables that list their entries in the order in which the keys first came. -/

namespace Docket

/-- A sheet holds at most one value for each key and remembers the order of the keys. -/
structure Sheet (κ α : Type) where
  entries : List (κ × α) := []
  distinct : (entries.map Prod.fst).Nodup := by simp
deriving DecidableEq

namespace Sheet

variable {κ α : Type} [DecidableEq κ]

/-- A sheet without entries. -/
def empty : Sheet κ α := {}

instance : Inhabited (Sheet κ α) := ⟨empty⟩

/-- The keys in sheet order. -/
def keys (sheet : Sheet κ α) : List κ :=
  sheet.entries.map Prod.fst

/-- The number of entries. -/
def size (sheet : Sheet κ α) : Nat :=
  sheet.entries.length

/-- The value stored for a key. -/
def get? (sheet : Sheet κ α) (key : κ) : Option α :=
  sheet.entries.lookup key

/-- Whether a key has a value. -/
def has (sheet : Sheet κ α) (key : κ) : Bool :=
  (sheet.get? key).isSome

/-- Entries with the value of one key replaced, or with a new entry at the end. -/
def putEntry (key : κ) (value : α) : List (κ × α) → List (κ × α)
  | [] => [(key, value)]
  | entry :: rest =>
    if entry.1 = key then (key, value) :: rest else entry :: putEntry key value rest

/-- Storing a value keeps the keys, except that a new key comes last. -/
theorem keys_putEntry (key : κ) (value : α) (entries : List (κ × α)) :
    (putEntry key value entries).map Prod.fst =
      if key ∈ entries.map Prod.fst then entries.map Prod.fst
      else entries.map Prod.fst ++ [key] := by
  -- The walk stops at the key if it is there and reaches the end otherwise.
  induction entries with
  | nil => simp [putEntry]
  | cons entry rest ih =>
    by_cases here : entry.1 = key
    · simp [putEntry, here]
    · have other : ¬ key = entry.1 := fun equal => here equal.symm
      simp only [putEntry, if_neg here, List.map_cons, ih, List.mem_cons, other, false_or]
      split <;> simp

/-- Stores a value under a key; a key that was there keeps its place. -/
def put (sheet : Sheet κ α) (key : κ) (value : α) : Sheet κ α where
  entries := putEntry key value sheet.entries
  distinct := by
    rw [keys_putEntry]
    split
    · exact sheet.distinct
    · rename_i absent
      refine List.nodup_append.mpr ⟨sheet.distinct, by simp, ?_⟩
      rintro a inside b last rfl
      exact absent (List.mem_singleton.mp last ▸ inside)

/-- Removes the entry of a key. -/
def erase (sheet : Sheet κ α) (key : κ) : Sheet κ α where
  entries := sheet.entries.filter (·.1 ≠ key)
  distinct := sheet.distinct.sublist (List.filter_sublist.map _)

/-- Stores every pair in turn, so that a later value of a key wins. -/
def putAll (sheet : Sheet κ α) (pairs : List (κ × α)) : Sheet κ α :=
  pairs.foldl (fun sheet pair => sheet.put pair.1 pair.2) sheet

/-- The sheet of the given pairs. -/
def ofPairs (pairs : List (κ × α)) : Sheet κ α :=
  empty.putAll pairs

theorem lookup_putEntry (key other : κ) (value : α) (entries : List (κ × α)) :
    (putEntry key value entries).lookup other =
      if other = key then some value else entries.lookup other := by
  induction entries with
  | nil => simp [putEntry, Table.lookup_cons_pair]
  | cons entry rest ih =>
    obtain ⟨first, stored⟩ := entry
    -- The entry with the key is replaced in its place; any other head stays and decides as before.
    by_cases here : first = key
    · simp [putEntry, here, Table.lookup_cons_pair]
      grind
    · simp [putEntry, here, Table.lookup_cons_pair, ih]
      grind

/-- Reading after a write gives the written value at its key and the old one elsewhere. -/
@[simp] theorem get?_put (sheet : Sheet κ α) (key other : κ) (value : α) :
    (sheet.put key value).get? other = if other = key then some value else sheet.get? other :=
  lookup_putEntry key other value sheet.entries

/-- Reading after a removal finds nothing at its key and the old value elsewhere. -/
@[simp] theorem get?_erase (sheet : Sheet κ α) (key other : κ) :
    (sheet.erase key).get? other = if other = key then none else sheet.get? other :=
  Table.lookup_filter_ne key other sheet.entries

/-- A write keeps the key order, and a new key comes last. -/
theorem keys_put (sheet : Sheet κ α) (key : κ) (value : α) :
    (sheet.put key value).keys =
      if key ∈ sheet.keys then sheet.keys else sheet.keys ++ [key] :=
  keys_putEntry key value sheet.entries

end Sheet

end Docket
