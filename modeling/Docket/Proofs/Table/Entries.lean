import Docket.Table.Index
import Docket.Table.Sheet

/-!
Tables are determined by what is stored in them: a sheet by the order of its keys and their values,
an index by its entries. Putting the entries in one by one gives the table back.
-/

namespace Docket.Sheet

variable {κ α : Type}

/-- Sheets with the same entries are the same. -/
@[ext] theorem ext {left right : Sheet κ α} (same : left.entries = right.entries) :
    left = right := by
  cases left
  cases right
  cases same
  rfl

variable [DecidableEq κ]

/-- A key is one of a sheet exactly if a value is stored for it. -/
theorem mem_keys_iff {sheet : Sheet κ α} {key : κ} :
    key ∈ sheet.keys ↔ (sheet.get? key).isSome = true :=
  Table.mem_map_fst_iff

/-- Entries with the same different keys in the same order are the same if look-ups agree. -/
theorem entries_eq_of_lookup {left right : List (κ × α)} (distinct : (left.map Prod.fst).Nodup)
    (sameKeys : left.map Prod.fst = right.map Prod.fst)
    (sameValues : ∀ key, left.lookup key = right.lookup key) : left = right := by
  -- The heads answer for their own key, and the tails for every other one.
  induction left generalizing right with
  | nil => exact (List.map_eq_nil_iff.mp sameKeys.symm).symm
  | cons entry rest ih =>
    obtain ⟨key, value⟩ := entry
    cases right with
    | nil => simp at sameKeys
    | cons head others =>
      obtain ⟨other, stored⟩ := head
      obtain ⟨same, sameRest⟩ := List.cons.inj sameKeys
      obtain rfl : key = other := same
      have fresh : key ∉ rest.map Prod.fst := (List.nodup_cons.mp distinct).1
      have value_eq : value = stored := by simpa using sameValues key
      have rest_eq : rest = others := by
        refine ih (List.nodup_cons.mp distinct).2 sameRest fun wanted => ?_
        by_cases here : wanted = key
        · -- The key of the heads does not come again in either tail.
          subst here
          have absent {entries : List (κ × α)} (missing : wanted ∉ entries.map Prod.fst) :
              entries.lookup wanted = none := by
            rwa [Table.mem_map_fst_iff, Option.not_isSome_iff_eq_none] at missing
          rw [absent fresh, absent (sameRest ▸ fresh)]
        · simpa [Table.lookup_cons_pair, here] using sameValues wanted
      rw [value_eq, rest_eq]

/-- Sheets with the same keys in the same order are the same if look-ups agree. -/
theorem ext_of_get? {left right : Sheet κ α} (sameKeys : left.keys = right.keys)
    (sameValues : ∀ key, left.get? key = right.get? key) : left = right :=
  ext (entries_eq_of_lookup left.distinct sameKeys sameValues)

/-- A write under a key that is there keeps the keys. -/
theorem keys_put_of_mem {sheet : Sheet κ α} {key : κ} (known : key ∈ sheet.keys) (value : α) :
    (sheet.put key value).keys = sheet.keys := by
  rw [keys_put, if_pos known]

/-- Pairs are put behind those that were put before. -/
theorem putAll_append (sheet : Sheet κ α) (pairs more : List (κ × α)) :
    sheet.putAll (pairs ++ more) = (sheet.putAll pairs).putAll more :=
  List.foldl_append

/-- A key that no entry has is put at the end. -/
theorem putEntry_last {key : κ} (value : α) {entries : List (κ × α)}
    (fresh : key ∉ entries.map Prod.fst) :
    putEntry key value entries = entries ++ [(key, value)] := by
  -- The walk passes every entry, since none has the key.
  induction entries with
  | nil => rfl
  | cons entry rest ih =>
    obtain ⟨apart, fresh⟩ := List.ne_and_not_mem_of_not_mem_cons fresh
    rw [putEntry, if_neg apart.symm, ih fresh, List.cons_append]

/-- Pairs of different new keys are put behind the entries that are there. -/
theorem entries_putAll (sheet : Sheet κ α) (pairs : List (κ × α))
    (distinct : ((sheet.entries ++ pairs).map Prod.fst).Nodup) :
    (sheet.putAll pairs).entries = sheet.entries ++ pairs := by
  -- Each pair has a key that is not there yet, so it is put at the end.
  induction pairs generalizing sheet with
  | nil => rw [List.append_nil]; rfl
  | cons pair rest ih =>
    have fresh : pair.1 ∉ sheet.entries.map Prod.fst := by
      intro inside
      rw [List.map_append, List.nodup_append] at distinct
      exact distinct.2.2 pair.1 inside pair.1 (by simp) rfl
    have put : (sheet.put pair.1 pair.2).entries = sheet.entries ++ [pair] :=
      putEntry_last pair.2 fresh
    rw [List.append_cons, ← put] at distinct ⊢
    exact ih (sheet.put pair.1 pair.2) distinct

/-- The sheet of the entries of a sheet is that sheet. -/
@[simp] theorem ofPairs_entries (sheet : Sheet κ α) : ofPairs sheet.entries = sheet :=
  ext (entries_putAll empty sheet.entries sheet.distinct)

end Docket.Sheet

namespace Docket.Index

variable {α : Type}

/-- Indexes with the same entries are the same. -/
@[ext] theorem ext {left right : Index α} (same : left.entries = right.entries) : left = right := by
  cases left
  cases right
  cases same
  rfl

/-- A name is one of an index exactly if a value is stored for it. -/
theorem mem_names_iff {index : Index α} {name : Text} :
    name ∈ index.names ↔ (index.get? name).isSome = true :=
  Table.mem_map_fst_iff

/-- The names of an index are different from each other. -/
theorem names_nodup (index : Index α) : index.names.Nodup :=
  index.sorted.imp fun ahead same => by simp [same] at ahead

/-- A value is stored for a name exactly if the index has that entry. -/
theorem mem_entries_iff {index : Index α} {name : Text} {value : α} :
    (name, value) ∈ index.entries ↔ index.get? name = some value := by
  -- The head answers for its own name, which no later entry has.
  have distinct : (index.entries.map Prod.fst).Nodup := index.names_nodup
  unfold get?
  generalize index.entries = entries at distinct ⊢
  induction entries with
  | nil => simp
  | cons entry rest ih =>
    obtain ⟨first, stored⟩ := entry
    obtain ⟨fresh, others⟩ := List.nodup_cons.mp distinct
    have later : (name, value) ∈ rest ↔ rest.lookup name = some value := ih others
    rw [List.mem_cons, later, Table.lookup_cons_pair, Prod.mk.injEq]
    split
    · rename_i same
      subst same
      have absent : rest.lookup name = none := by
        rwa [← Option.not_isSome_iff_eq_none, ← Table.mem_map_fst_iff]
      simp [absent, eq_comm]
    · rename_i other
      simp [other]

/-- Reading after a removal finds nothing under its name and the old value elsewhere. -/
@[simp] theorem get?_erase (index : Index α) (name other : Text) :
    (index.erase name).get? other = if other = name then none else index.get? other :=
  Table.lookup_filter_ne name other index.entries

/-- A name behind all others is put at the end. -/
theorem putEntry_last {name : Text} (value : α) {entries : List (Text × α)}
    (behind : ∀ entry ∈ entries, Text.before entry.1 name = true) :
    putEntry name value entries = entries ++ [(name, value)] := by
  -- The walk passes every entry, since none has the name or stands behind it.
  induction entries with
  | nil => rfl
  | cons entry rest ih =>
    have ahead := behind entry (.head _)
    have apart : entry.1 ≠ name := by
      intro same
      rw [same, Text.before_irrefl] at ahead
      exact Bool.false_ne_true ahead
    have not_before : ¬ Text.before name entry.1 = true := by
      intro before
      have loop := Text.before_trans ahead before
      rw [Text.before_irrefl] at loop
      exact Bool.false_ne_true loop
    rw [putEntry, if_neg apart, if_neg not_before,
      ih fun later inside => behind later (.tail _ inside), List.cons_append]

/-- Pairs in the order of their names are put behind the entries that are there. -/
theorem entries_foldl_put (index : Index α) (pairs : List (Text × α))
    (sorted : ((index.entries ++ pairs).map Prod.fst).Pairwise
      fun a b => Text.before a b = true) :
    (pairs.foldl (fun index pair => index.put pair.1 pair.2) index).entries =
      index.entries ++ pairs := by
  -- Each pair comes behind all that are there, so it is put at the end.
  induction pairs generalizing index with
  | nil => simp
  | cons pair rest ih =>
    have behind : ∀ entry ∈ index.entries, Text.before entry.1 pair.1 = true := by
      intro entry inside
      rw [List.map_append, List.pairwise_append] at sorted
      exact sorted.2.2 entry.1 (List.mem_map_of_mem inside) pair.1 (by simp)
    have put : (index.put pair.1 pair.2).entries = index.entries ++ [pair] :=
      putEntry_last pair.2 behind
    rw [List.foldl_cons, ih, put, List.append_assoc, List.singleton_append]
    rwa [put, List.append_assoc, List.singleton_append]

/-- The index of the entries of an index is that index. -/
@[simp] theorem ofPairs_entries (index : Index α) : ofPairs index.entries = index :=
  ext (entries_foldl_put empty index.entries index.sorted)

end Docket.Index
