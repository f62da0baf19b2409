import Docket.Counter.Store
import Docket.Proofs.Table.Entries
import Docket.Proofs.Text.Decimal

/-! What each operation does to each counter: of a table, and of a store whose file may refuse. -/

namespace Docket.Counter

namespace Table

/-- The group of a category after another one was put in. -/
@[simp] theorem group_putGroup (table : Table) (category other : Category) (group : Group) :
    (table.putGroup category group).group other =
      if other = category then group else table.group other := by
  -- A group that is there is the one that counts.
  simp only [Table.group, group?_putGroup]
  split <;> rfl

/-- Reading after a write gives the written value for its counter and the old one for the others. -/
@[simp] theorem get?_put (table : Table) (category other : Category) (name another : Text)
    (value : Int64) : (table.put category name value).get? other another =
      if other = category ∧ another = name then some value else table.get? other another := by
  unfold get? put
  rw [group_putGroup]
  by_cases same : other = category
  · -- In the category itself the index decides.
    simp [same]
  · simp [same]

/-- Reading after a removal finds all counters but the one that was removed. -/
@[simp] theorem get?_remove (table : Table) (category other : Category) (name another : Text) :
    (table.remove category name).get? other another =
      if other = category ∧ another = name then none else table.get? other another := by
  unfold remove
  cases found : table.group? category with
  | none =>
    -- A category that is not mentioned has no counters to begin with.
    have empty : table.get? category name = none := by
      simp only [get?, Table.group, found, Option.getD_none]
      rfl
    by_cases same : other = category ∧ another = name
    · rw [if_pos same, same.1, same.2, empty]
    · rw [if_neg same]
  | some group =>
    -- In the group itself the entry of the name is gone; other groups are not touched.
    have whole : table.group category = group := by simp [Table.group, found]
    simp only [get?, group_putGroup]
    by_cases same : other = category
    · simp [same, whole]
    · simp [same]

/-- A write leaves every other counter as it is. -/
theorem get?_put_of_apart {category other : Category} {name another : Text}
    (apart : ¬ (category = other ∧ name = another)) (table : Table) (value : Int64) :
    (table.put category name value).get? other another = table.get? other another := by
  rw [get?_put, if_neg]
  rintro ⟨rfl, rfl⟩
  exact apart ⟨rfl, rfl⟩

/-- A removal leaves every other counter as it is. -/
theorem get?_remove_of_apart {category other : Category} {name another : Text}
    (apart : ¬ (category = other ∧ name = another)) (table : Table) :
    (table.remove category name).get? other another = table.get? other another := by
  rw [get?_remove, if_neg]
  rintro ⟨rfl, rfl⟩
  exact apart ⟨rfl, rfl⟩

/-- Reading after a clearing finds the counters of the other categories. -/
@[simp] theorem get?_clear (table : Table) (category other : Category) (name : Text) :
    (table.clear category).get? other name =
      if other = category then none else table.get? other name := by
  unfold clear
  -- A category that is not mentioned has nothing to lose.
  cases found : table.group? category with
  | none =>
    have empty : table.get? category name = none := by
      simp only [get?, Table.group, found, Option.getD_none]
      rfl
    by_cases same : other = category
    · rw [if_pos same, same, empty]
    · rw [if_neg same]
  | some group =>
    simp only [get?, group_putGroup]
    by_cases same : other = category
    · simp only [if_pos same]
      rfl
    · simp [same]

/-- An advance hands out what the counter holds, or the start, and moves the counter on by the step,
or it fails because the step leads out of 64 bits. -/
theorem advance_cases (table : Table) (category : Category) (name : Text) (start step : Int64) :
    (∃ next : Int64,
      next.toInt = ((table.get? category name).getD start).toInt + step.toInt ∧
      table.advance category name start step =
        (.ok ((table.get? category name).getD start), table.put category name next)) ∨
    (Text.fits (((table.get? category name).getD start).toInt + step.toInt) = false ∧
      (table.advance category name start step).1 = .error (.overflow category name)) := by
  unfold advance
  by_cases fits : Text.fits
      (((table.get? category name).getD start).toInt + step.toInt) = true
  · -- A sum that fits is not changed by being stored.
    left
    refine ⟨_, Text.toInt_ofInt_of_fits fits, ?_⟩
    simp only [fits, if_true]
  · right
    have beyond := Bool.eq_false_iff.mpr fits
    exact ⟨beyond, by simp [beyond]⟩

end Table

namespace Store

/-- A change of a store is adopted as a whole, or its file refuses it and nothing has changed. -/
theorem commit_cases {α : Type} (store : Store) (answer : α) (next : Table) (disk : Disk) :
    (∃ after, store.commit answer next disk =
      (.ok answer, { store with table := next }, after)) ∨
    ∃ path after, store.path = some path ∧
      store.commit answer next disk = (.error (.inaccessible path), store, after) := by
  unfold commit adopt
  by_cases same : next = store.table
  · -- An unchanged table need not be written.
    rw [if_pos same, same]
    exact .inl ⟨disk, rfl⟩
  · rw [if_neg same]
    cases backing : store.path with
    | none => exact .inl ⟨disk, rfl⟩
    | some path =>
      -- The table is adopted once the file holds it.
      simp only [persist]
      cases replaced : disk.replace path (.text (fileText next)) with
      | mk outcome after =>
        cases outcome with
        | ok done => exact .inl ⟨after, by rw [← backing]⟩
        | error fault => exact .inr ⟨path, after, rfl, rfl⟩

/-- An advance of a store hands out what the counter holds, or the start, and moves the counter on
by the step. If it fails nothing has changed, and either the step leads out of 64 bits or the file
of the store refuses. -/
theorem advance_cases (store : Store) (category : Category) (name : Text) (start step : Int64)
    (disk : Disk) :
    (∃ next : Int64, ∃ after,
      next.toInt = ((store.get? category name).getD start).toInt + step.toInt ∧
      store.advance category name start step disk = (.ok ((store.get? category name).getD start),
        { store with table := store.table.put category name next }, after)) ∨
    (Text.fits (((store.get? category name).getD start).toInt + step.toInt) = false ∧
      store.advance category name start step disk =
        (.error (.overflow category name), store, disk)) ∨
    ∃ path after, store.path = some path ∧
      store.advance category name start step disk =
        (.error (.inaccessible path), store, after) := by
  unfold advance get?
  rcases store.table.advance_cases category name start step with
    ⟨next, moved, advanced⟩ | ⟨beyond, failed⟩
  · -- The table has moved on, and the store adopts it or not.
    simp only [advanced]
    rcases store.commit_cases ((store.table.get? category name).getD start)
      (store.table.put category name next) disk with ⟨after, done⟩ | ⟨path, after, backing, refused⟩
    · exact .inl ⟨next, after, moved, done⟩
    · exact .inr (.inr ⟨path, after, backing, refused⟩)
  · -- Nothing is written when the table does not move.
    refine .inr (.inl ⟨beyond, ?_⟩)
    cases outcome : store.table.advance category name start step with
    | mk result same =>
      rw [outcome] at failed
      simp only at failed
      simp only [failed]

end Store

end Docket.Counter
