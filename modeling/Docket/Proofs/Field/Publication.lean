import Docket.Field.Pass
import Mathlib.Data.List.Induction

/-! A pass publishes every field once, in order: each value comes from what the fields before it
have left, the last value of a name counts, and everything else stays as it is. -/

namespace Docket.Desk

/-- The values that a pass computes, one for each field. -/
def values (engine : Engine) (now : Instant) : List Field → Desk → List Text
  | [], _ => []
  | field :: rest, desk =>
    (desk.fieldValue engine now field).1 ::
      values engine now rest (desk.evaluateField engine now field)

/-- What a desk has become after fields were published with their values. -/
structure Published (fields : List Field) (values : List Text) (before after : Desk) : Prop where
  /-- Under the name of a field there is the value of its last definition. -/
  last : ∀ (i : Nat) (inside : i < fields.length) (valued : i < values.length),
    (∀ (j : Nat) (later : j < fields.length), i < j → fields[j].name ≠ fields[i].name) →
      after.bindings.get? fields[i].name = some values[i] ∧
        after.document.get? fields[i].name = some values[i]
  /-- Under every other name there is what was there before. -/
  others : ∀ name, name ∉ fields.map Field.name →
    after.bindings.get? name = before.bindings.get? name ∧
      after.document.get? name = before.document.get? name
  /-- New names stand behind the old ones, in the order in which they first came. -/
  order : after.document.keys = before.document.keys ++
    ((fields.map Field.name).filter (· ∉ before.document.keys)).eraseDups
  /-- No name stands in the document twice. -/
  distinct : after.document.keys.Nodup

namespace Published

variable {fields : List Field} {values : List Text} {before after : Desk}

/-- Nothing has been published at first. -/
theorem start (desk : Desk) : Published [] [] desk desk where
  last := fun i inside => absurd inside (Nat.not_lt_zero i)
  others := fun _ _ => ⟨rfl, rfl⟩
  order := by simp
  distinct := desk.document.distinct

/-- One more name comes behind those that are known or came before it, if it is none of them. -/
theorem order_append (known names : List Text) (name : Text) :
    known ++ ((names ++ [name]).filter (· ∉ known)).eraseDups =
      if name ∈ known ++ (names.filter (· ∉ known)).eraseDups
      then known ++ (names.filter (· ∉ known)).eraseDups
      else known ++ (names.filter (· ∉ known)).eraseDups ++ [name] := by
  have alone : [name].eraseDups = [name] := by simp [List.eraseDups_cons]
  -- The name is known already, came before, or is new.
  by_cases old : name ∈ known
  · simp [old]
  · by_cases came : name ∈ names <;>
      simp [old, came, alone, List.eraseDups_append, List.removeAll]

/-- Publishing one more field lets its value count under its name. -/
theorem publish (published : Published fields values before after)
    (paired : values.length = fields.length) (field : Field) (value : Text)
    (resources : Resources) :
    Published (fields ++ [field]) (values ++ [value]) before
      (after.publish field.name value resources) where
  last := by
    intro i inside valued final
    rcases Nat.lt_or_ge i fields.length with old | new
    · -- An older definition counts only if the new one has another name.
      have apart : fields[i].name ≠ field.name := by
        have other := final fields.length (by simp) old
        simpa [List.getElem_append_left old, eq_comm] using other
      have final : ∀ (j : Nat) (later : j < fields.length), i < j →
          fields[j].name ≠ fields[i].name := by
        intro j later behind
        have other := final j (by simp; omega) behind
        simpa [List.getElem_append_left old, List.getElem_append_left later] using other
      have held := published.last i old (by omega) final
      simpa [Desk.publish, List.getElem_append_left old, List.getElem_append_left (paired ▸ old),
        apart] using held
    · -- The new definition is the last one, and its value has just been stored.
      obtain rfl : i = fields.length := by
        rw [List.length_append, List.length_singleton] at inside
        omega
      simp [Desk.publish, ← paired]
  others := by
    intro name absent
    simp only [List.map_append, List.map_singleton, List.mem_append, List.mem_singleton,
      not_or] at absent
    simpa [Desk.publish, absent.2] using published.others name absent.1
  -- A name that is in the document keeps its place, a new one comes last.
  order := by
    rw [Desk.publish, Sheet.keys_put, published.order, List.map_append, List.map_singleton,
      order_append]
    split <;> rfl
  distinct := (after.publish field.name value resources).document.distinct

end Published

variable {engine : Engine} {now : Instant}

/-- A pass over more fields goes on with the desk that the fields before them have left. -/
theorem pass_append (front back : List Field) (desk : Desk) :
    pass engine now (front ++ back) desk = pass engine now back (pass engine now front desk) :=
  List.foldl_append

/-- The values of more fields come behind those of the fields before them. -/
theorem values_append (front back : List Field) (desk : Desk) :
    values engine now (front ++ back) desk =
      values engine now front desk ++ values engine now back (pass engine now front desk) := by
  induction front generalizing desk with
  | nil => rfl
  | cons field rest ih =>
    rw [List.cons_append, values, values, ih, List.cons_append]
    rfl

/-- There is one value for each field. -/
theorem length_values (fields : List Field) (desk : Desk) :
    (values engine now fields desk).length = fields.length := by
  induction fields generalizing desk with
  | nil => rfl
  | cons field rest ih => rw [values, List.length_cons, ih, List.length_cons]

/-- A pass publishes the values that it computes. -/
theorem pass_published (fields : List Field) (desk : Desk) :
    Published fields (values engine now fields desk) desk (pass engine now fields desk) := by
  -- The last field is published on the desk that the fields before it have left.
  induction fields using List.reverseRecOn with
  | nil => exact .start desk
  | append_singleton front field ih =>
    rw [values_append, pass_append]
    exact ih.publish (length_values front desk) field _ _

/-- The values of the first fields are the first values. -/
theorem values_take (fields : List Field) (desk : Desk) (i : Nat) :
    values engine now (fields.take i) desk = (values engine now fields desk).take i := by
  induction fields generalizing desk i with
  | nil => simp [values]
  | cons field rest ih =>
    cases i with
    | zero => rfl
    | succ i => rw [List.take_succ_cons, values, values, List.take_succ_cons, ih]

/-- A field has its value from the desk that the fields before it have left. -/
theorem getElem_values (fields : List Field) (desk : Desk) (i : Nat) (inside : i < fields.length)
    (valued : i < (values engine now fields desk).length) :
    (values engine now fields desk)[i] =
      ((pass engine now (fields.take i) desk).fieldValue engine now fields[i]).1 := by
  induction fields generalizing desk i with
  | nil => exact absurd inside (Nat.not_lt_zero i)
  | cons field rest ih =>
    -- The first field is evaluated on the desk itself, a later one on what the first has left.
    cases i with
    | zero => rfl
    | succ i => exact ih _ i (Nat.lt_of_succ_lt_succ inside) (Nat.lt_of_succ_lt_succ valued)

/-- A pass over one more field evaluates that field on the desk that the fields before it have
left. -/
theorem pass_take_succ (fields : List Field) (desk : Desk) (i : Nat) (inside : i < fields.length) :
    pass engine now (fields.take (i + 1)) desk =
      (pass engine now (fields.take i) desk).evaluateField engine now fields[i] := by
  rw [List.take_succ_eq_append_getElem inside, pass_append]
  rfl

/-- A pass computes the value of every field exactly once: from the variables with the values of the
fields before it, and with the resources that these have left. An empty expression gives an empty
value and uses no resources. -/
theorem pass_publishes_once (engine : Engine) (now : Instant) (fields : List Field) (desk : Desk) :
    let values := values engine now fields desk
    let stage (i : Nat) := pass engine now (fields.take i) desk
    (stage 0 = desk ∧ stage fields.length = pass engine now fields desk) ∧
    values.length = fields.length ∧
    (∀ (i : Nat) (inside : i < fields.length) (valued : i < values.length),
      (values[i], (stage (i + 1)).resources) =
        if fields[i].expression.isEmpty then ([], (stage i).resources)
        else engine.evaluate now (stage i).bindings fields[i].formula (stage i).resources) ∧
    (∀ i, Published (fields.take i) (values.take i) desk (stage i)) ∧
    Published fields values desk (pass engine now fields desk) := by
  intro values stage
  refine ⟨⟨rfl, ?_⟩, length_values fields desk, ?_, ?_, pass_published fields desk⟩
  · simp only [stage, List.take_length]
  · intro i inside valued
    -- What stands at a position is what evaluating the field gives on the desk of that stage.
    have once : (values[i], (stage (i + 1)).resources) =
        (stage i).fieldValue engine now fields[i] := by
      simp only [values, stage, getElem_values fields desk i inside valued,
        pass_take_succ fields desk i inside]
      rfl
    rw [once, fieldValue]
  · intro i
    -- After the first fields the desk is that of a pass over these alone.
    have published := @pass_published engine now (fields.take i) desk
    rwa [values_take] at published

/-- The second definition of a name sees the value of the first one; the name keeps its place. -/
example :
    let engine : Engine := ⟨.empty, .standard, none, .none⟩
    let fields : List Field := [⟨"A".toList, "one".toList, .expression⟩, ⟨"B".toList, [], .script⟩,
      ⟨"A".toList, "<A>+two".toList, .expression⟩]
    let desk : Desk := ⟨.empty, .ofPairs [("C".toList, [])], engine.resources .inMemory default⟩
    values engine default fields desk = ["one".toList, [], "one+two".toList] ∧
      (pass engine default fields desk).document.keys =
        ["C".toList, "A".toList, "B".toList] := by
  decide +kernel

end Docket.Desk
