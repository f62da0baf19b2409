import Docket.Proofs.Field.Graph
import Docket.Proofs.Field.Publication

/-! The report on early references agrees with passes: what it lists are the references that find no
value when their field is evaluated. -/

namespace Docket

variable {fields : List Field} {engine : Engine} {now : Instant} {desk : Desk}

namespace Desk

/-- Evaluating a field defines its name and leaves the others. -/
theorem get?_evaluateField {field : Field} {name : Text} :
    (desk.evaluateField engine now field).bindings.get? name =
      if name = field.name then some (desk.fieldValue engine now field).1
      else desk.bindings.get? name :=
  Sheet.get?_put _ _ _ _

/-- A pass evaluates its first field and goes on with the others. -/
theorem pass_cons (field : Field) (rest : List Field) (desk : Desk) :
    pass engine now (field :: rest) desk =
      pass engine now rest (desk.evaluateField engine now field) := rfl

/-- A pass defines the names of its fields and no others. -/
theorem get?_pass_eq_none_iff {name : Text} :
    (pass engine now fields desk).bindings.get? name = none ↔
      desk.bindings.get? name = none ∧ name ∉ fields.map Field.name := by
  induction fields generalizing desk with
  | nil => simp [pass]
  | cons field rest ih =>
    -- The first field defines its own name, and the rest of the pass goes on from there.
    rw [pass_cons, ih, get?_evaluateField, List.map_cons, List.mem_cons]
    by_cases here : name = field.name
    · simp [here]
    · simp [here]

end Desk

namespace Dependency

/-- The forward references of a field at a position. -/
theorem mem_forwardAt_iff {field : Field} {position : Nat} {forward : ForwardReference} :
    forward ∈ forwardAt fields position field ↔
      forward.field = field.name ∧ forward.position = position ∧
        forward.reference ∈ Reference.names field.expression ∧
        FirstDeclared fields forward.reference forward.declaredAt ∧
        position ≤ forward.declaredAt := by
  -- A reference is listed if the first declaration of its name is not earlier than the field.
  simp only [forwardAt, List.mem_map, List.mem_filter, Prod.exists, mem_declaredReferences_iff,
    decide_eq_true_eq]
  constructor
  · rintro ⟨name, place, ⟨⟨referred, first⟩, late⟩, rfl⟩
    exact ⟨rfl, rfl, referred, first, late⟩
  · obtain ⟨source, at_, name, place⟩ := forward
    rintro ⟨rfl, rfl, referred, first, late⟩
    exact ⟨name, place, ⟨⟨referred, first⟩, late⟩, rfl⟩

/-- The forward references are those of each field at its own position. -/
theorem mem_forwardReferences_iff {forward : ForwardReference} :
    forward ∈ forwardReferences fields ↔ ∃ (position : Nat) (inside : position < fields.length),
      forward ∈ forwardAt fields position fields[position] := by
  -- The fields are listed with their positions, and each of them brings its own references.
  simp only [forwardReferences, List.mem_flatten, List.mem_map, Prod.exists]
  constructor
  · rintro ⟨_, ⟨field, position, placed, rfl⟩, there⟩
    obtain ⟨inside, rfl⟩ := mem_zipIdx_iff.mp placed
    exact ⟨position, inside, there⟩
  · rintro ⟨position, inside, there⟩
    exact ⟨_, ⟨_, position, mem_zipIdx_iff.mpr ⟨inside, rfl⟩, rfl⟩, there⟩

end Dependency

namespace DependencyReport

open Dependency

/-- The forward references that the report lists for one field and one name. -/
theorem mem_forward_iff {position : Nat} (inside : position < fields.length) {name : Text}
    {first : Nat} (referred : name ∈ Reference.names fields[position].expression)
    (declared : FirstDeclared fields name first) {forward : ForwardReference} :
    forward ∈ (ofFields fields).forward ∧ forward.position = position ∧ forward.reference = name ↔
      position ≤ first ∧ forward = ⟨fields[position].name, position, name, first⟩ := by
  -- The report lists what the fields list, one after the other.
  have unfolded : forward ∈ (ofFields fields).forward ↔ _ := mem_forwardReferences_iff
  rw [unfolded]
  constructor
  · -- The place that is listed is where the name is first declared, and there is one such place.
    rintro ⟨⟨_, _, there⟩, rfl, rfl⟩
    obtain ⟨source, same, -, place, late⟩ := mem_forwardAt_iff.mp there
    subst same
    obtain rfl := declared.unique place
    exact ⟨late, by rw [← source]⟩
  · rintro ⟨late, rfl⟩
    exact ⟨⟨position, inside, mem_forwardAt_iff.mpr ⟨rfl, rfl, referred, declared, late⟩⟩, rfl, rfl⟩

/-- A reference to a declared name that has no value before a pass is listed as a forward reference
exactly if it has no value either when the pass comes to its field. It is listed with the field, its
position, and the place of the first declaration of the name. -/
theorem forward_iff_missing (engine : Engine) (now : Instant) (fields : List Field) (desk : Desk)
    (position : Nat) (inside : position < fields.length) (name : Text)
    (referred : name ∈ Reference.names fields[position].expression)
    (declared : name ∈ fields.map Field.name) (fresh : desk.bindings.get? name = none) :
    let listed := (ofFields fields).forward
    let stage := Desk.pass engine now (fields.take position) desk
    ∃ first, FirstDeclared fields name first ∧
      ((∃ forward ∈ listed, forward.position = position ∧ forward.reference = name) ↔
        stage.bindings.get? name = none) ∧
      ∀ forward ∈ listed, forward.position = position → forward.reference = name →
        forward = ⟨fields[position].name, position, name, first⟩ := by
  intro listed stage
  -- The name has a first declaration, and the list of forward references tells which one.
  obtain ⟨first, place⟩ := exists_firstDeclared declared
  have entry {forward : ForwardReference} := @mem_forward_iff _ _ inside _ _ referred place forward
  -- The fields before the position define the name exactly if its first declaration is there.
  have missing : stage.bindings.get? name = none ↔ position ≤ first := by
    rw [Desk.get?_pass_eq_none_iff, ← place.lt_iff, Nat.not_lt]
    exact ⟨And.right, fun late => ⟨fresh, late⟩⟩
  refine ⟨first, place, ?_, fun forward there at_ names => (entry.mp ⟨there, at_, names⟩).2⟩
  rw [missing]
  constructor
  · rintro ⟨forward, there⟩
    exact (entry.mp there).1
  · intro late
    exact ⟨_, entry.mpr ⟨late, rfl⟩⟩

/-- A field that refers to its own name, which is defined again behind it, and to a name that was
defined before it. -/
theorem forward_iff_missing_own_name :
    let engine : Engine := ⟨.empty, .standard, none, .none⟩
    let fields : List Field := [⟨"A".toList, "<B>".toList, .script⟩,
      ⟨"B".toList, "<A><B>+<B>".toList, .expression⟩, ⟨"B".toList, "<B>".toList, .expression⟩]
    let desk : Desk := ⟨.ofPairs [("C".toList, [])], .empty, engine.resources .inMemory default⟩
    let listed := (ofFields fields).forward
    let stage := Desk.pass engine default (fields.take 1) desk
    ("B".toList ∈ Reference.names "<A><B>+<B>".toList ∧ "B".toList ∈ fields.map Field.name ∧
      desk.bindings.get? "B".toList = none) ∧
    ∃ first, FirstDeclared fields "B".toList first ∧
      ((∃ forward ∈ listed, forward.position = 1 ∧ forward.reference = "B".toList) ↔
        stage.bindings.get? "B".toList = none) ∧
      ∀ forward ∈ listed, forward.position = 1 → forward.reference = "B".toList →
        forward = ⟨"B".toList, 1, "B".toList, first⟩ := by
  intro engine fields desk listed stage
  -- The conditions are evaluated; the rest is the general theorem at the second field.
  have referred : "B".toList ∈ Reference.names "<A><B>+<B>".toList := by decide +kernel
  have declared : "B".toList ∈ fields.map Field.name := by decide +kernel
  have fresh : desk.bindings.get? "B".toList = none := by decide +kernel
  exact ⟨⟨referred, declared, fresh⟩,
    forward_iff_missing engine default fields desk 1 (by decide) "B".toList referred declared fresh⟩

end DependencyReport

end Docket
