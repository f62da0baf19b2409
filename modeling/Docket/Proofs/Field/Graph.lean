import Docket.Field.Dependency
import Docket.Proofs.Table.Entries

/-! The graph of dependencies has the declared names, and its edges are the references between
their definitions. -/

namespace Docket.Dependency

variable {fields : List Field} {name target : Text} {place position : Nat}

/-- A name is first declared at a place if the field there has it and no field before. -/
def FirstDeclared (fields : List Field) (name : Text) (place : Nat) : Prop :=
  ∃ inside : place < fields.length, fields[place].name = name ∧
    ∀ (j : Nat) (earlier : j < place), fields[j].name ≠ name

/-- Looking for a declaration finds the first one. -/
theorem declaredAt?_eq_some_iff :
    declaredAt? fields name = some place ↔ FirstDeclared fields name place := by
  simp only [declaredAt?, FirstDeclared, List.findIdx?_eq_some_iff_getElem, beq_iff_eq, ne_eq]

/-- A name of a field has a first declaration. -/
theorem exists_firstDeclared (declared : name ∈ fields.map Field.name) :
    ∃ first, FirstDeclared fields name first := by
  obtain ⟨field, inside, rfl⟩ := List.mem_map.mp declared
  have found : (declaredAt? fields field.name).isSome = true := by
    rw [declaredAt?, List.findIdx?_isSome, List.any_eq_true]
    exact ⟨field, inside, beq_self_eq_true _⟩
  obtain ⟨first, found⟩ := Option.isSome_iff_exists.mp found
  exact ⟨first, declaredAt?_eq_some_iff.mp found⟩

/-- A name is first declared at one place only. -/
theorem FirstDeclared.unique {other : Nat} (here : FirstDeclared fields name place)
    (there : FirstDeclared fields name other) : place = other := by
  rw [← declaredAt?_eq_some_iff] at here there
  exact Option.some.inj (here.symm.trans there)

/-- What is first declared somewhere is the name of a field. -/
theorem FirstDeclared.declared (first : FirstDeclared fields name place) :
    name ∈ fields.map Field.name := by
  obtain ⟨inside, rfl, -⟩ := first
  exact List.mem_map_of_mem (List.getElem_mem inside)

/-- A field comes behind the first declaration of a name exactly if one before it has that name. -/
theorem FirstDeclared.lt_iff (first : FirstDeclared fields name place) :
    place < position ↔ name ∈ (fields.take position).map Field.name := by
  obtain ⟨inside, rfl, fresh⟩ := first
  constructor
  · intro before
    exact List.mem_map_of_mem (List.mem_take_iff_getElem.mpr ⟨place, by omega, rfl⟩)
  · intro known
    obtain ⟨field, taken, same⟩ := List.mem_map.mp known
    obtain ⟨j, bound, rfl⟩ := List.mem_take_iff_getElem.mp taken
    -- A field with the name does not come before its first declaration.
    have late : ¬ j < place := fun earlier => fresh j earlier same
    omega

/-- A name refers to a target if one of its definitions refers to it and the target is declared. A
definition does not count that refers to its own name behind the first declaration. -/
def Refers (fields : List Field) (name target : Text) : Prop :=
  ∃ (position : Nat) (inside : position < fields.length), fields[position].name = name ∧
    target ∈ Reference.names fields[position].expression ∧
    ∃ first, FirstDeclared fields target first ∧ (target ≠ name ∨ position ≤ first)

/-- The references of a field to declared names, with the first declarations of these. -/
theorem mem_declaredReferences_iff {field : Field} :
    (target, place) ∈ declaredReferences fields field ↔
      target ∈ Reference.names field.expression ∧ FirstDeclared fields target place := by
  -- A reference is kept with the place at which its name is first declared, if there is one.
  simp only [declaredReferences, List.mem_filterMap, Option.map_eq_some_iff, Prod.mk.injEq,
    declaredAt?_eq_some_iff]
  constructor
  · rintro ⟨_, referred, _, first, rfl, rfl⟩
    exact ⟨referred, first⟩
  · rintro ⟨referred, first⟩
    exact ⟨target, referred, place, first, rfl, rfl⟩

/-- What a field at a position depends on. -/
theorem mem_dependenciesAt_iff {field : Field} :
    target ∈ dependenciesAt fields position field ↔
      target ∈ Reference.names field.expression ∧
        ∃ first, FirstDeclared fields target first ∧ (target ≠ field.name ∨ position ≤ first) := by
  simp only [dependenciesAt, List.mem_map, List.mem_filter, Prod.exists, exists_and_right,
    exists_eq_right, mem_declaredReferences_iff, Bool.or_eq_true, bne_iff_ne, decide_eq_true_eq]
  exact ⟨fun ⟨first, ⟨referred, declared⟩, counts⟩ => ⟨referred, first, declared, counts⟩,
    fun ⟨referred, first, declared, counts⟩ => ⟨first, ⟨referred, declared⟩, counts⟩⟩

/-- An edge of a graph leads from a name to one of its targets. -/
def Edge (graph : Graph) (name target : Text) : Prop :=
  target ∈ targets graph name

/-- Adding names to a list brings these names and no others. -/
theorem mem_foldl_addName {names added : List Text} {other : Text} :
    other ∈ added.foldl addName names ↔ other ∈ names ∨ other ∈ added := by
  induction added generalizing names with
  | nil => simp
  | cons first rest ih =>
    -- One name is added only if it is not there, which makes no difference to membership.
    have one : other ∈ addName names first ↔ other ∈ names ∨ other = first := by
      unfold addName
      split
      · rename_i known
        exact ⟨.inl, fun either => either.elim id fun same =>
          same ▸ List.contains_iff_mem.mp known⟩
      · rw [List.mem_append, List.mem_singleton]
    rw [List.foldl_cons, ih, one, List.mem_cons, or_assoc]

/-- New edges lead from their own name to their targets, and nothing else changes. -/
theorem mem_targets_addEdges {graph : Graph} {added : List Text} {other : Text} :
    other ∈ targets (addEdges graph name added) target ↔
      other ∈ targets graph target ∨ (name = target ∧ other ∈ added) := by
  unfold targets addEdges
  rw [Sheet.get?_put]
  by_cases here : target = name
  · -- The write puts the new targets behind those that were stored before.
    rw [if_pos here, Option.getD_some, mem_foldl_addName, here]
    simp
  · rw [if_neg here]
    simp [Ne.symm here]

/-- The name of new edges is a name of the graph. -/
theorem mem_keys_addEdges {graph : Graph} {added : List Text} {other : Text} :
    other ∈ (addEdges graph name added).keys ↔ other ∈ graph.keys ∨ name = other := by
  unfold addEdges
  rw [Sheet.keys_put]
  split
  · rename_i known
    exact ⟨.inl, fun either => either.elim id fun same => same ▸ known⟩
  · rw [List.mem_append, List.mem_singleton, eq_comm]

/-- Fields are numbered by their positions. -/
theorem mem_zipIdx_iff {field : Field} : (field, position) ∈ fields.zipIdx ↔
    ∃ inside : position < fields.length, fields[position] = field := by
  rw [List.mem_zipIdx_iff_getElem?, List.getElem?_eq_some_iff]

/-- The step by which the graph takes in one field after the other. -/
def addField (fields : List Field) (graph : Graph) (placed : Field × Nat) : Graph :=
  addEdges graph placed.1.name (dependenciesAt fields placed.2 placed.1)

theorem graph_eq_foldl (fields : List Field) :
    graph fields = fields.zipIdx.foldl (addField fields) .empty := rfl

/-- Fields bring the edges of their own definitions. -/
theorem mem_targets_foldl_addField {list : List (Field × Nat)} {start : Graph} :
    target ∈ targets (list.foldl (addField fields) start) name ↔
      target ∈ targets start name ∨ ∃ placed ∈ list, placed.1.name = name ∧
        target ∈ dependenciesAt fields placed.2 placed.1 := by
  induction list generalizing start with
  | nil => simp
  | cons placed rest ih =>
    -- Each field adds its edges to those that are there.
    rw [List.foldl_cons, ih, addField, mem_targets_addEdges, or_assoc]
    simp only [List.mem_cons, exists_eq_or_imp]

/-- Fields bring their own names. -/
theorem mem_keys_foldl_addField {list : List (Field × Nat)} {start : Graph} :
    name ∈ (list.foldl (addField fields) start).keys ↔
      name ∈ start.keys ∨ ∃ placed ∈ list, placed.1.name = name := by
  induction list generalizing start with
  | nil => simp
  | cons placed rest ih =>
    rw [List.foldl_cons, ih, addField, mem_keys_addEdges, or_assoc]
    simp only [List.mem_cons, exists_eq_or_imp]

/-- The edges of the graph are the references. -/
theorem mem_targets_graph_iff :
    target ∈ targets (graph fields) name ↔ Refers fields name target := by
  -- The graph starts without edges, so all of them come from fields.
  have none : target ∉ targets Sheet.empty name := List.not_mem_nil
  simp only [graph_eq_foldl, mem_targets_foldl_addField, none, false_or, Prod.exists,
    mem_dependenciesAt_iff]
  constructor
  · rintro ⟨field, position, placed, same, referred⟩
    obtain ⟨inside, rfl⟩ := mem_zipIdx_iff.mp placed
    subst same
    exact ⟨position, inside, rfl, referred⟩
  · rintro ⟨position, inside, same, referred⟩
    subst same
    exact ⟨_, position, mem_zipIdx_iff.mpr ⟨inside, rfl⟩, rfl, referred⟩

/-- The edges of the graph are the references, as a relation. -/
theorem edge_graph (fields : List Field) : Edge (graph fields) = Refers fields := by
  funext name target
  exact propext mem_targets_graph_iff

/-- The names of the graph are the names of the fields. -/
theorem mem_keys_graph_iff : name ∈ (graph fields).keys ↔ name ∈ fields.map Field.name := by
  -- The graph starts empty, and each field brings its own name.
  have none : name ∉ (Sheet.empty : Graph).keys := List.not_mem_nil
  rw [graph_eq_foldl, mem_keys_foldl_addField, List.mem_map]
  simp only [none, false_or, Prod.exists]
  constructor
  · rintro ⟨field, position, placed, same⟩
    exact ⟨field, List.fst_mem_of_mem_zipIdx placed, same⟩
  · rintro ⟨field, inside, same⟩
    obtain ⟨position, there, rfl⟩ := List.mem_iff_getElem.mp inside
    exact ⟨_, position, mem_zipIdx_iff.mpr ⟨there, rfl⟩, same⟩

/-- Only declared names are referred to. -/
theorem Refers.declared (refers : Refers fields name target) :
    target ∈ fields.map Field.name := by
  obtain ⟨_, _, _, _, first, declared, _⟩ := refers
  exact declared.declared

/-- Only declared names refer to others. -/
theorem Refers.declares (refers : Refers fields name target) : name ∈ fields.map Field.name := by
  obtain ⟨position, inside, rfl, _⟩ := refers
  exact List.mem_map_of_mem (List.getElem_mem inside)

/-- A reference in a field is to an undeclared name, or an edge of the graph, or to an earlier
definition of the field's own name. -/
theorem reference_cases (inside : position < fields.length)
    (referred : target ∈ Reference.names fields[position].expression) :
    target ∉ fields.map Field.name ∨ Refers fields fields[position].name target ∨
      (target = fields[position].name ∧ target ∈ (fields.take position).map Field.name) := by
  by_cases declared : target ∈ fields.map Field.name
  · obtain ⟨first, place⟩ := exists_firstDeclared declared
    -- What keeps a declared reference from being an edge also says where the name was defined.
    by_cases counts : target ≠ fields[position].name ∨ position ≤ first
    · exact .inr (.inl ⟨position, inside, rfl, referred, first, place, counts⟩)
    · obtain ⟨same, earlier⟩ := not_or.mp counts
      exact .inr (.inr ⟨Decidable.of_not_not same, place.lt_iff.mp (Nat.lt_of_not_le earlier)⟩)
  · exact .inl declared

/-- The edges of the graph stay among its names. -/
theorem targets_graph_subset (fields : List Field) (name : Text) :
    targets (graph fields) name ⊆ (graph fields).keys := fun _ inside =>
  mem_keys_graph_iff.mpr (mem_targets_graph_iff.mp inside).declared

end Docket.Dependency
