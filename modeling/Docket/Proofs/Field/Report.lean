import Docket.Proofs.Field.Cycle

/-! What the report says about loops: its cycles are circuits of references, and there are some
exactly if there is a loop at all. Each group of names that lead to one another has a cycle in the
report, but not each name of the group is on one. -/

namespace Docket.DependencyReport

open Dependency Relation

variable {fields : List Field} {cycle : List Text} {name : Text}

/-- What the report has to go by: the search from all names has found circuits of references, none
of them twice, and a loop tied to every name that leads back to itself. -/
structure Searched (fields : List Field) (found : Found) : Prop where
  explored : Explores (graph fields) [] {} (graph fields).keys found
  cycles : (ofFields fields).cycles = found.loops.map fun loop => loop ++ loop.take 1
  genuine : found.Genuine (graph fields)
  bound : ∀ name, TransGen (Refers fields) name name →
    ∃ other, found.OnLoop other ∧ Tied (Refers fields) name other

/-- The search for the report comes to an end. -/
theorem exists_searched (fields : List Field) : ∃ found, Searched fields found := by
  obtain ⟨found, explored, cycles⟩ := search_ends (targets_graph_subset fields)
  have nothing : ({} : Found).Genuine (graph fields) := ⟨by simp, by simp, by simp⟩
  have fresh : ({} : Found).Surveyed (graph fields) [] := ⟨by simp, by simp, by simp, by simp⟩
  obtain ⟨surveyed, handled⟩ := explored.surveyed fresh
  refine ⟨found, explored, cycles, explored.genuine nothing .nil .nil (by simp), ?_⟩
  rw [← edge_graph]
  intro name back
  -- A name with an edge is a name of the graph, so the search has come to it.
  have known : name ∈ (graph fields).keys := by
    obtain ⟨target, step, -⟩ := TransGen.head'_iff.mp back
    exact mem_keys_graph_iff.mpr (mem_targets_graph_iff.mp step).declares
  exact surveyed.bound name (handled name known).1 List.not_mem_nil back

/-- The names of a cycle are those of the loop that it closes. -/
theorem mem_closed_iff {loop : List Text} : name ∈ loop ++ loop.take 1 ↔ name ∈ loop := by
  rw [List.mem_append]
  exact ⟨fun either => either.elim id fun first => List.mem_of_mem_take first, .inl⟩

/-- A name is listed exactly if it is on a loop that was found. -/
theorem Searched.listed_iff {found : Found} (searched : Searched fields found) :
    (∃ cycle ∈ (ofFields fields).cycles, name ∈ cycle) ↔ found.OnLoop name := by
  rw [searched.cycles]
  simp only [List.mem_map, exists_exists_and_eq_and, mem_closed_iff, Found.OnLoop]

/-- The cycles of the report are circuits of references. -/
theorem Searched.isCircuit {found : Found} (searched : Searched fields found)
    (listed : cycle ∈ (ofFields fields).cycles) : IsCircuit (Refers fields) cycle := by
  rw [searched.cycles] at listed
  obtain ⟨loop, there, rfl⟩ := List.mem_map.mp listed
  rw [← edge_graph]
  exact searched.genuine.circuit loop there

/-- Taking the return away from a closed loop leaves the loop. -/
theorem dropLast_closed {loop : List Text} (filled : loop ≠ []) :
    (loop ++ loop.take 1).dropLast = loop := by
  obtain ⟨first, rest, rfl⟩ := List.exists_cons_of_ne_nil filled
  exact List.dropLast_concat

/-- No cycle of the report is a rotation of another one. -/
theorem Searched.pairwise {found : Found} (searched : Searched fields found) :
    (ofFields fields).cycles.Pairwise fun one other => ¬ one.dropLast ~r other.dropLast := by
  rw [searched.cycles, List.pairwise_map]
  have apart := List.pairwise_map.mp searched.genuine.apart
  refine apart.imp_of_mem fun {one other} oneThere otherThere different turned => different ?_
  have filled {loop : List Text} (there : loop ∈ found.loops) : loop ≠ [] := by
    -- A circuit has a first name.
    rintro rfl
    obtain ⟨_, _, equal, -⟩ := searched.genuine.circuit [] there
    exact absurd equal (by simp)
  rw [dropLast_closed (filled oneThere), dropLast_closed (filled otherThere)] at turned
  exact canonical_eq_of_isRotated (searched.genuine.simple one oneThere) turned

/-- The search for loops works on the graph of references. It comes to an end, with one outcome, and
reports some cycle exactly if a name leads back to itself. Every cycle that it reports is a circuit
of references, and none is a rotation of another one. -/
theorem cycles_exact (fields : List Field) :
    let cycles := (ofFields fields).cycles
    (∀ name target, target ∈ targets (graph fields) name ↔ Refers fields name target) ∧
    (∃ found, (∀ after, Explores (graph fields) [] {} (graph fields).keys after ↔ after = found) ∧
      cycles = found.loops.map fun loop => loop ++ loop.take 1) ∧
    (cycles ≠ [] ↔ ∃ name, TransGen (Refers fields) name name) ∧
    (∀ cycle ∈ cycles, IsCircuit (Refers fields) cycle) ∧
    cycles.Pairwise fun one other => ¬ one.dropLast ~r other.dropLast := by
  intro cycles
  obtain ⟨found, searched⟩ := exists_searched fields
  refine ⟨fun _ _ => mem_targets_graph_iff, ⟨found, fun after => ?_, searched.cycles⟩, ?_,
    fun _ => searched.isCircuit, searched.pairwise⟩
  · exact ⟨fun again => again.unique searched.explored, fun same => same ▸ searched.explored⟩
  constructor
  · -- The first name of a circuit leads around it.
    intro some
    obtain ⟨cycle, listed⟩ := List.exists_mem_of_ne_nil _ some
    have circuit := searched.isCircuit listed
    have ⟨first, rest, written, _⟩ := circuit
    have inside : first ∈ cycle := written ▸ .head _
    exact ⟨first, circuit.transGen inside inside⟩
  · -- The name itself need not be on a reported cycle, but a name tied to it is.
    rintro ⟨name, back⟩
    obtain ⟨other, onLoop, -⟩ := searched.bound name back
    obtain ⟨cycle, listed, -⟩ := searched.listed_iff.mpr onLoop
    exact List.ne_nil_of_mem listed

/-- Two loops without a common name are reported one after the other. -/
example :
    (ofFields [⟨"A".toList, "<B>".toList, .expression⟩, ⟨"B".toList, "<C>".toList, .sql⟩,
      ⟨"C".toList, "<A>".toList, .expression⟩, ⟨"D".toList, "<D>".toList, .expression⟩]).cycles =
      [["A".toList, "B".toList, "C".toList, "A".toList], ["D".toList, "D".toList]] := by
  decide +kernel

/-- A name does not fork if every name that is tied to it refers to one such name only. -/
def Unforked (edge : Text → Text → Prop) (name : Text) : Prop :=
  ∀ here one other, Tied edge name here → edge here one → Tied edge name one →
    edge here other → Tied edge name other → one = other

/-- A circuit goes through every name that leads to it and back without forks. -/
theorem mem_of_unforked {edge : Text → Text → Prop} {other : Text} (circuit : IsCircuit edge cycle)
    (unforked : Unforked edge name) (way : ReflTransGen edge other name) (inside : other ∈ cycle)
    (tied : Tied edge name other) : name ∈ cycle := by
  -- From a name of the circuit there is no way on but along the circuit.
  induction way using ReflTransGen.head_induction_on with
  | refl => exact inside
  | @head here next step rest ih =>
    obtain ⟨along, there, edge⟩ := circuit.exists_edge inside
    have tiedNext : Tied _ name next := ⟨tied.1.tail step, rest⟩
    have tiedAlong : Tied _ name along :=
      ⟨tied.1.tail edge, (circuit.transGen there inside).to_reflTransGen.trans tied.2⟩
    obtain rfl := unforked here next along tied step tiedNext edge tiedAlong
    exact ih there tiedNext

/-- Every name of a reported cycle leads back to itself, and a name leads back to itself exactly if
it is tied to a name of a reported cycle. So each group of tied names has a cycle in the report, and
where names do not fork it goes through all of them. -/
theorem loops_iff_tied (fields : List Field) (name : Text) :
    let edge := Refers fields
    let cycles := (ofFields fields).cycles
    ((∃ cycle ∈ cycles, name ∈ cycle) → TransGen edge name name) ∧
    (TransGen edge name name ↔ ∃ cycle ∈ cycles, ∃ other ∈ cycle, Tied edge name other) ∧
    (Unforked edge name → (TransGen edge name name ↔ ∃ cycle ∈ cycles, name ∈ cycle)) := by
  intro edge cycles
  obtain ⟨found, searched⟩ := exists_searched fields
  -- A cycle leads from each of its names around to the name itself.
  have listed : (∃ cycle ∈ cycles, name ∈ cycle) → TransGen edge name name := by
    rintro ⟨cycle, listed, inside⟩
    exact (searched.isCircuit listed).transGen inside inside
  -- The search has put a cycle into the report for each group of tied names.
  have near : TransGen edge name name →
      ∃ cycle ∈ cycles, ∃ other ∈ cycle, Tied edge name other := by
    intro back
    obtain ⟨other, onLoop, tied⟩ := searched.bound name back
    obtain ⟨cycle, listed, inside⟩ := searched.listed_iff.mpr onLoop
    exact ⟨cycle, listed, other, inside, tied⟩
  refine ⟨listed, ⟨near, ?_⟩, fun unforked => ⟨fun back => ?_, listed⟩⟩
  · -- There, around the cycle, and back again.
    rintro ⟨cycle, listed, other, inside, tied⟩
    have around := (searched.isCircuit listed).transGen inside inside
    exact (TransGen.trans_right tied.1 around).trans_left tied.2
  · obtain ⟨cycle, listed, other, inside, tied⟩ := near back
    exact ⟨cycle, listed, mem_of_unforked (searched.isCircuit listed) unforked tied.2 inside tied⟩

/-- A loop that joins another one behind its first name is not reported: C leads to B, to A and back
to C, but the search is done with B when it comes to C. -/
theorem cycles_miss_joining_loop :
    let fields : List Field := [⟨"A".toList, "<B><C>".toList, .expression⟩,
      ⟨"B".toList, "<A>".toList, .expression⟩, ⟨"C".toList, "<B>".toList, .expression⟩]
    TransGen (Refers fields) "C".toList "C".toList ∧
      ¬ ∃ cycle ∈ (ofFields fields).cycles, "C".toList ∈ cycle := by
  intro fields
  -- The way around is made of three references; the report is evaluated.
  have toB : Refers fields "C".toList "B".toList := mem_targets_graph_iff.mp (by decide +kernel)
  have toA : Refers fields "B".toList "A".toList := mem_targets_graph_iff.mp (by decide +kernel)
  have toC : Refers fields "A".toList "C".toList := mem_targets_graph_iff.mp (by decide +kernel)
  refine ⟨.head toB (.head toA (.single toC)), ?_⟩
  decide +kernel

end Docket.DependencyReport
