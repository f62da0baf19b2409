import Docket.Field.Dependency
import Mathlib.Data.List.Chain
import Mathlib.Data.List.Rotate
import Mathlib.Logic.Relation

/-! Loops of names: circuits along the edges of a relation, and the rotation that tells them
apart. -/

namespace Docket.Dependency

open Relation

variable {name first second : Text} {path loop cycle : List Text}

section Circuit

variable {edge : Text → Text → Prop}

/-- A circuit is written from its first name back to it. Each name has an edge to the next one, and
no name but the first comes twice. -/
def IsCircuit (edge : Text → Text → Prop) (cycle : List Text) : Prop :=
  ∃ first rest, cycle = first :: rest ++ [first] ∧ (first :: rest).Nodup ∧ cycle.IsChain edge

/-- Along a chain every name leads to all names behind it. -/
theorem pairwise_transGen (chain : cycle.IsChain edge) : cycle.Pairwise (TransGen edge) :=
  (chain.imp fun _ _ => TransGen.single).pairwise

/-- Every name of a circuit leads to every name of it, and so back to itself. -/
theorem IsCircuit.transGen {other : Text} (circuit : IsCircuit edge cycle) (inside : name ∈ cycle)
    (there : other ∈ cycle) : TransGen edge name other := by
  obtain ⟨first, rest, rfl, -, chain⟩ := circuit
  have onward := pairwise_transGen chain
  obtain ⟨fromFirst, -⟩ := List.pairwise_cons.mp onward
  obtain ⟨-, -, toFirst⟩ := List.pairwise_append.mp onward
  -- The way goes on to the end of the circuit, which is its first name again, and from there.
  have back {name : Text} (inside : name ∈ first :: rest ++ [first]) :
      TransGen edge name first := by
    rcases List.mem_append.mp inside with before | last
    · exact toFirst name before first (.head _)
    · exact List.mem_singleton.mp last ▸ toFirst first (.head _) first (.head _)
  rcases List.mem_cons.mp there with rfl | later
  · exact back inside
  · exact (back inside).trans (fromFirst other later)

/-- Every name of a circuit has an edge to a name of the circuit. -/
theorem IsCircuit.exists_edge (circuit : IsCircuit edge cycle) (inside : name ∈ cycle) :
    ∃ next ∈ cycle, edge name next := by
  obtain ⟨first, rest, rfl, -, chain⟩ := circuit
  -- The last name is the first one, so it is enough to look at the names before it.
  have inside : name ∈ first :: rest := by simpa [or_comm, or_assoc] using inside
  obtain ⟨front, back, split⟩ := List.append_of_mem inside
  rw [split, List.append_assoc, List.cons_append] at chain ⊢
  obtain ⟨next, others, rest_eq⟩ : ∃ next others, back ++ [first] = next :: others :=
    List.exists_cons_of_ne_nil (by simp)
  rw [rest_eq] at chain ⊢
  exact ⟨next, by simp, (List.isChain_append_cons_cons.mp chain).2.1⟩

/-- A list is cut before the first place of one of its members. -/
theorem exists_cut (inside : name ∈ path) : ∃ front back, path = front ++ name :: back ∧
    path.takeWhile (· != name) = front ∧ path.dropWhile (· != name) = name :: back := by
  obtain ⟨front, back, rfl, fresh⟩ := List.eq_append_cons_of_mem inside
  -- Before the first place there is no member of that name.
  have passed : ∀ other ∈ front, (other != name) = true := fun other there =>
    bne_iff_ne.mpr fun same => fresh (same ▸ there)
  refine ⟨front, back, rfl, ?_, ?_⟩
  · rw [List.takeWhile_append_of_pos passed, List.takeWhile_cons_of_neg (by simp),
      List.append_nil]
  · rw [List.dropWhile_append_of_pos passed, List.dropWhile_cons_of_neg (by simp)]

/-- A path that has an edge from its last name to one on it ends with a circuit. -/
theorem isCircuit_close (simple : path.Nodup) (chain : path.IsChain edge) (onPath : name ∈ path)
    (back : ∀ last ∈ path.getLast?, edge last name) :
    IsCircuit edge (path.dropWhile (· != name) ++ (path.dropWhile (· != name)).take 1) := by
  obtain ⟨front, rest, rfl, -, loop_eq⟩ := exists_cut onPath
  rw [loop_eq]
  have suffix : name :: rest <:+ front ++ name :: rest := List.suffix_append _ _
  refine ⟨name, rest, rfl, simple.sublist suffix.sublist, ?_⟩
  refine (chain.suffix suffix).append (List.isChain_singleton name) ?_
  intro last there _ same
  -- The way that remains ends where the whole path ends.
  have last_eq : (front ++ name :: rest).getLast? = (name :: rest).getLast? := by
    rw [List.getLast?_append_of_ne_nil _ (List.cons_ne_nil _ _)]
  obtain rfl : name = _ := Option.some.inj same
  exact back last (last_eq ▸ there)

end Circuit

section Rotation

/-- Rotations of a list without repetitions are the same if they begin alike. -/
theorem eq_of_isRotated {left right : List Text} (simple : left.Nodup) (rotated : left ~r right)
    (alike : left.head? = right.head?) : left = right := by
  obtain ⟨n, bound, rfl⟩ := List.isRotated_iff_mod.mp rotated
  rcases Nat.eq_or_lt_of_le bound with whole | part
  · rw [whole, List.rotate_length]
  · -- The first name stands at one place only, so nothing was rotated.
    rw [List.head?_rotate part, List.head?_eq_getElem?] at alike
    have zero : 0 = n := (List.getElem?_inj (by omega) simple).mp alike
    rw [← zero, List.rotate_zero]

/-- A least name of a list is in it, and no name of the list comes before it. -/
def Least (loop : List Text) (name : Text) : Prop :=
  name ∈ loop ∧ ∀ other ∈ loop, Text.before other name = false

theorem Least.unique (one : Least loop first) (other : Least loop second) : first = second := by
  by_contra different
  rcases Text.before_or_before different with before | before
  · exact Bool.false_ne_true ((other.2 first one.1).symm.trans before)
  · exact Bool.false_ne_true ((one.2 second other.1).symm.trans before)

theorem not_before_trans {third : Text} (left : Text.before second first = false)
    (right : Text.before third second = false) : Text.before third first = false := by
  -- Otherwise the second name, wherever it comes, would be before the first or behind the third.
  by_contra below
  have below : Text.before third first = true := by simpa using below
  by_cases same : first = second
  · exact Bool.false_ne_true (right.symm.trans (same ▸ below))
  · rcases Text.before_or_before same with before | before
    · exact Bool.false_ne_true (right.symm.trans (Text.before_trans below before))
    · exact Bool.false_ne_true (left.symm.trans before)

/-- The lesser of two names is one of them, and neither comes before it. -/
theorem lesser_spec (first second : Text) :
    (lesser first second = first ∨ lesser first second = second) ∧
      Text.before first (lesser first second) = false ∧
      Text.before second (lesser first second) = false := by
  unfold lesser
  cases below : Text.before second first with
  | false => simp [below]
  | true =>
    -- If the second name came after the first one as well, it would come before itself.
    have above : Text.before first second = false := by
      by_contra above
      have loop := Text.before_trans below (by simpa using above)
      rw [Text.before_irrefl] at loop
      exact Bool.false_ne_true loop
    simp [above]

/-- Keeping the lesser of two names finds a least one. -/
theorem least_foldl_lesser (first : Text) (rest : List Text) :
    Least (first :: rest) (rest.foldl lesser first) := by
  induction rest generalizing first with
  | nil => exact ⟨by simp, by simp⟩
  | cons second rest ih =>
    obtain ⟨inside, bound⟩ := ih (lesser first second)
    obtain ⟨one, notFirst, notSecond⟩ := lesser_spec first second
    -- The lesser of the first two stands for both of them in what is found at the end.
    have kept := bound _ (.head _)
    rw [List.foldl_cons]
    -- It is one of the names, and none of the names comes before it.
    refine ⟨?_, fun other there => ?_⟩
    · rcases List.mem_cons.mp inside with same | later
      · rcases one with one | one
        · rw [same, one]
          exact .head _
        · rw [same, one]
          exact .tail _ (.head _)
      · exact .tail _ (.tail _ later)
    · rcases List.mem_cons.mp there with rfl | there
      · exact not_before_trans kept notFirst
      · rcases List.mem_cons.mp there with rfl | there
        · exact not_before_trans kept notSecond
        · exact bound other (.tail _ there)

/-- A loop is brought to canonical form by a rotation that begins with a least name. -/
theorem canonical_cons (first : Text) (rest : List Text) :
    canonical (first :: rest) ~r first :: rest ∧
      ∃ least, Least (first :: rest) least ∧ (canonical (first :: rest)).head? = some least := by
  have least := least_foldl_lesser first rest
  refine ⟨?_, _, least, ?_⟩
  · refine List.isRotated_append.trans ?_
    rw [List.takeWhile_append_dropWhile]
  · -- The part that comes to the front begins at the first place of the least name.
    obtain ⟨front, back, -, -, cut⟩ := exists_cut least.1
    simp only [canonical, cut, List.cons_append, List.head?_cons]

theorem canonical_isRotated (loop : List Text) : canonical loop ~r loop := by
  cases loop with
  | nil => exact .refl _
  | cons first rest => exact (canonical_cons first rest).1

/-- Loops without repetitions have one canonical form if one is a rotation of the other. -/
theorem canonical_eq_of_isRotated {left right : List Text} (simple : left.Nodup)
    (rotated : left ~r right) : canonical left = canonical right := by
  -- Writing a loop from its least name on is a rotation of it.
  have turned : canonical left ~r canonical right :=
    ((canonical_isRotated left).trans rotated).trans (canonical_isRotated right).symm
  refine eq_of_isRotated ((canonical_isRotated left).nodup_iff.mpr simple) turned ?_
  cases left with
  | nil => rw [List.isRotated_nil_iff'.mp rotated]
  | cons first rest =>
    cases right with
    | nil => exact absurd (List.isRotated_nil_iff.mp rotated) (List.cons_ne_nil _ _)
    | cons second others =>
      -- Both begin with the least name, and the two loops have the same names.
      obtain ⟨-, one, oneLeast, oneHead⟩ := canonical_cons first rest
      obtain ⟨-, other, otherLeast, otherHead⟩ := canonical_cons second others
      have moved : Least (first :: rest) other := ⟨rotated.mem_iff.mpr otherLeast.1,
        fun name inside => otherLeast.2 name (rotated.mem_iff.mp inside)⟩
      rw [oneHead, otherHead, oneLeast.unique moved]

end Rotation

section Adding

variable {found : Found}

/-- A name is on a loop that was found. -/
def Found.OnLoop (found : Found) (name : Text) : Prop :=
  ∃ loop ∈ found.loops, name ∈ loop

/-- A loop is added at the end, unless a loop with the same canonical form is there. -/
theorem Found.addLoop_cases (found : Found) (loop : List Text) :
    (canonical loop ∈ found.loops.map canonical ∧ found.addLoop loop = found) ∨
      (canonical loop ∉ found.loops.map canonical ∧
        found.addLoop loop = { found with loops := found.loops ++ [loop] }) := by
  -- The canonical form is looked up among those of the loops that are there.
  unfold addLoop
  split
  · rename_i known
    exact .inl ⟨List.contains_iff_mem.mp known, rfl⟩
  · rename_i unknown
    exact .inr ⟨fun known => unknown (List.contains_iff_mem.mpr known), rfl⟩

@[simp] theorem Found.visited_addLoop (found : Found) (loop : List Text) :
    (found.addLoop loop).visited = found.visited := by
  rcases found.addLoop_cases loop with ⟨-, same⟩ | ⟨-, more⟩
  · rw [same]
  · rw [more]

/-- The loops that were found stay. -/
theorem Found.loops_subset_addLoop (found : Found) (loop : List Text) :
    found.loops ⊆ (found.addLoop loop).loops := by
  rcases found.addLoop_cases loop with ⟨-, same⟩ | ⟨-, more⟩
  · rw [same]
    exact List.Subset.refl _
  · rw [more]
    exact List.subset_append_left _ _

/-- The names of a loop are on a loop that was found once it is added. -/
theorem Found.onLoop_addLoop (inside : name ∈ loop) : (found.addLoop loop).OnLoop name := by
  rcases found.addLoop_cases loop with ⟨known, same⟩ | ⟨-, more⟩
  · -- A loop with the same canonical form has the same names.
    obtain ⟨other, there, form⟩ := List.mem_map.mp known
    have turned : name ∈ canonical other := form ▸ (canonical_isRotated loop).mem_iff.mpr inside
    rw [same]
    exact ⟨other, there, (canonical_isRotated other).mem_iff.mp turned⟩
  · exact ⟨loop, by simp [more], inside⟩

end Adding

end Docket.Dependency
