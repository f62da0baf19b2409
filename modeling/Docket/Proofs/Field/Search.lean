import Docket.Proofs.Field.Graph
import Mathlib.Data.List.Nodup
import Mathlib.Data.List.Perm.Subperm

/-! The search for loops as rules: what it does with the names that are next at the end of a path.
It comes to an end on every graph, and the rules leave it one outcome. -/

namespace Docket.Dependency

/-- Coming to a name marks it as visited. -/
def Found.enter (found : Found) (name : Text) : Found :=
  { found with visited := name :: found.visited }

/-- The search goes through names at the end of a path, one after the other. A name on the path
closes a loop, a name that was visited before is passed over, and any other name is entered: then
its own targets come first. -/
inductive Explores (graph : Graph) : List Text → Found → List Text → Found → Prop where
  | done {path : List Text} {found : Found} : Explores graph path found [] found
  | closes {path rest : List Text} {found after : Found} {next : Text} (onPath : next ∈ path)
      (later : Explores graph path (found.addLoop (path.dropWhile (· != next))) rest after) :
      Explores graph path found (next :: rest) after
  | passes {path rest : List Text} {found after : Found} {next : Text} (offPath : next ∉ path)
      (visited : next ∈ found.visited) (later : Explores graph path found rest after) :
      Explores graph path found (next :: rest) after
  | enters {path rest : List Text} {found middle after : Found} {next : Text}
      (offPath : next ∉ path) (fresh : next ∉ found.visited)
      (inner : Explores graph (path ++ [next]) (found.enter next) (targets graph next) middle)
      (later : Explores graph path middle rest after) :
      Explores graph path found (next :: rest) after

variable {graph : Graph} {path names : List Text} {found after : Found}

/-- The rules leave one outcome. -/
theorem Explores.unique {other : Found} (explores : Explores graph path found names after)
    (again : Explores graph path found names other) : after = other := by
  -- Whether the next name is on the path or visited decides on the rule.
  induction explores generalizing other with
  | done =>
    cases again
    rfl
  | closes onPath _ ih =>
    cases again with
    | closes _ later => exact ih later
    | passes offPath => exact absurd onPath offPath
    | enters offPath => exact absurd onPath offPath
  | passes offPath visited _ ih =>
    cases again with
    | closes onPath => exact absurd onPath offPath
    | passes _ _ later => exact ih later
    | enters _ fresh => exact absurd visited fresh
  -- The inner search ends in the same state, and the later one starts from it.
  | enters offPath fresh _ _ ihInner ihLater =>
    cases again with
    | closes onPath => exact absurd onPath offPath
    | passes _ visited => exact absurd visited fresh
    | enters _ _ inner later =>
      obtain rfl := ihInner inner
      exact ihLater later

section Computing

/-- What the search computes for the next name, if it may nest `fuel` more visits. -/
def advance (graph : Graph) (fuel : Nat) (path : List Text) (found : Found) (next : Text) : Found :=
  if path.contains next then found.addLoop (path.dropWhile (· != next))
  else if found.visited.contains next then found
  else visit graph fuel path found next

/-- A visit goes through the targets of its name. -/
theorem visit_succ (fuel : Nat) (name : Text) :
    visit graph (fuel + 1) path found name =
      (targets graph name).foldl (advance graph fuel (path ++ [name])) (found.enter name) := rfl

/-- The loops are those that a search from all names finds. -/
theorem cycles_eq (graph : Graph) :
    cycles graph = (graph.keys.foldl (advance graph graph.size []) {}).loops.map
      fun loop => loop ++ loop.take 1 := rfl

/-- The computed search follows the rules if its visits do. -/
theorem explores_foldl_advance {fuel : Nat}
    (entering : ∀ found, ∀ next ∈ names, next ∉ path →
      Explores graph (path ++ [next]) (found.enter next) (targets graph next)
        (visit graph fuel path found next)) :
    Explores graph path found names (names.foldl (advance graph fuel path) found) := by
  induction names generalizing found with
  | nil => exact .done
  | cons next rest ih =>
    -- Whatever becomes of the first name, the rest is gone through from what was found by then.
    have later {found : Found} :
        Explores graph path found rest (rest.foldl (advance graph fuel path) found) :=
      ih fun found name inside => entering found name (.tail _ inside)
    rw [List.foldl_cons]
    -- The three cases are the three rules: a name on the path, a visited one, and a fresh one.
    by_cases onPath : next ∈ path
    · have closing : advance graph fuel path found next =
          found.addLoop (path.dropWhile (· != next)) := by
        simp [advance, onPath]
      rw [closing]
      exact .closes onPath later
    · by_cases visited : next ∈ found.visited
      · have passing : advance graph fuel path found next = found := by
          simp [advance, onPath, visited]
        rw [passing]
        exact .passes onPath visited later
      · have visiting : advance graph fuel path found next = visit graph fuel path found next := by
          simp [advance, onPath, visited]
        rw [visiting]
        exact .enters onPath visited (entering found next (.head _) onPath) later

/-- The names on a path are different names of the graph. -/
structure IsPath (graph : Graph) (path : List Text) : Prop where
  simple : path.Nodup
  within : path ⊆ graph.keys

/-- A path goes on with a name of the graph that is not on it. -/
theorem IsPath.concat {name : Text} (isPath : IsPath graph path) (known : name ∈ graph.keys)
    (offPath : name ∉ path) : IsPath graph (path ++ [name]) where
  simple := List.concat_eq_append ▸ isPath.simple.concat offPath
  within := List.append_subset.mpr ⟨isPath.within, by simpa using known⟩

/-- No more visits are nested than there are names off the path. -/
theorem explores_visit (closed : ∀ name, targets graph name ⊆ graph.keys) {fuel : Nat}
    {name : Text} (isPath : IsPath graph path) (enough : graph.keys.length ≤ path.length + fuel)
    (known : name ∈ graph.keys) (offPath : name ∉ path) :
    Explores graph (path ++ [name]) (found.enter name) (targets graph name)
      (visit graph fuel path found name) := by
  have longer := isPath.concat known offPath
  induction fuel generalizing path name found with
  | zero =>
    -- A longer path than there are names does not exist.
    have short := (longer.simple.subperm longer.within).length_le
    rw [List.length_append, List.length_singleton] at short
    omega
  | succ fuel ih =>
    -- A nested visit has a path longer by one name, and may nest one visit less.
    rw [visit_succ]
    refine explores_foldl_advance fun found next inside fresh => ?_
    have enough : graph.keys.length ≤ (path ++ [name]).length + fuel := by
      rw [List.length_append, List.length_singleton]
      omega
    have known := closed name inside
    exact ih longer enough known fresh (longer.concat known fresh)

/-- The search from all names comes to an end, and its loops are those of the graph. -/
theorem search_ends (closed : ∀ name, targets graph name ⊆ graph.keys) :
    ∃ found, Explores graph [] {} graph.keys found ∧
      cycles graph = found.loops.map fun loop => loop ++ loop.take 1 := by
  refine ⟨_, explores_foldl_advance fun found next known fresh => ?_, cycles_eq graph⟩
  have start : IsPath graph [] := ⟨.nil, List.nil_subset _⟩
  have enough : graph.keys.length ≤ ([] : List Text).length + graph.size := by
    simp [Sheet.keys, Sheet.size]
  exact explores_visit closed start enough known fresh

end Computing

end Docket.Dependency
