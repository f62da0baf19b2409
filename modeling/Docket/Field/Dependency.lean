import Docket.Expression.Reference
import Docket.Field.Definition
import Docket.Text.Order

/-! Dependencies between fields: references that come too early, and loops. -/

namespace Docket

/-- A reference to a field that is declared at the place of the reference or later. -/
structure ForwardReference where
  field : Text
  position : Nat
  reference : Text
  declaredAt : Nat
deriving DecidableEq, Repr

/-- The names that each name refers to, in the order of first occurrence. -/
abbrev Graph := Sheet Text (List Text)

namespace Dependency

/-- Where a name is first declared. -/
def declaredAt? (fields : List Field) (name : Text) : Option Nat :=
  fields.findIdx? (·.name == name)

/-- The references of a field to declared fields, with the places of their declarations. -/
def declaredReferences (fields : List Field) (field : Field) : List (Text × Nat) :=
  (Reference.names field.expression).filterMap fun name =>
    (declaredAt? fields name).map fun place => (name, place)

/-- The forward references of a field at a position. -/
def forwardAt (fields : List Field) (position : Nat) (field : Field) : List ForwardReference :=
  ((declaredReferences fields field).filter fun (_, place) => position ≤ place).map
    fun (name, place) => ⟨field.name, position, name, place⟩

/-- All forward references, in the order of fields. -/
def forwardReferences (fields : List Field) : List ForwardReference :=
  (fields.zipIdx.map fun (field, position) => forwardAt fields position field).flatten

/-- The names that a field at a position depends on. A field that refers to its own earlier
declaration does not depend on itself. -/
def dependenciesAt (fields : List Field) (position : Nat) (field : Field) : List Text :=
  ((declaredReferences fields field).filter fun (name, place) =>
    name != field.name || position ≤ place).map Prod.fst

/-- A list with a name at its end, unless the list has it. -/
def addName (names : List Text) (name : Text) : List Text :=
  if names.contains name then names else names ++ [name]

/-- A graph with edges from one name. -/
def addEdges (graph : Graph) (name : Text) (targets : List Text) : Graph :=
  graph.put name (targets.foldl addName ((graph.get? name).getD []))

/-- The graph of dependencies. -/
def graph (fields : List Field) : Graph :=
  fields.zipIdx.foldl
    (fun graph (field, position) =>
      addEdges graph field.name (dependenciesAt fields position field))
    .empty

/-- The names that a name leads to. -/
def targets (graph : Graph) (name : Text) : List Text :=
  (graph.get? name).getD []

/-- The lesser of two names. -/
def lesser (a b : Text) : Text :=
  if Text.before b a then b else a

/-- A loop, written from its least name on. -/
def canonical (loop : List Text) : List Text :=
  match loop with
  | [] => []
  | first :: rest =>
    let least := rest.foldl lesser first
    loop.dropWhile (· != least) ++ loop.takeWhile (· != least)

/-- What a search has found: the names it has visited, and the loops, each without the return to
its first name. -/
structure Found where
  visited : List Text := []
  loops : List (List Text) := []

/-- Adds a loop, unless it is known from another starting point. -/
def Found.addLoop (found : Found) (loop : List Text) : Found :=
  if (found.loops.map canonical).contains (canonical loop) then found
  else { found with loops := found.loops ++ [loop] }

/-- Visits a name at the end of a path. Names on the path close loops; names that have not been
visited are visited next. Each nested visit costs one of `fuel`. -/
def visit (graph : Graph) (fuel : Nat) (path : List Text) (found : Found) (name : Text) : Found :=
  match fuel with
  | 0 => found
  | fuel + 1 =>
    let path := path ++ [name]
    let found := { found with visited := name :: found.visited }
    (targets graph name).foldl
      (fun found next =>
        -- Names on the path have been visited too, so the path is asked first. A name off the path
        -- is not entered again, whatever path leads to it now.
        if path.contains next then found.addLoop (path.dropWhile (· != next))
        else if found.visited.contains next then found
        else visit graph fuel path found next)
      found

/-- The loops of a graph, each from its first name back to it. No path is longer than the number
of names. -/
def cycles (graph : Graph) : List (List Text) :=
  let found := graph.keys.foldl
    (fun found start =>
      -- What an earlier start has reached is no start any more.
      if found.visited.contains start then found else visit graph graph.size [] found start)
    {}
  -- The return to the first name closes the loop.
  found.loops.map fun loop => loop ++ loop.take 1

end Dependency

/-- What is wrong with the dependencies between fields. -/
structure DependencyReport where
  forward : List ForwardReference
  cycles : List (List Text)
deriving DecidableEq, Repr

namespace DependencyReport

/-- The report on fields. -/
def ofFields (fields : List Field) : DependencyReport :=
  ⟨Dependency.forwardReferences fields, Dependency.cycles (Dependency.graph fields)⟩

/-- Whether every reference names an earlier field and there are no loops. -/
def isClean (report : DependencyReport) : Bool :=
  report.forward.isEmpty && report.cycles.isEmpty

/-- The line of a forward reference. -/
def forwardLine (forward : ForwardReference) : Text :=
  "Field '".toList ++ forward.field ++ "' (#".toList ++ Text.ofNat (forward.position + 1) ++
    ") references '".toList ++ forward.reference ++ "' declared later (#".toList ++
    Text.ofNat (forward.declaredAt + 1) ++ "); it will see <".toList ++ forward.reference ++
    ">\n".toList

/-- The line of a loop. -/
def cycleLine (cycle : List Text) : Text :=
  "Cycle: ".toList ++ Text.join " -> ".toList cycle ++ ['\n']

/-- The text of a report. -/
def describe (report : DependencyReport) : Text :=
  if report.isClean then "No forward references or cycles\n".toList
  else report.forward.flatMap forwardLine ++ report.cycles.flatMap cycleLine

end DependencyReport

end Docket
