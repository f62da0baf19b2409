import Docket.Expression.Evaluate
import Docket.Proofs.Expression.Argument

/-! The tree of the calls that evaluating an expression comes to, as far as its texts alone tell.
Arguments are evaluated by resolving their calls in turn, up to the first one that has no value. -/

namespace Docket

/-- A call with the calls in its arguments. -/
inductive CallTree where
  | node (call : Call) (inner : List CallTree)

/-- What carrying out a call records; there is nothing to carry out if it reaches no function. -/
def Registry.invocation? (registry : Registry) (call : Call) : Option Invocation :=
  -- The arguments that count are those of the call, before they have values.
  (registry.reached? call.name).map fun (_, function) => ⟨function.name, call.arguments.length⟩

namespace CallTree

/-- A fact about trees holds if it holds of a node whenever it holds of the trees below it. -/
@[elab_as_elim, induction_eliminator]
theorem nodeInduction {motive : CallTree → Prop}
    (node : ∀ call inner, (∀ tree ∈ inner, motive tree) → motive (.node call inner))
    (tree : CallTree) : motive tree :=
  match tree with
  | .node call inner => node call inner fun tree _ => nodeInduction node tree

mutual

/-- What a step makes of a tree from its call and what was made of the trees below it. -/
def fold {α : Type} (step : Call → List α → α) : CallTree → α
  | .node call inner => step call (foldAll step inner)

/-- What a step makes of each tree. -/
def foldAll {α : Type} (step : Call → List α → α) : List CallTree → List α
  | [] => []
  | tree :: rest => fold step tree :: foldAll step rest

end

theorem foldAll_eq_map {α : Type} (step : Call → List α → α) (trees : List CallTree) :
    foldAll step trees = trees.map (fold step) := by
  -- The second function only spells out the map, for the recursion to be structural.
  induction trees with
  | nil => rfl
  | cons tree rest ih => rw [foldAll, ih, List.map_cons]

/-- The calls of a tree from left to right, each behind the calls in its arguments. -/
def postOrder : CallTree → List Call :=
  fold fun call inner => inner.flatten ++ [call]

/-- The tree without the calls of no function and everything in their arguments. -/
def known (registry : Registry) : CallTree → List CallTree :=
  fold fun call inner =>
    if (registry.invocation? call).isSome then [.node call inner.flatten] else []

/-- How deep calls must be allowed to nest so that a call has a value. The arguments of a call of
no function do not count, as nobody looks at them. -/
def reach (registry : Registry) : CallTree → Nat :=
  fold fun call inner => if (registry.invocation? call).isSome then 1 + inner.foldr max 0 else 1

@[simp] theorem postOrder_node (call : Call) (inner : List CallTree) :
    (node call inner).postOrder = inner.flatMap postOrder ++ [call] := by
  rw [postOrder, fold, foldAll_eq_map, List.flatMap_def]

@[simp] theorem known_node (registry : Registry) (call : Call) (inner : List CallTree) :
    (node call inner).known registry =
      if (registry.invocation? call).isSome then [node call (inner.flatMap (known registry))]
      else [] := by
  rw [known, fold, foldAll_eq_map, List.flatMap_def]

@[simp] theorem reach_node (registry : Registry) (call : Call) (inner : List CallTree) :
    (node call inner).reach registry =
      if (registry.invocation? call).isSome then 1 + (inner.map (reach registry)).foldr max 0
      else 1 := by
  rw [reach, fold, foldAll_eq_map]

/-- Every tree takes at least one level. -/
theorem reach_pos (registry : Registry) (tree : CallTree) : 0 < tree.reach registry := by
  obtain ⟨call, inner⟩ := tree
  rw [reach_node]
  split <;> omega

end CallTree

namespace Scope

/-- The calls that are carried out for a text, each with those in its arguments. Only texts that
are taken to call a function are read. -/
def forest (scope : Scope) (text : Text) : List CallTree :=
  -- An argument is shorter than the text of its call, so the recursion ends.
  if scope.callsIn text then
    (Call.all text).attach.map fun found =>
      .node found.1 (found.1.arguments.attach.flatMap fun argument => scope.forest argument.1)
  else []
termination_by text.length
decreasing_by exact Call.argument_length_lt found.2 argument.2

/-- A call with the calls in its arguments. -/
def tree (scope : Scope) (call : Call) : CallTree :=
  .node call (call.arguments.flatMap scope.forest)

/-- The trees of a text are those of its calls, if it is read at all. -/
theorem forest_eq (scope : Scope) (text : Text) :
    scope.forest text = if scope.callsIn text then (Call.all text).map scope.tree else [] := by
  -- The definition carries proofs of membership along, which are dropped here.
  have node : scope.tree = fun call => .node call (call.arguments.flatMap scope.forest) := rfl
  rw [forest, node]
  simp

variable {resolver : Resolver}

/-- How an evaluation ends: whether there is a value, and what has been changed. -/
def ending {α : Type} (outcome : Option α × Progress) : Bool × Progress :=
  (outcome.1.isSome, outcome.2)

/-- Resolves calls from left to right, up to the first one that has no value. -/
def inTurn (resolver : Resolver) : List Call → Progress → Bool × Progress
  | [], progress => (true, progress)
  | call :: rest, progress =>
    match resolver call progress with
    | (none, progress) => (false, progress)
    | (some _, progress) => inTurn resolver rest progress

/-- Calls come to their turn only if all those before them have values. -/
theorem inTurn_append (front back : List Call) (progress : Progress) :
    inTurn resolver (front ++ back) progress =
      match inTurn resolver front progress with
      | (false, progress) => (false, progress)
      | (true, progress) => inTurn resolver back progress := by
  induction front generalizing progress with
  | nil => rfl
  | cons call rest ih =>
    -- A first call without a value ends both runs at once.
    cases outcome : resolver call progress with
    | mk value middle => cases value <;> simp [inTurn, outcome, ih]

/-- The calls that are resolved for a text. -/
def callsOf (scope : Scope) (text : Text) : List Call :=
  -- A text that calls no function is not read.
  if scope.callsIn text then Call.all text else []

/-- The trees of a text are those of the calls that are resolved for it. -/
theorem forest_eq_map (scope : Scope) (text : Text) :
    scope.forest text = (scope.callsOf text).map scope.tree := by
  rw [forest_eq, callsOf]
  split <;> rfl

/-- The trees below a call are those of the calls that are resolved for its arguments. -/
theorem tree_eq (scope : Scope) (call : Call) :
    scope.tree call = .node call ((call.arguments.flatMap scope.callsOf).map scope.tree) := by
  have read : scope.forest = fun text => (scope.callsOf text).map scope.tree :=
    funext (forest_eq_map scope)
  rw [tree, List.map_flatMap, read]

/-- Splicing segments resolves their calls in turn. -/
theorem ending_spliced (resolver : Resolver) (list : List Segment) (progress : Progress) :
    ending (spliced resolver list progress) =
      inTurn resolver (list.filterMap Segment.call?) progress := by
  -- A literal text has a value and changes nothing.
  induction list generalizing progress with
  | nil => rfl
  | cons segment rest ih =>
    cases segment with
    | text literal =>
      simpa [spliced, ending, List.filterMap_cons, Segment.call?] using ih progress
    | call found =>
      cases outcome : resolver found progress with
      | mk value middle =>
        cases value with
        | none => simp [spliced, ending, Segment.call?, inTurn, outcome]
        | some value =>
          simpa [spliced, ending, List.filterMap_cons, Segment.call?, inTurn, outcome]
            using ih middle

/-- The value of an argument takes the calls of its text in turn. -/
theorem ending_argumentValue (scope : Scope) (resolver : Resolver) (argument : Text)
    (progress : Progress) :
    ending (scope.argumentValue resolver argument progress) =
      inTurn resolver (scope.callsOf argument) progress := by
  -- An argument without calls is read as it stands, and no call has its turn.
  unfold argumentValue callsOf
  split
  · have read := ending_spliced resolver (segments argument) progress
    simpa [ending, Call.all] using read
  · rfl

/-- The values of arguments take the calls of all their texts in turn. -/
theorem ending_argumentValues (scope : Scope) (resolver : Resolver) (arguments : List Text)
    (progress : Progress) :
    ending (scope.argumentValues resolver arguments progress) =
      inTurn resolver (arguments.flatMap scope.callsOf) progress := by
  -- The calls of a later argument come behind those of the arguments before it.
  induction arguments generalizing progress with
  | nil => rfl
  | cons argument rest ih =>
    have first := ending_argumentValue scope resolver argument progress
    rw [List.flatMap_cons, inTurn_append, ← first]
    cases outcome : scope.argumentValue resolver argument progress with
    | mk value middle =>
      cases value with
      | none => simp [argumentValues, ending, outcome]
      | some value => simpa [argumentValues, ending, outcome] using ih middle

end Scope

end Docket
