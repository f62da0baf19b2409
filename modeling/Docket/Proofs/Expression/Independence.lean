import Docket.Proofs.Expression.Gate
import Docket.Proofs.Expression.Trace

/-! Data never becomes code: the calls that an evaluation carries out do not depend on values. -/

namespace Docket

namespace Registry

/-- Two registries find functions of the same names under the same names. What the functions do
may differ altogether. -/
def SameFunctions (left right : Registry) : Prop :=
  ∀ name, (left.get? name).map Function.name = (right.get? name).map Function.name

namespace SameFunctions

variable {left right : Registry}

/-- The scan for called functions gives the same answer. -/
theorem isCalledIn_eq (same : left.SameFunctions right) (text : Text) :
    left.isCalledIn text = right.isCalledIn text := by
  -- The scan asks for each name whether it is called, and the names are the same.
  have names : ∀ name, name ∈ left.names ↔ name ∈ right.names := by
    intro name
    have found := congrArg Option.isSome (same name)
    rw [Option.isSome_map, Option.isSome_map] at found
    rw [Index.mem_names_iff, Index.mem_names_iff, found]
  rw [Bool.eq_iff_iff]
  simp only [isCalledIn, List.any_eq_true, names]

/-- A call records the same. -/
theorem invocation?_eq (same : left.SameFunctions right) :
    left.invocation? = right.invocation? := by
  -- Of the function that is found only the name is recorded.
  have reached (name : Text) : (left.reached? name).map (fun target => target.2.name) =
      (right.reached? name).map fun target => target.2.name := by
    have whole := same name
    unfold reached?
    -- The full name decides first, and the part behind the point only if it is not known.
    cases first : left.get? name with
    | some function =>
      rw [first, Option.map_some] at whole
      obtain ⟨other, second, equal⟩ := Option.map_eq_some_iff.mp whole.symm
      simp [second, equal]
    | none =>
      have second : right.get? name = none := by
        rw [first, Option.map_none] at whole
        exact Option.map_eq_none_iff.mp whole.symm
      simp only [second]
      cases Text.splitOnce? '.' name with
      | none => rfl
      | some parts => simpa [Function.comp_def] using same parts.2
  funext call
  have recorded (registry : Registry) : registry.invocation? call =
      ((registry.reached? call.name).map fun target => target.2.name).map
        fun name => ⟨name, call.arguments.length⟩ := by
    simp [invocation?, Function.comp_def]
  rw [recorded, recorded, reached]

end SameFunctions

end Registry

/-- Trees have the same traces. -/
theorem CallTree.trace_eq {left right : Registry} (same : left.SameFunctions right) (depth : Nat)
    (tree : CallTree) : tree.trace left depth = tree.trace right depth := by
  -- A trace asks the registry only what a call records.
  induction depth generalizing tree with
  | zero => rfl
  | succ depth ih =>
    obtain ⟨call, inner⟩ := tree
    have below : trace left depth = trace right depth := funext ih
    simp only [trace, same.invocation?_eq, below]

namespace Scope

/-- Texts have the same trees. -/
theorem forest_eq_of_sameFunctions {left right : Scope}
    (same : left.registry.SameFunctions right.registry) (text : Text) :
    left.forest text = right.forest text := by
  -- The arguments of the calls of a text are shorter than the text.
  induction size : text.length using Nat.strongRecOn generalizing text with
  | _ size ih =>
    have taken : left.callsIn text = right.callsIn text := by
      simp only [callsIn, same.isCalledIn_eq]
    rw [forest_eq, forest_eq, taken]
    split
    · refine List.map_congr_left fun call found => ?_
      have inner : call.arguments.flatMap left.forest = call.arguments.flatMap right.forest :=
        List.flatMap_congr fun argument inside =>
          ih _ (size ▸ Call.argument_length_lt found inside) argument rfl
      simp only [tree, inner]
    · rfl

/-- The calls that are carried out for a text where no limit stands in the way: the calls of
functions that are in no argument of a call of no function, from left to right and each behind the
calls in its arguments. -/
def schedule (scope : Scope) (text : Text) : List Invocation :=
  let known := (scope.forest text).flatMap (CallTree.known scope.registry)
  (known.flatMap CallTree.postOrder).filterMap scope.registry.invocation?

/-- Where no tree reaches too deep, an evaluation carries out the calls of the schedule. -/
theorem evaluate_invocations_schedule {scope : Scope} {expression : Text}
    (within : ∀ tree ∈ scope.forest expression, tree.reach scope.registry ≤ scope.limit)
    (progress : Progress) :
    (scope.evaluate expression progress).2.invocations =
      progress.invocations ++ scope.schedule expression := by
  -- Each tree by itself carries out its known calls in order.
  rw [evaluate_invocations]
  simp only [schedule, List.flatMap_assoc, List.filterMap_flatMap]
  congr 1
  refine List.flatMap_congr fun tree inside => ?_
  have carried := CallTree.trace_invocations (within tree inside)
  simpa only [List.flatMap_assoc, List.filterMap_flatMap] using carried

/-- Two evaluations of an expression carry out the same calls in the same order if they have the
names of functions and the limit in common, whatever the variables, the resources, the surroundings
and the functions themselves are. These are the calls of the schedule, each once, if no call is
nested too deep. -/
theorem evaluate_invocations_independent {left right : Scope}
    (same : left.registry.SameFunctions right.registry) (limit : left.limit = right.limit)
    (expression : Text) (first second : Resources) :
    (left.evaluate expression ⟨first, []⟩).2.invocations =
        (right.evaluate expression ⟨second, []⟩).2.invocations ∧
      ((∀ tree ∈ left.forest expression, tree.reach left.registry ≤ left.limit) →
        (left.evaluate expression ⟨first, []⟩).2.invocations = left.schedule expression) := by
  -- What is carried out follows from the trees and from what calls record.
  refine ⟨?_, fun within => evaluate_invocations_schedule within _⟩
  rw [evaluate_invocations, evaluate_invocations, forest_eq_of_sameFunctions same, limit]
  simp only [CallTree.trace_eq same]

/-- A value that looks like a call carries out nothing. -/
theorem evaluate_invocations_of_code_in_value :
    let expression := "LEFT(<X>, LEN(A.TRIM(b)))FOO(TRIM(c))".toList
    let coded : Scope := { standard with bindings := .ofPairs [("X".toList, "TRIM(a)".toList)] }
    (coded.evaluate expression ⟨.fresh, []⟩).2.invocations =
        (standard.evaluate expression ⟨.fresh, []⟩).2.invocations ∧
      (coded.evaluate expression ⟨.fresh, []⟩).2.invocations =
        [⟨"TRIM".toList, 1⟩, ⟨"LEN".toList, 1⟩, ⟨"LEFT".toList, 2⟩] := by
  intro expression coded
  -- The two scopes differ in a variable only, so the schedule is the same.
  have same : coded.registry.SameFunctions standard.registry := fun _ => rfl
  have carried := evaluate_invocations_independent same rfl expression .fresh .fresh
  have within : ∀ tree ∈ coded.forest expression, tree.reach coded.registry ≤ coded.limit := by
    decide +kernel
  have listed : coded.schedule expression =
      [⟨"TRIM".toList, 1⟩, ⟨"LEN".toList, 1⟩, ⟨"LEFT".toList, 2⟩] := by
    decide +kernel
  exact ⟨carried.1, (carried.2 within).trans listed⟩

end Scope

end Docket
