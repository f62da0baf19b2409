import Docket.Proofs.Expression.Tree
import Mathlib.Data.List.Basic

/-! Which calls an evaluation carries out follows from the texts alone, not from any value. -/

namespace Docket

/-- What the texts alone tell about an evaluation: whether it comes to its end, and which calls it
carries out. -/
structure Trace where
  complete : Bool
  invocations : List Invocation
deriving DecidableEq, Repr

namespace Trace

/-- Nothing is carried out. -/
def done : Trace :=
  ⟨true, []⟩

/-- One call is carried out. -/
def once (invocation : Invocation) : Trace :=
  ⟨true, [invocation]⟩

/-- What comes after a trace counts only if that trace comes to its end. -/
def andThen (first second : Trace) : Trace :=
  if first.complete then ⟨second.complete, first.invocations ++ second.invocations⟩ else first

@[simp] theorem done_andThen (trace : Trace) : done.andThen trace = trace := rfl

@[simp] theorem andThen_done (trace : Trace) : trace.andThen done = trace := by
  obtain ⟨complete, invocations⟩ := trace
  cases complete <;> simp [andThen, done]

theorem andThen_assoc (first second third : Trace) :
    (first.andThen second).andThen third = first.andThen (second.andThen third) := by
  -- An incomplete trace hides everything behind it, on either side.
  obtain ⟨complete, invocations⟩ := first
  cases complete with
  | false => rfl
  | true =>
    obtain ⟨complete, invocations⟩ := second
    cases complete <;> simp [andThen]

/-- The traces of a list, one after the other. -/
def through {α : Type} (trace : α → Trace) (list : List α) : Trace :=
  list.foldr (fun item rest => (trace item).andThen rest) done

@[simp] theorem through_nil {α : Type} (trace : α → Trace) : through trace [] = done := rfl

@[simp] theorem through_cons {α : Type} (trace : α → Trace) (item : α) (rest : List α) :
    through trace (item :: rest) = (trace item).andThen (through trace rest) := rfl

theorem through_map {α β : Type} (trace : β → Trace) (item : α → β) (list : List α) :
    through trace (list.map item) = through (fun entry => trace (item entry)) list := by
  induction list with
  | nil => rfl
  | cons head rest ih => simp only [List.map_cons, through_cons, ih]

end Trace

/-- The trace of a tree where calls may be nested `depth` deep. -/
def CallTree.trace (registry : Registry) : Nat → CallTree → Trace
  | 0, _ => ⟨false, []⟩
  | depth + 1, .node call inner =>
    match registry.invocation? call with
    | none => .done
    | some invocation => (Trace.through (trace registry depth) inner).andThen (.once invocation)

/-- An outcome is as a trace tells: it has a value if the trace comes to its end, and the calls of
the trace have been carried out. -/
structure Follows {α : Type} (trace : Trace) (progress : Progress)
    (outcome : Option α × Progress) : Prop where
  complete : outcome.1.isSome = trace.complete
  carried : outcome.2.invocations = progress.invocations ++ trace.invocations

namespace Follows

variable {α β : Type} {first second : Trace} {progress middle : Progress}

/-- Without a value there is nothing that comes after. -/
theorem stop (follows : Follows (α := α) first progress (none, middle)) :
    Follows (α := β) (first.andThen second) progress (none, middle) := by
  -- An incomplete trace stays as it is.
  have stopped : first.complete = false := follows.complete.symm
  have alone : first.andThen second = first := by simp [Trace.andThen, stopped]
  rw [alone]
  exact ⟨stopped.symm, follows.carried⟩

/-- With a value, what comes after goes on from there. -/
theorem go {value : α} {outcome : Option β × Progress}
    (follows : Follows first progress (some value, middle))
    (later : Follows second middle outcome) :
    Follows (first.andThen second) progress outcome := by
  -- A complete trace passes its calls on to the next.
  have ended : first.complete = true := follows.complete.symm
  have both : first.andThen second =
      ⟨second.complete, first.invocations ++ second.invocations⟩ := by
    simp [Trace.andThen, ended]
  have carried : middle.invocations = progress.invocations ++ first.invocations := follows.carried
  rw [both]
  refine ⟨later.complete, ?_⟩
  rw [later.carried, carried, List.append_assoc]

/-- A value without a call carries out nothing. -/
theorem pure (value : α) : Follows .done progress (some value, progress) :=
  ⟨rfl, (List.append_nil _).symm⟩

end Follows

namespace Scope

variable {scope : Scope}

/-- A resolver that follows the traces of calls. -/
def Traced (resolver : Resolver) (trace : Call → Trace) : Prop :=
  ∀ call progress, Follows (trace call) progress (resolver call progress)

/-- Whatever takes calls in turn follows the traces of these calls, one after the other. -/
theorem Traced.follows_inTurn {α : Type} {resolver : Resolver} {trace : Call → Trace}
    (traced : Traced resolver trace) {calls : List Call} {progress : Progress}
    {outcome : Option α × Progress} (ends : ending outcome = inTurn resolver calls progress) :
    Follows (Trace.through trace calls) progress outcome := by
  -- A call without a value ends the run, and a call with one goes on to the next.
  obtain ⟨result, last⟩ := outcome
  induction calls generalizing progress with
  | nil =>
    obtain ⟨valued, rfl⟩ := Prod.mk.inj ends
    exact ⟨valued, (List.append_nil _).symm⟩
  | cons call rest ih =>
    -- The first call follows its own trace, whatever comes of it.
    have front := traced call progress
    cases outcome : resolver call progress with
    | mk value middle =>
      rw [outcome] at front
      simp only [inTurn, outcome] at ends
      cases value with
      | none =>
        obtain ⟨absent, rfl⟩ := Prod.mk.inj ends
        obtain rfl : result = none := by simpa using absent
        exact front.stop
      | some value => exact front.go (ih ends)

/-- There are as many values as arguments. -/
theorem length_of_argumentValues {resolver : Resolver} {arguments values : List Text}
    {progress after : Progress}
    (valued : scope.argumentValues resolver arguments progress = (some values, after)) :
    values.length = arguments.length := by
  -- Each argument gives one value, or there are no values at all.
  induction arguments generalizing progress values after with
  | nil =>
    obtain ⟨same, -⟩ := Prod.mk.inj valued
    rw [← Option.some.inj same]
  | cons argument rest ih =>
    cases first : scope.argumentValue resolver argument progress with
    | mk value middle =>
      cases value with
      | none => simp [argumentValues, first] at valued
      | some value =>
        cases later : scope.argumentValues resolver rest middle with
        | mk others last =>
          simp only [argumentValues, first, later, Prod.mk.injEq] at valued
          obtain ⟨behind, there, rfl⟩ := Option.map_eq_some_iff.mp valued.1
          rw [there] at later
          rw [List.length_cons, List.length_cons, ih later]

/-- Resolving a call follows the trace of its tree. -/
theorem resolve_follows (scope : Scope) (depth : Nat) :
    Traced (scope.resolve depth) fun call => (scope.tree call).trace scope.registry depth := by
  -- The induction is on how deep calls may still be nested.
  induction depth with
  | zero =>
    intro call progress
    exact ⟨rfl, (List.append_nil _).symm⟩
  | succ depth ih =>
    intro call progress
    simp only [resolve, tree_eq, CallTree.trace, Registry.invocation?]
    cases reached : scope.registry.reached? call.name with
    | none => exact .pure []
    | some target =>
      obtain ⟨lead, function⟩ := target
      -- First come the calls in the arguments, and then, if all have values, the call itself.
      have front := ih.follows_inTurn (ending_argumentValues scope _ call.arguments progress)
      simp only [Option.map_some, Trace.through_map]
      cases outcome : scope.argumentValues (scope.resolve depth) call.arguments progress with
      | mk values middle =>
        rw [outcome] at front
        cases values with
        | none => exact front.stop
        | some arguments =>
          -- The record counts the values, of which there are as many as arguments.
          have counted := length_of_argumentValues outcome
          refine front.go ⟨rfl, ?_⟩
          simp only [invoke, Trace.once, counted]

/-- A segment of the expression itself carries out what the trace of its call tells. -/
theorem segmentValue_invocations (scope : Scope) (segment : Segment) (progress : Progress) :
    (scope.segmentValue segment progress).2.invocations = progress.invocations ++
      segment.call?.toList.flatMap fun call =>
        ((scope.tree call).trace scope.registry scope.limit).invocations := by
  -- A call without a value is put back as text, but what it carried out stays.
  cases segment with
  | text literal => simp [segmentValue, Segment.call?]
  | call found =>
    have carried := (resolve_follows scope scope.limit found progress).carried
    simpa [segmentValue, Segment.call?] using carried

/-- Segments of the expression itself carry out what the traces of their calls tell, also behind a
call that has no value. -/
theorem segmentValues_invocations (scope : Scope) (list : List Segment) (progress : Progress) :
    (scope.segmentValues list progress).2.invocations = progress.invocations ++
      (list.filterMap Segment.call?).flatMap fun call =>
        ((scope.tree call).trace scope.registry scope.limit).invocations := by
  -- The segments are worked through from left to right.
  induction list generalizing progress with
  | nil => simp [segmentValues]
  | cons segment rest ih =>
    have front := segmentValue_invocations scope segment progress
    simp only [segmentValues, ih, front, List.append_assoc]
    cases segment <;> simp [Segment.call?, List.filterMap_cons]

/-- An evaluation carries out what the traces of the trees of its expression tell. -/
theorem evaluate_invocations (scope : Scope) (expression : Text) (progress : Progress) :
    (scope.evaluate expression progress).2.invocations = progress.invocations ++
      (scope.forest expression).flatMap fun tree =>
        (tree.trace scope.registry scope.limit).invocations := by
  -- An expression that is not read has no trees and carries out nothing.
  rw [forest_eq]
  unfold evaluate
  split
  · rw [List.flatMap_map]
    exact segmentValues_invocations scope (segments expression) progress
  · simp

end Scope

namespace Trace

variable {α : Type} {trace : α → Trace} {list : List α}

/-- Traces one after the other come to an end if each of them does. -/
theorem through_complete : (through trace list).complete = true ↔
    ∀ item ∈ list, (trace item).complete = true := by
  -- A trace that is not complete keeps all those behind it from counting.
  induction list with
  | nil => simp [done]
  | cons head rest ih =>
    rw [through_cons, List.forall_mem_cons, ← ih]
    cases ended : (trace head).complete <;> simp [andThen, ended]

/-- Traces that come to their end carry out all their calls. -/
theorem through_invocations (complete : ∀ item ∈ list, (trace item).complete = true) :
    (through trace list).invocations = list.flatMap fun item => (trace item).invocations := by
  -- Each trace passes its calls on to the next.
  induction list with
  | nil => rfl
  | cons head rest ih =>
    obtain ⟨ended, later⟩ := List.forall_mem_cons.mp complete
    simp only [through_cons, andThen, ended, if_true, ih later, List.flatMap_cons]

end Trace

namespace CallTree

variable {registry : Registry}

theorem foldr_max_le {numbers : List Nat} {bound : Nat} :
    numbers.foldr max 0 ≤ bound ↔ ∀ number ∈ numbers, number ≤ bound := by
  -- The largest number is within a bound if all are.
  induction numbers with
  | nil => simp
  | cons number rest ih => rw [List.foldr_cons, Nat.max_le, ih, List.forall_mem_cons]

/-- The trace of a tree comes to its end exactly if the tree does not reach too deep. -/
theorem trace_complete_iff (tree : CallTree) (depth : Nat) :
    (tree.trace registry depth).complete = true ↔ tree.reach registry ≤ depth := by
  -- A node takes one level for itself, and its trees have the levels that are left.
  induction tree generalizing depth with
  | node call inner ih =>
    cases depth with
    | zero =>
      -- No tree reaches less deep than one level.
      have deep := reach_pos registry (node call inner)
      have stopped : ((node call inner).trace registry 0).complete = false := rfl
      rw [stopped]
      constructor
      · intro ended
        exact absurd ended Bool.false_ne_true
      · intro within
        omega
    | succ depth =>
      cases invoked : registry.invocation? call with
      | none => simp [trace, invoked, Trace.done]
      | some invocation =>
        -- The call itself never fails to complete.
        have last (trace : Trace) :
            (trace.andThen (.once invocation)).complete = trace.complete := by
          cases ended : trace.complete <;> simp [Trace.andThen, Trace.once, ended]
        have below : (node call inner).reach registry =
            1 + (inner.map (reach registry)).foldr max 0 := by
          simp [invoked]
        simp only [trace, invoked, last, Trace.through_complete, below]
        rw [Nat.add_comm 1, Nat.add_le_add_iff_right, foldr_max_le, List.forall_mem_map]
        exact forall₂_congr fun tree inside => ih tree inside depth

/-- A trace that comes to its end carries out the known calls of the tree in order. -/
theorem trace_invocations {tree : CallTree} {depth : Nat} (within : tree.reach registry ≤ depth) :
    (tree.trace registry depth).invocations =
      ((tree.known registry).flatMap postOrder).filterMap registry.invocation? := by
  -- The calls of the trees below come first, and then the call itself.
  induction tree generalizing depth with
  | node call inner ih =>
    have ended := (trace_complete_iff (node call inner) depth).mpr within
    cases depth with
    | zero => exact absurd ended Bool.false_ne_true
    | succ depth =>
      cases invoked : registry.invocation? call with
      | none => simp [trace, invoked, Trace.done]
      | some invocation =>
        -- None of the trees below reaches too deep, so all their traces are complete.
        have all : ∀ inside ∈ inner, (inside.trace registry depth).complete = true := by
          intro inside below
          have deep : (inner.map (reach registry)).foldr max 0 ≤ depth := by
            simp only [reach_node, invoked, Option.isSome_some, if_true] at within
            omega
          have member : inside.reach registry ∈ inner.map (reach registry) :=
            List.mem_map.mpr ⟨inside, below, rfl⟩
          exact (trace_complete_iff inside depth).mpr (foldr_max_le.mp deep _ member)
        -- What the trees below invoke is what the induction says of each of them.
        have inside : inner.flatMap (fun tree => (tree.trace registry depth).invocations) =
            ((inner.flatMap (known registry)).flatMap postOrder).filterMap
              registry.invocation? := by
          rw [List.flatMap_assoc, List.filterMap_flatMap]
          exact List.flatMap_congr fun tree below =>
            ih tree below ((trace_complete_iff tree depth).mp (all tree below))
        have through := Trace.through_complete.mpr all
        simp only [trace, invoked, Trace.andThen, through, if_true,
          Trace.through_invocations all, inside, Trace.once]
        simp [invoked]

end CallTree

/-- A call has a value exactly if its tree does not reach too deep, whatever came before. -/
theorem Scope.resolve_isSome_iff (scope : Scope) (depth : Nat) (call : Call)
    (progress : Progress) : (scope.resolve depth call progress).1.isSome = true ↔
      (scope.tree call).reach scope.registry ≤ depth := by
  rw [(resolve_follows scope depth call progress).complete]
  exact CallTree.trace_complete_iff (scope.tree call) depth

end Docket
