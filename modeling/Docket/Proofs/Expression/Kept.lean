import Docket.Proofs.Expression.Gate
import Docket.Proofs.Expression.Trace

/-! What a call that is nested too deep leaves behind although it stays as text. -/

namespace Docket

/-- A call at a place where calls may be nested `depth` deep. -/
structure PlacedCall where
  depth : Nat
  call : Call
deriving DecidableEq, Repr

/-- What is left when calls are carried out one after the other. -/
def Scope.run (scope : Scope) (calls : List PlacedCall) (progress : Progress) : Progress :=
  calls.foldl (fun progress placed => (scope.resolve placed.depth placed.call progress).2) progress

namespace CallTree

/-- The parts of trees from left to right, up to the first tree that does not fit. -/
def upTo {α : Type} (fits : CallTree → Bool) (part : CallTree → List α) : List CallTree → List α
  | [] => []
  | tree :: rest => part tree ++ if fits tree then upTo fits part rest else []

/-- The outermost calls of a tree that are carried out where calls may be nested `depth` deep: the
tree's own call, or, if the tree reaches too deep, those before its first call that is too deep. -/
def settled (registry : Registry) : Nat → CallTree → List PlacedCall
  | 0, _ => []
  | depth + 1, .node call inner =>
    if (node call inner).reach registry ≤ depth + 1 then [⟨depth + 1, call⟩]
    else upTo (fun tree => tree.reach registry ≤ depth) (settled registry depth) inner

/-- What carrying out the calls of a tree would record, from left to right and each behind the
calls in its arguments; a call that is nested too deep stands there as `none`. -/
def visits (registry : Registry) : Nat → CallTree → List (Option Invocation)
  | 0, _ => [none]
  | depth + 1, .node call inner =>
    match registry.invocation? call with
    | none => []
    | some invocation => inner.flatMap (visits registry depth) ++ [some invocation]

variable {registry : Registry}

/-- A tree that does not reach too deep is carried out by its own call. -/
theorem settled_of_reach_le {call : Call} {inner : List CallTree} {depth : Nat}
    (within : (node call inner).reach registry ≤ depth) :
    (node call inner).settled registry depth = [⟨depth, call⟩] := by
  cases depth with
  | zero => exact absurd within (Nat.not_le.mpr (reach_pos registry _))
  | succ depth => rw [settled, if_pos within]

/-- A part up to some tree is part of one of the trees. -/
theorem exists_of_mem_upTo {α : Type} {fits : CallTree → Bool} {part : CallTree → List α}
    {trees : List CallTree} {item : α} (inside : item ∈ upTo fits part trees) :
    ∃ tree ∈ trees, item ∈ part tree := by
  induction trees with
  | nil => exact absurd inside List.not_mem_nil
  | cons tree rest ih =>
    -- It is part of the first tree, or the first tree fits and it comes later.
    rcases List.mem_append.mp inside with here | later
    · exact ⟨tree, .head _, here⟩
    · split at later
      · obtain ⟨found, among, there⟩ := ih later
        exact ⟨found, .tail _ among, there⟩
      · exact absurd later List.not_mem_nil

/-- No settled call stands at a place where calls may be nested deeper. -/
theorem settled_depth_le {tree : CallTree} {depth : Nat} {placed : PlacedCall}
    (inside : placed ∈ tree.settled registry depth) : placed.depth ≤ depth := by
  induction depth generalizing tree with
  | zero => exact absurd inside List.not_mem_nil
  | succ depth ih =>
    obtain ⟨call, inner⟩ := tree
    rw [settled] at inside
    -- The tree settles as a whole, or what settles stands one level further down.
    split at inside
    · rw [List.mem_singleton.mp inside]
    · obtain ⟨below, -, there⟩ := exists_of_mem_upTo inside
      exact Nat.le_succ_of_le (ih there)

/-- The calls that are carried out for a tree that reaches too deep stand inside it. -/
theorem settled_depth_lt {tree : CallTree} {depth : Nat} {placed : PlacedCall}
    (deep : depth < tree.reach registry) (inside : placed ∈ tree.settled registry depth) :
    placed.depth < depth := by
  cases depth with
  | zero => exact absurd inside List.not_mem_nil
  | succ depth =>
    -- The tree itself does not settle, so what does stands below it.
    obtain ⟨call, inner⟩ := tree
    rw [settled, if_neg (Nat.not_le.mpr deep)] at inside
    obtain ⟨below, -, there⟩ := exists_of_mem_upTo inside
    exact Nat.lt_succ_of_le (settled_depth_le there)

end CallTree

namespace Trace

/-- The trace of visits: those before the first that is nested too deep are carried out. -/
def ofVisits (visits : List (Option Invocation)) : Trace :=
  ⟨visits.all Option.isSome, (visits.takeWhile Option.isSome).filterMap id⟩

theorem ofVisits_append (front back : List (Option Invocation)) :
    ofVisits (front ++ back) = (ofVisits front).andThen (ofVisits back) := by
  -- Nothing counts behind a visit that is nested too deep.
  induction front with
  | nil => rfl
  | cons visit rest ih =>
    cases visit with
    | none => rfl
    | some invocation =>
      -- A visit that is not too deep is one call before the others.
      have first (later : List (Option Invocation)) :
          ofVisits (some invocation :: later) = (once invocation).andThen (ofVisits later) := rfl
      rw [List.cons_append, first, ih, first, andThen_assoc]

theorem ofVisits_flatMap {α : Type} (visits : α → List (Option Invocation)) (list : List α) :
    ofVisits (list.flatMap visits) = through (fun item => ofVisits (visits item)) list := by
  induction list with
  | nil => rfl
  | cons item rest ih => rw [List.flatMap_cons, ofVisits_append, ih, through_cons]

end Trace

/-- The trace of a tree is that of its visits. -/
theorem CallTree.trace_eq_ofVisits {registry : Registry} (depth : Nat) (tree : CallTree) :
    tree.trace registry depth = .ofVisits (tree.visits registry depth) := by
  induction depth generalizing tree with
  | zero => rfl
  | succ depth ih =>
    obtain ⟨call, inner⟩ := tree
    have below : trace registry depth = fun tree => .ofVisits (tree.visits registry depth) :=
      funext ih
    -- An unknown call is visited alone; a known one is visited after the calls in its arguments.
    cases invoked : registry.invocation? call with
    | none => simp only [trace, visits, invoked]; rfl
    | some invocation =>
      simp only [trace, visits, invoked, below, Trace.ofVisits_append, Trace.ofVisits_flatMap]
      rfl

namespace Scope

variable {scope : Scope}

theorem run_append (front back : List PlacedCall) (progress : Progress) :
    scope.run (front ++ back) progress = scope.run back (scope.run front progress) :=
  List.foldl_append

/-- Calls that are resolved in turn leave what their settled calls leave. -/
theorem inTurn_run {depth : Nat}
    (each : ∀ call progress, (scope.resolve depth call progress).2 =
      scope.run ((scope.tree call).settled scope.registry depth) progress)
    (calls : List Call) (progress : Progress) :
    (inTurn (scope.resolve depth) calls progress).2 =
      scope.run (CallTree.upTo (fun tree => tree.reach scope.registry ≤ depth)
        (CallTree.settled scope.registry depth) (calls.map scope.tree)) progress := by
  -- A call has a value exactly if its tree fits, and only then the next call follows.
  induction calls generalizing progress with
  | nil => rfl
  | cons call rest ih =>
    have valued := scope.resolve_isSome_iff depth call progress
    have front := each call progress
    rw [List.map_cons, CallTree.upTo, run_append, ← front]
    cases outcome : scope.resolve depth call progress with
    | mk value middle =>
      rw [outcome] at valued
      cases value with
      | none =>
        -- Without a value the calls behind are not looked at, and neither are their trees.
        have deep : ¬ (scope.tree call).reach scope.registry ≤ depth := by simpa using valued
        simp [inTurn, outcome, deep, run]
      | some value =>
        have fits : (scope.tree call).reach scope.registry ≤ depth := by simpa using valued
        simp [inTurn, outcome, fits, ih]

/-- Resolving a call leaves what its settled calls leave, whether or not it has a value. -/
theorem resolve_run (depth : Nat) (call : Call) (progress : Progress) :
    (scope.resolve depth call progress).2 =
      scope.run ((scope.tree call).settled scope.registry depth) progress := by
  -- The induction is on how deep calls may still be nested.
  induction depth generalizing call progress with
  | zero => rfl
  | succ depth ih =>
    by_cases within : (scope.tree call).reach scope.registry ≤ depth + 1
    · -- The call has a value, and it is itself what is carried out.
      have own : (scope.tree call).settled scope.registry (depth + 1) = [⟨depth + 1, call⟩] :=
        CallTree.settled_of_reach_le within
      rw [own]
      rfl
    · -- One of the calls in the arguments has no value, so the call itself is not carried out.
      have valueless : ¬ (scope.resolve (depth + 1) call progress).1.isSome = true :=
        mt (scope.resolve_isSome_iff (depth + 1) call progress).mp within
      have inner := ending_argumentValues scope (scope.resolve depth) call.arguments progress
      have left := inTurn_run ih (call.arguments.flatMap scope.callsOf) progress
      rw [tree_eq] at within ⊢
      rw [CallTree.settled, if_neg within, ← left, ← inner]
      simp only [resolve] at valueless ⊢
      cases reached : scope.registry.reached? call.name with
      | none => simp [reached] at valueless
      | some target =>
        cases outcome : scope.argumentValues (scope.resolve depth) call.arguments progress with
        | mk values middle =>
          cases values with
          | none => rfl
          | some arguments => simp [reached, outcome] at valueless

/-- A settled call has a value where it stands. -/
theorem reach_le_of_mem_settled {depth : Nat} {call : Call} {placed : PlacedCall}
    (inside : placed ∈ (scope.tree call).settled scope.registry depth) :
    (scope.tree placed.call).reach scope.registry ≤ placed.depth := by
  -- Either it is the call itself, or it is settled for a call in one of the arguments.
  induction depth generalizing call with
  | zero => exact absurd inside List.not_mem_nil
  | succ depth ih =>
    by_cases within : (scope.tree call).reach scope.registry ≤ depth + 1
    · have own : (scope.tree call).settled scope.registry (depth + 1) = [⟨depth + 1, call⟩] :=
        CallTree.settled_of_reach_le within
      rw [own] at inside
      rwa [List.mem_singleton.mp inside]
    · -- The call reaches too deep, so only what is settled below it is left.
      rw [tree_eq] at within inside
      rw [CallTree.settled, if_neg within] at inside
      obtain ⟨below, among, there⟩ := CallTree.exists_of_mem_upTo inside
      obtain ⟨argument, -, rfl⟩ := List.mem_map.mp among
      exact ih there

/-- Segments of the expression itself leave what their settled calls leave. -/
theorem segmentValues_run (list : List Segment) (progress : Progress) :
    (scope.segmentValues list progress).2 = scope.run
      ((list.filterMap Segment.call?).flatMap fun call =>
        (scope.tree call).settled scope.registry scope.limit) progress := by
  -- The segments are worked through from left to right, also behind a call that stays.
  induction list generalizing progress with
  | nil => rfl
  | cons segment rest ih =>
    simp only [segmentValues, ih]
    cases segment with
    | text literal => simp [segmentValue, List.filterMap_cons, Segment.call?]
    | call found =>
      have left := scope.resolve_run scope.limit found progress
      simp [segmentValue, Segment.call?, run_append, left]

/-- An evaluation leaves what the settled calls of its expression leave. -/
theorem evaluate_run (expression : Text) (progress : Progress) :
    (scope.evaluate expression progress).2 = scope.run
      ((scope.callsOf expression).flatMap fun call =>
        (scope.tree call).settled scope.registry scope.limit) progress := by
  unfold evaluate callsOf
  split
  · exact segmentValues_run (segments expression) progress
  · rfl

/-- A call of the expression itself that is nested too deep is put back as text. -/
theorem segmentValue_of_deep {call : Call}
    (deep : scope.limit < (scope.tree call).reach scope.registry) (progress : Progress) :
    scope.segmentValue (.call call) progress =
      (call.source, scope.run ((scope.tree call).settled scope.registry scope.limit) progress) := by
  -- A call has a value exactly if its tree fits.
  have valueless : (scope.resolve scope.limit call progress).1 = none := by
    have valued := scope.resolve_isSome_iff scope.limit call progress
    have absent := mt valued.mp (Nat.not_le.mpr deep)
    simpa using absent
  rw [← scope.resolve_run scope.limit call progress]
  simp [segmentValue, valueless]

/-- The calls of the expression itself that are replaced by their values. -/
def replaced (scope : Scope) (expression : Text) : List PlacedCall :=
  ((scope.callsOf expression).filter fun call =>
    (scope.tree call).reach scope.registry ≤ scope.limit).map fun call => ⟨scope.limit, call⟩

/-- What an evaluation leaves is left by its settled calls, one after the other. Where a call of
the expression itself is replaced by its value, the settled call is that call. Where it is nested
too deep, its text stays; the settled calls then stand inside it, have values, and are together
the calls that come before the first one that is nested too deep. -/
theorem evaluate_leaves_settled (scope : Scope) (expression : Text) (progress : Progress) :
    (scope.evaluate expression progress).2 = scope.run ((scope.callsOf expression).flatMap
        fun call => (scope.tree call).settled scope.registry scope.limit) progress ∧
      (∀ call, (scope.tree call).reach scope.registry ≤ scope.limit →
        (scope.tree call).settled scope.registry scope.limit = [⟨scope.limit, call⟩] ∧
          ∀ progress, (scope.resolve scope.limit call progress).1.isSome = true) ∧
      ∀ call, scope.limit < (scope.tree call).reach scope.registry →
        (∀ progress, scope.segmentValue (.call call) progress = (call.source,
            scope.run ((scope.tree call).settled scope.registry scope.limit) progress)) ∧
          (∀ placed ∈ (scope.tree call).settled scope.registry scope.limit,
            placed.depth < scope.limit ∧
              ∀ progress, (scope.resolve placed.depth placed.call progress).1.isSome = true) ∧
          ∀ progress,
            (scope.run ((scope.tree call).settled scope.registry scope.limit)
              progress).invocations = progress.invocations ++ (((scope.tree call).visits
                scope.registry scope.limit).takeWhile Option.isSome).filterMap id := by
  refine ⟨evaluate_run expression progress, fun call within => ?_, fun call deep => ?_⟩
  · -- A call that fits settles as a whole and has a value.
    exact ⟨CallTree.settled_of_reach_le within, fun progress =>
      (scope.resolve_isSome_iff scope.limit call progress).mpr within⟩
  · refine ⟨segmentValue_of_deep deep, fun placed inside => ?_, fun progress => ?_⟩
    · exact ⟨CallTree.settled_depth_lt deep inside, fun progress =>
        (scope.resolve_isSome_iff placed.depth placed.call progress).mpr
          (reach_le_of_mem_settled inside)⟩
    · -- The trace of the call lists the visits before the first one that is too deep.
      have carried := (resolve_follows scope scope.limit call progress).carried
      simp only [CallTree.trace_eq_ofVisits, resolve_run] at carried
      exact carried

/-- A function in an argument before the one that is nested too deep is carried out. -/
theorem evaluate_leaves_settled_sibling :
    let shallow : Scope := { standard with limit := 2 }
    let kept : Call := ⟨"LEFT".toList, "AUTOINCREMENT(\"N\"),TRIM(TRIM(a))".toList⟩
    shallow.segmentValue (.call kept) ⟨.fresh, []⟩ = (kept.source,
      shallow.run [⟨1, ⟨"AUTOINCREMENT".toList, "\"N\"".toList⟩⟩] ⟨.fresh, []⟩) := by
  intro shallow kept
  -- The second argument reaches three levels, the limit is two.
  have deep : shallow.limit < (shallow.tree kept).reach shallow.registry := by decide +kernel
  have left := ((evaluate_leaves_settled shallow kept.source ⟨.fresh, []⟩).2.2 kept deep).1
    ⟨.fresh, []⟩
  have settled : (shallow.tree kept).settled shallow.registry shallow.limit =
      [⟨1, ⟨"AUTOINCREMENT".toList, "\"N\"".toList⟩⟩] := by decide +kernel
  rw [settled] at left
  exact left

/-- A call that stays because a later argument is nested too deep has moved a counter, although no
call of the expression is replaced by a value. -/
theorem evaluate_counts_for_kept :
    let shallow : Scope := { standard with limit := 2 }
    let expression := "LEFT(AUTOINCREMENT(\"N\"),TRIM(TRIM(a)))".toList
    (shallow.evaluate expression ⟨.fresh, []⟩).1 = expression ∧
      shallow.replaced expression = [] ∧
      (shallow.evaluate expression ⟨.fresh, []⟩).2.invocations =
        [⟨"AUTOINCREMENT".toList, 1⟩] ∧
      (shallow.evaluate expression ⟨.fresh, []⟩).2.resources.counters ≠
        (shallow.run (shallow.replaced expression) ⟨.fresh, []⟩).resources.counters := by
  -- Each part is evaluated.
  refine ⟨?_, ?_, ?_, ?_⟩
  · decide +kernel
  · decide +kernel
  · decide +kernel
  · decide +kernel

end Scope

end Docket
