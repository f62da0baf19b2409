import Docket.Proofs.Expression.Gate
import Docket.Proofs.Expression.Level
import Docket.Proofs.Expression.Trace

/-! The limit on nesting is exact: of the calls of an expression it keeps those as text that reach
deeper, and a limit that no call exceeds makes no difference. -/

namespace Docket.Scope

/-- How deep calls must be allowed to nest so that a call has a value. -/
def reachDepth (scope : Scope) (call : Call) : Nat :=
  (scope.tree call).reach scope.registry

/-- A call of no function reaches one level deep. Any other call reaches one level deeper than the
calls in those of its arguments that are taken to call a function. -/
theorem reachDepth_eq (scope : Scope) (call : Call) :
    scope.reachDepth call =
      if (scope.registry.reached? call.name).isSome then
        1 + (((call.arguments.filter scope.callsIn).flatMap Call.all).map
          scope.reachDepth).foldr max 0
      else 1 := by
  -- An argument that is not read has no calls to resolve.
  have read : call.arguments.flatMap scope.callsOf =
      (call.arguments.filter scope.callsIn).flatMap Call.all := by
    induction call.arguments with
    | nil => rfl
    | cons argument rest ih =>
      by_cases called : scope.callsIn argument = true
      · simp only [List.flatMap_cons, List.filter_cons_of_pos called, callsOf, if_pos called, ih]
      · simp only [List.flatMap_cons, List.filter_cons_of_neg called, callsOf, if_neg called, ih,
          List.nil_append]
  -- A call is carried out if its name reaches a function, whatever its arguments are.
  have known : (scope.registry.invocation? call).isSome =
      (scope.registry.reached? call.name).isSome := by
    rw [Registry.invocation?, Option.isSome_map]
  rw [reachDepth, tree_eq, CallTree.reach_node, known, List.map_map, read]
  rfl

/-- Every call reaches at least one level deep. -/
theorem reachDepth_pos (scope : Scope) (call : Call) : 0 < scope.reachDepth call :=
  CallTree.reach_pos scope.registry (scope.tree call)

/-- A call in an argument that is read reaches less deep than its own call. -/
theorem reachDepth_lt {scope : Scope} {call inner : Call}
    (known : (scope.registry.reached? call.name).isSome = true)
    (inside : inner ∈ call.arguments.flatMap scope.callsOf) :
    scope.reachDepth inner < scope.reachDepth call := by
  -- The call takes one level more than the deepest of its inner calls.
  obtain ⟨argument, part, among⟩ := List.mem_flatMap.mp inside
  have called : scope.callsIn argument = true := by
    by_contra uncalled
    rw [callsOf, if_neg uncalled] at among
    exact absurd among List.not_mem_nil
  rw [callsOf, if_pos called] at among
  -- So the inner call is one of those over which the greatest depth is taken.
  have member : scope.reachDepth inner ∈
      ((call.arguments.filter scope.callsIn).flatMap Call.all).map scope.reachDepth :=
    List.mem_map_of_mem (List.mem_flatMap.mpr
      ⟨argument, List.mem_filter.mpr ⟨part, called⟩, among⟩)
  have bounded := CallTree.foldr_max_le.mp (Nat.le_refl _) _ member
  rw [reachDepth_eq scope call, if_pos known]
  omega

section

variable {scope : Scope} {first second : Resolver}

/-- Resolvers that agree on the calls of segments give them the same text. -/
theorem spliced_congr {list : List Segment}
    (agree : ∀ call ∈ list.filterMap Segment.call?, first call = second call)
    (progress : Progress) : spliced first list progress = spliced second list progress := by
  induction list generalizing progress with
  | nil => rfl
  | cons segment rest ih =>
    cases segment with
    | text literal =>
      have later := ih fun call inside => agree call (by simpa [Segment.call?] using inside)
      simp only [spliced, later]
    | call found =>
      -- The call itself is resolved alike, and so are the calls behind it.
      have here := agree found (by simp [Segment.call?])
      have later := ih fun call inside => agree call (by simp [Segment.call?, inside])
      simp only [spliced, here, later]

/-- Resolvers that agree on the calls of an argument give it the same value. -/
theorem argumentValue_congr {argument : Text}
    (agree : ∀ call ∈ scope.callsOf argument, first call = second call) (progress : Progress) :
    scope.argumentValue first argument progress = scope.argumentValue second argument progress := by
  -- An argument that is not read asks no resolver.
  unfold argumentValue
  split
  · rename_i called
    rw [callsOf, if_pos called] at agree
    rw [spliced_congr agree]
  · rfl

/-- Resolvers that agree on the calls of all arguments give them the same values. -/
theorem argumentValues_congr {arguments : List Text}
    (agree : ∀ call ∈ arguments.flatMap scope.callsOf, first call = second call)
    (progress : Progress) :
    scope.argumentValues first arguments progress =
      scope.argumentValues second arguments progress := by
  induction arguments generalizing progress with
  | nil => rfl
  | cons argument rest ih =>
    rw [List.flatMap_cons] at agree
    -- The calls of the first argument are among those on which the resolvers agree, and so are the
    -- others.
    have here (progress : Progress) : scope.argumentValue first argument progress =
        scope.argumentValue second argument progress :=
      argumentValue_congr (fun call inside => agree call (List.mem_append_left _ inside)) progress
    have later := ih fun call inside => agree call (List.mem_append_right _ inside)
    simp only [argumentValues, here, later]

end

/-- A call that has a value gains nothing from more levels. -/
theorem resolve_of_reachDepth_le {scope : Scope} {call : Call} {depth deeper : Nat}
    (within : scope.reachDepth call ≤ depth) (more : depth ≤ deeper) :
    scope.resolve deeper call = scope.resolve depth call := by
  -- The calls in the arguments reach less deep, so one level less is enough for them.
  induction depth generalizing call deeper with
  | zero =>
    have positive := scope.reachDepth_pos call
    omega
  | succ depth ih =>
    obtain ⟨deeper, rfl⟩ : ∃ less, deeper = less + 1 := ⟨deeper - 1, by omega⟩
    funext progress
    simp only [resolve]
    cases reached : scope.registry.reached? call.name with
    | none => rfl
    | some target =>
      have known : (scope.registry.reached? call.name).isSome = true := by rw [reached]; rfl
      -- So with one level less they agree as well, whether it is one less of few or of many.
      have agree : ∀ inner ∈ call.arguments.flatMap scope.callsOf,
          scope.resolve deeper inner = scope.resolve depth inner := by
        intro inner inside
        have less := reachDepth_lt known inside
        exact ih (by omega) (by omega)
      simp only [argumentValues_congr agree]

section

variable (scope : Scope) (limit : Nat)

/-- The values of arguments do not depend on the limit but through the resolver. -/
theorem argumentValues_withLimit (resolver : Resolver) (arguments : List Text)
    (progress : Progress) : { scope with limit }.argumentValues resolver arguments progress =
      scope.argumentValues resolver arguments progress := by
  induction arguments generalizing progress with
  | nil => rfl
  | cons argument rest ih =>
    -- The value of an argument does not mention the limit.
    have here : { scope with limit }.argumentValue resolver argument =
        scope.argumentValue resolver argument := rfl
    simp only [argumentValues, here, ih]

/-- What a call comes to depends on the levels that are left, not on the limit they count from. -/
theorem resolve_withLimit (depth : Nat) :
    { scope with limit }.resolve depth = scope.resolve depth := by
  induction depth with
  | zero => rfl
  | succ depth ih =>
    funext call progress
    simp only [resolve, ih, argumentValues_withLimit]
    rfl

end

/-- Segments whose calls reach no deeper than the limit have the same text under a wider limit. -/
theorem segmentValues_withLimit {scope : Scope} {limit : Nat} {list : List Segment}
    (within : ∀ call ∈ list.filterMap Segment.call?, scope.reachDepth call ≤ scope.limit)
    (wider : scope.limit ≤ limit) (progress : Progress) :
    { scope with limit }.segmentValues list progress = scope.segmentValues list progress := by
  -- Each call has a value already, and it keeps that value.
  induction list generalizing progress with
  | nil => rfl
  | cons segment rest ih =>
    cases segment with
    | text literal =>
      have later := ih fun call inside => within call (by simpa [Segment.call?] using inside)
      simp only [segmentValues, segmentValue, later]
    | call found =>
      have here := resolve_of_reachDepth_le (within found (by simp [Segment.call?])) wider
      have later := ih fun call inside => within call (by simp [Segment.call?, inside])
      simp only [segmentValues, segmentValue, resolve_withLimit, here, later]

/-- What becomes of the segments of an expression itself, from left to right: text stays, a call
that reaches deeper than the limit has no value and is put back as written, and any other call is
replaced by its value. -/
inductive Rendered (scope : Scope) : List Segment → Progress → Text → Progress → Prop where
  | nil {progress : Progress} : Rendered scope [] progress [] progress
  | text {literal text : Text} {rest : List Segment} {progress last : Progress}
      (later : Rendered scope rest progress text last) :
      Rendered scope (.text literal :: rest) progress (literal ++ text) last
  | kept {call : Call} {text : Text} {rest : List Segment} {progress middle last : Progress}
      (deep : scope.limit < scope.reachDepth call)
      (valueless : scope.resolveAt 1 call progress = (.error ⟨scope.limit⟩, middle))
      (later : Rendered scope rest middle text last) :
      Rendered scope (.call call :: rest) progress (call.source ++ text) last
  | replaced {call : Call} {value text : Text} {rest : List Segment}
      {progress middle last : Progress}
      (within : scope.reachDepth call ≤ scope.limit)
      (valued : scope.resolveAt 1 call progress = (.ok value, middle))
      (later : Rendered scope rest middle text last) :
      Rendered scope (.call call :: rest) progress (value ++ text) last

/-- The texts of segments of the expression itself are as the limit tells. -/
theorem rendered_segmentValues (scope : Scope) (list : List Segment) (progress : Progress) :
    scope.Rendered list progress (scope.segmentValues list progress).1
      (scope.segmentValues list progress).2 := by
  -- Whether a call has a value is a matter of how deep it reaches.
  induction list generalizing progress with
  | nil => exact .nil
  | cons segment rest ih =>
    cases segment with
    | text literal => exact .text (ih progress)
    | call found =>
      -- Whether there is a value decides between the two rules for calls.
      have valuedIff := scope.resolve_isSome_iff scope.limit found progress
      have top : scope.resolveAt 1 found progress =
          orTooDeep scope.limit (scope.resolve scope.limit found progress) := by
        rw [resolveAt_one]
        rfl
      cases outcome : scope.resolve scope.limit found progress with
      | mk value middle =>
        rw [outcome] at valuedIff top
        simp only [segmentValues, segmentValue, outcome]
        cases value with
        | none =>
          have deep : scope.limit < scope.reachDepth found := by
            simpa [reachDepth] using valuedIff
          exact .kept deep top (ih middle)
        | some value =>
          have within : scope.reachDepth found ≤ scope.limit := by
            simpa [reachDepth] using valuedIff
          exact .replaced within top (ih middle)

/-- The calls of an expression are rendered by how deep they reach: those that reach deeper than the
limit are put back as written, the others are replaced by their values, and references are replaced
at last. No fault comes out of the expression itself, so it never stays as a whole. A limit that no
call exceeds can be any wider one. -/
theorem evaluate_nesting_exact {scope : Scope} {expression : Text}
    (called : scope.callsIn expression = true) (progress : Progress) :
    (∀ call, scope.reachDepth call =
      if (scope.registry.reached? call.name).isSome then
        1 + (((call.arguments.filter scope.callsIn).flatMap Call.all).map
          scope.reachDepth).foldr max 0
      else 1) ∧
    (∃ text last, scope.textAtTop expression progress = (.ok text, last) ∧
      scope.Rendered (segments expression) progress text last ∧
      scope.evaluate expression progress = (scope.bindings.substitute text, last)) ∧
    scope.evaluateByLevel expression progress = scope.evaluate expression progress ∧
    ((∀ call ∈ Call.all expression, scope.reachDepth call ≤ scope.limit) →
      ∀ limit, scope.limit ≤ limit →
        { scope with limit }.evaluate expression progress = scope.evaluate expression progress) := by
  -- A call is reached, so the segments are read one by one.
  have read : scope.evaluate expression progress =
      (scope.bindings.substitute (scope.segmentValues (segments expression) progress).1,
        (scope.segmentValues (segments expression) progress).2) := by
    rw [evaluate, if_pos called]
  refine ⟨scope.reachDepth_eq, ⟨_, _, scope.textAtTop_eq expression progress,
    scope.rendered_segmentValues _ _, read⟩, scope.evaluateByLevel_eq expression progress, ?_⟩
  intro within limit wider
  -- The wider limit reads the same texts, since it has no part in what is taken to be a call.
  have same := segmentValues_withLimit within wider progress
  have reread : { scope with limit }.callsIn expression = true := called
  rw [read, evaluate, if_pos reread, same]

/-- Under a limit of two the first call of three stays, the unknown one vanishes whatever is in it,
and the last one has its value. From three on the first one has its value too. -/
theorem evaluate_nesting_exact_mixed :
    let shallow : Scope := { standard with limit := 2 }
    let enough : Scope := { standard with limit := 3 }
    let expression := "TRIM(TRIM(TRIM(a)))-FOO(TRIM(TRIM(b)))-TRIM( c )".toList
    (∃ last, shallow.Rendered (segments expression) ⟨.fresh, []⟩
        "TRIM(TRIM(TRIM(a)))--c".toList last) ∧
      ∀ limit, 3 ≤ limit →
        ({ enough with limit }.evaluate expression ⟨.fresh, []⟩).1 = "a--c".toList := by
  intro shallow enough expression
  constructor
  · -- The text under the narrow limit is evaluated, and the rules that it obeys come along.
    obtain ⟨-, ⟨text, last, top, rendered, -⟩, -⟩ :=
      @evaluate_nesting_exact shallow expression (by decide +kernel) ⟨.fresh, []⟩
    have shown : (shallow.segmentValues (segments expression) ⟨.fresh, []⟩).1 =
        "TRIM(TRIM(TRIM(a)))--c".toList := by decide +kernel
    rw [textAtTop_eq, shown] at top
    obtain rfl := Except.ok.inj (Prod.mk.inj top).1
    exact ⟨last, rendered⟩
  · -- No call exceeds three levels, so every wider limit gives what three gives.
    intro limit wider
    have within : ∀ call ∈ Call.all expression, enough.reachDepth call ≤ enough.limit := by
      decide +kernel
    have same := (@evaluate_nesting_exact enough expression (by decide +kernel)
      ⟨.fresh, []⟩).2.2.2 within limit wider
    rw [same]
    decide +kernel

end Docket.Scope
