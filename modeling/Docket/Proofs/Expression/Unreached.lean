import Docket.Proofs.Expression.Gate

/-! What an expression is worth if its calls reach no function, and when it stays as written. -/

namespace Docket

/-- No call that reading a text comes to reaches a function. -/
def Registry.ReachesNothing (registry : Registry) (text : Text) : Prop :=
  -- This asks for the calls in arguments too, even those that nobody looks at.
  ∀ path call, Leads text path call → registry.reached? call.name = none

/-- A text reaches no function if its calls are unknown and their arguments hold no calls. -/
theorem Registry.reachesNothing_of_flat {registry : Registry} {text : Text}
    (flat : ∀ call ∈ Call.all text, registry.reached? call.name = none ∧
      ∀ argument ∈ call.arguments, Call.all argument = []) : registry.ReachesNothing text := by
  -- The way to a call ends with a call of the text, or goes on in an argument without calls.
  intro path call leads
  cases leads with
  | here found => exact (flat call found).1
  | inside found part leads =>
    have none := (flat _ found).2 _ part
    exact absurd none ((Call.occursIn_iff_all_ne_nil _).mp leads.occursIn)

namespace Scope

/-- The text that a segment leaves behind if it calls no function: a call vanishes, but it stays
where no call may be carried out at all. -/
def unreachedSegment (scope : Scope) (segment : Segment) : Text :=
  if scope.limit = 0 then segment.source else segment.literal

/-- A segment that calls no function leaves its text and changes nothing. -/
theorem segmentValue_of_unreached {scope : Scope} {segment : Segment}
    (unreached : ∀ call, segment = .call call → scope.registry.reached? call.name = none)
    (progress : Progress) :
    scope.segmentValue segment progress = (scope.unreachedSegment segment, progress) := by
  cases segment with
  | text literal => simp [segmentValue, unreachedSegment, Segment.source, Segment.literal]
  | call found =>
    have unknown := unreached found rfl
    -- Where the limit is zero even a call of no function is nested too deep.
    cases limit : scope.limit with
    | zero => simp [segmentValue, unreachedSegment, limit, resolve, Segment.source]
    | succ depth =>
      simp [segmentValue, unreachedSegment, limit, resolve, unknown, Segment.literal]

/-- Segments that call no function leave their texts and change nothing. -/
theorem segmentValues_of_unreached {scope : Scope} {list : List Segment}
    (unreached : ∀ call, .call call ∈ list → scope.registry.reached? call.name = none)
    (progress : Progress) :
    scope.segmentValues list progress = (list.flatMap scope.unreachedSegment, progress) := by
  -- The segments are worked through from left to right, and none changes anything.
  induction list with
  | nil => rfl
  | cons segment rest ih =>
    have first : ∀ call, segment = .call call → scope.registry.reached? call.name = none :=
      fun call same => unreached call (by simp [same])
    have here := segmentValue_of_unreached first progress
    have later := ih fun call inside => unreached call (.tail _ inside)
    simp only [segmentValues, here, later, List.flatMap_cons]

/-- A segment that is a call is one of the calls of the text. -/
theorem mem_all_of_mem_segments {text : Text} {call : Call}
    (inside : .call call ∈ segments text) : call ∈ Call.all text :=
  List.mem_filterMap.mpr ⟨.call call, inside, rfl⟩

/-- What remains of an expression whose calls reach no function: they are taken out if the text is
taken to call a function, and if calls may be carried out at all. -/
def remains (scope : Scope) (expression : Text) : Text :=
  -- The test looks for names in the raw text, so it may hold although no call reaches a function.
  if scope.callsIn expression = true ∧ scope.limit ≠ 0 then literals expression else expression

/-- The segments of a text leave the whole text or its literal texts. -/
theorem flatMap_unreachedSegment (scope : Scope) (text : Text) :
    (segments text).flatMap scope.unreachedSegment =
      if scope.limit = 0 then text else literals text := by
  -- The rule is the same for all segments, as only the limit decides.
  by_cases none : scope.limit = 0
  · have whole : scope.unreachedSegment = Segment.source := by
      funext segment
      simp [unreachedSegment, none]
    rw [whole, flatMap_source_segments, if_pos none]
  · have cut : scope.unreachedSegment = Segment.literal := by
      funext segment
      simp [unreachedSegment, none]
    rw [cut, if_neg none]
    rfl

/-- An expression whose calls reach no function is worth what remains of it, with its references
replaced, and changes nothing. So it stays as written exactly if it is not taken to call a
function, or no call may be carried out, or taking its calls out makes no difference. -/
theorem evaluate_of_unreached {scope : Scope} {expression : Text}
    (unreached : scope.registry.ReachesNothing expression) (progress : Progress) :
    scope.evaluate expression progress =
        (scope.bindings.substitute (scope.remains expression), progress) ∧
      ((scope.evaluate expression progress).1 = scope.bindings.substitute expression ↔
        scope.callsIn expression = false ∨ scope.limit = 0 ∨
          scope.bindings.substitute (literals expression) =
            scope.bindings.substitute expression) := by
  -- If the text is read at all, its segments leave what remains of it.
  have worth : scope.evaluate expression progress =
      (scope.bindings.substitute (scope.remains expression), progress) := by
    cases calls : scope.callsIn expression with
    | false => simp [evaluate, remains, calls]
    | true =>
      have outermost : ∀ call, .call call ∈ segments expression →
          scope.registry.reached? call.name = none :=
        fun call inside => unreached _ call (.here (mem_all_of_mem_segments inside))
      have read := segmentValues_of_unreached outermost progress
      rw [flatMap_unreachedSegment] at read
      -- At the limit zero a call stays as it was written; else it leaves nothing.
      by_cases none : scope.limit = 0
      · simp [evaluate, remains, calls, none, read]
      · simp [evaluate, remains, calls, none, read]
  refine ⟨worth, ?_⟩
  -- Only where calls are taken out can the value be another one.
  rw [worth]
  unfold remains
  cases calls : scope.callsIn expression with
  | false => simp
  | true =>
    by_cases none : scope.limit = 0
    · simp [none]
    · simp [none]

/-- A call of an unknown function in a plain expression stays. -/
theorem evaluate_keeps_copy :
    (standard.evaluate "COPY(2)".toList ⟨.fresh, []⟩).1 =
      standard.bindings.substitute "COPY(2)".toList := by
  have unreached : standard.registry.ReachesNothing "COPY(2)".toList :=
    Registry.reachesNothing_of_flat (by decide +kernel)
  exact (evaluate_of_unreached unreached ⟨.fresh, []⟩).2.mpr (.inl (by decide +kernel))

/-- A call of an unknown function whose name ends like a known one vanishes, although nothing
that the expression calls is a function. -/
theorem evaluate_drops_longer_name :
    standard.registry.ReachesNothing "GIF(1)".toList ∧
      (standard.evaluate "GIF(1)".toList ⟨.fresh, []⟩).1 = [] ∧
      standard.bindings.substitute "GIF(1)".toList = "GIF(1)".toList := by
  refine ⟨Registry.reachesNothing_of_flat ?_, ?_, ?_⟩
  · decide +kernel
  · decide +kernel
  · decide +kernel

end Scope

end Docket
