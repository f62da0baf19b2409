import Docket.Proofs.Expression.Ledger

/-! Evaluations in two surroundings are alike if every function that they can reach is: from related
resources they give the same value and leave related resources. -/

namespace Docket

/-- Two evaluations have come equally far: they have carried out the same calls, and what these have
left is related. -/
structure Progress.Related (related : Resources → Resources → Prop) (first second : Progress) :
    Prop where
  resources : related first.resources second.resources
  invocations : first.invocations = second.invocations

/-- Two outcomes are alike if they have one answer and have come equally far. -/
def Alike (related : Resources → Resources → Prop) {α : Type} (left right : α × Progress) : Prop :=
  ∃ answer first second, Progress.Related related first second ∧
    left = (answer, first) ∧ right = (answer, second)

/-- In two surroundings a function answers alike and leaves related resources. -/
def Function.Alike (related : Resources → Resources → Prop) (here there : Environment)
    (function : Function) : Prop :=
  ∀ arguments first second, related first second →
    (function.call here arguments first).1 = (function.call there arguments second).1 ∧
      related (function.call here arguments first).2 (function.call there arguments second).2

variable {related : Resources → Resources → Prop}

/-- A function is alike if its runs are: how many arguments it accepts is its own matter. -/
theorem Function.alike_of_run {function : Function} {here there : Environment}
    (runs : ∀ arguments first second, related first second →
      (function.run here arguments first).1 = (function.run there arguments second).1 ∧
        related (function.run here arguments first).2 (function.run there arguments second).2) :
    function.Alike related here there := by
  intro arguments first second start
  -- A call with a wrong number of arguments fails the same on both sides, before anything runs.
  unfold Function.call
  split
  · exact runs arguments first second start
  · exact ⟨rfl, start⟩

/-- The value of a call is the same, whether or not the fallback stands in. -/
theorem Function.Alike.value {function : Function} {here there : Environment}
    (alike : function.Alike related here there) (arguments : List Text) {first second : Resources}
    (start : related first second) :
    (function.value here arguments first).1 = (function.value there arguments second).1 ∧
      related (function.value here arguments first).2
        (function.value there arguments second).2 := by
  -- The two calls are made opaque, so that only their outcomes are told apart.
  have called := alike arguments first second start
  unfold Function.value
  generalize function.call here arguments first = left at called
  generalize function.call there arguments second = right at called
  obtain ⟨outcome, left⟩ := left
  obtain ⟨other, right⟩ := right
  obtain ⟨rfl, kept⟩ := called
  -- The two outcomes are one, so the fallback stands in on both sides or on none.
  cases outcome with
  | ok value => exact ⟨rfl, kept⟩
  | error cause => exact ⟨rfl, kept⟩

namespace Scope

/-- The scope in other surroundings. -/
def within (scope : Scope) (there : Environment) : Scope :=
  { scope with environment := there }

variable {scope : Scope} {there : Environment}

/-- Carrying out a call of a function that is alike is alike. -/
theorem invoke_alike {function : Function}
    (alike : function.Alike related scope.environment there) (arguments : List Text)
    {first second : Progress} (start : Progress.Related related first second) :
    Alike related (scope.invoke function arguments first)
      ((scope.within there).invoke function arguments second) := by
  obtain ⟨same, kept⟩ := alike.value arguments start.resources
  refine ⟨_, _, _, ⟨kept, ?_⟩, rfl, Prod.ext same.symm rfl⟩
  exact congrArg (· ++ [⟨function.name, arguments.length⟩]) start.invocations

section

variable {left right : Resolver}

/-- The text of segments is alike if their calls are. -/
theorem spliced_alike
    (resolvers : ∀ call first second, Progress.Related related first second →
      Alike related (left call first) (right call second))
    (list : List Segment) {first second : Progress}
    (start : Progress.Related related first second) :
    Alike related (spliced left list first) (spliced right list second) := by
  -- A call without a value ends both walks.
  induction list generalizing first second with
  | nil => exact ⟨some [], first, second, start, rfl, rfl⟩
  | cons segment rest ih =>
    -- A text is its own value, and a call is resolved alike before the rest.
    cases segment with
    | text literal =>
      obtain ⟨back, last, final, kept, here, elsewhere⟩ := ih start
      exact ⟨back.map (literal ++ ·), last, final, kept, by simp [spliced, here],
        by simp [spliced, elsewhere]⟩
    | call found =>
      obtain ⟨front, middle, between, kept, here, elsewhere⟩ := resolvers found first second start
      cases front with
      | none => exact ⟨none, middle, between, kept, by simp [spliced, here],
          by simp [spliced, elsewhere]⟩
      | some front =>
        obtain ⟨back, last, final, kept, onward, beyond⟩ := ih kept
        exact ⟨back.map (front ++ ·), last, final, kept, by simp [spliced, here, onward],
          by simp [spliced, elsewhere, beyond]⟩

/-- The value of an argument is alike if its calls are. -/
theorem argumentValue_alike
    (resolvers : ∀ call first second, Progress.Related related first second →
      Alike related (left call first) (right call second))
    (argument : Text) {first second : Progress}
    (start : Progress.Related related first second) :
    Alike related (scope.argumentValue left argument first)
      ((scope.within there).argumentValue right argument second) := by
  -- The two scopes differ in their environments only, so the same calls are reached.
  have called : (scope.within there).callsIn argument = scope.callsIn argument := rfl
  have bound : (scope.within there).bindings = scope.bindings := rfl
  unfold argumentValue
  rw [called, bound]
  split
  · obtain ⟨value, last, final, kept, here, elsewhere⟩ :=
      spliced_alike resolvers (segments argument) start
    exact ⟨value.map scope.bindings.substitute, last, final, kept, by simp [here],
      by simp [elsewhere]⟩
  · exact ⟨_, first, second, start, rfl, rfl⟩

/-- The values of arguments are alike if their calls are. -/
theorem argumentValues_alike
    (resolvers : ∀ call first second, Progress.Related related first second →
      Alike related (left call first) (right call second))
    (arguments : List Text) {first second : Progress}
    (start : Progress.Related related first second) :
    Alike related (scope.argumentValues left arguments first)
      ((scope.within there).argumentValues right arguments second) := by
  -- An argument without a value ends both walks.
  induction arguments generalizing first second with
  | nil => exact ⟨some [], first, second, start, rfl, rfl⟩
  | cons argument rest ih =>
    obtain ⟨value, middle, between, kept, here, elsewhere⟩ :=
      @argumentValue_alike _ scope there _ _ resolvers argument _ _ start
    cases value with
    | none => exact ⟨none, middle, between, kept, by simp [argumentValues, here],
        by simp [argumentValues, elsewhere]⟩
    | some value =>
      obtain ⟨values, last, final, kept, onward, beyond⟩ := ih kept
      exact ⟨values.map (value :: ·), last, final, kept, by simp [argumentValues, here, onward],
        by simp [argumentValues, elsewhere, beyond]⟩

end

section

variable (functions : ∀ function, scope.registry.Holds function →
  function.Alike related scope.environment there)
include functions

/-- Resolving a call is alike if the functions of the registry are. -/
theorem resolve_alike (depth : Nat) (call : Call) (first second : Progress)
    (start : Progress.Related related first second) :
    Alike related (scope.resolve depth call first)
      ((scope.within there).resolve depth call second) := by
  -- The induction is on how deep calls may still be nested.
  induction depth generalizing call first second with
  | zero => exact ⟨none, first, second, start, rfl, rfl⟩
  | succ depth ih =>
    have known : (scope.within there).registry = scope.registry := rfl
    -- The function is looked up in the same registry.
    cases reached : scope.registry.reached? call.name with
    | none => exact ⟨some [], first, second, start, by simp [resolve, reached],
        by simp [resolve, known, reached]⟩
    | some target =>
      obtain ⟨lead, function⟩ := target
      obtain ⟨values, middle, between, kept, here, elsewhere⟩ :=
        @argumentValues_alike _ scope there _ _ ih call.arguments _ _ start
      cases values with
      | none => exact ⟨none, middle, between, kept, by simp [resolve, reached, here],
          by simp [resolve, known, reached, elsewhere]⟩
      -- The arguments are the same, and so is what the function makes of them.
      | some arguments =>
        have alike := functions function (Registry.holds_of_reached? reached)
        obtain ⟨value, last, final, kept, invoked, answered⟩ := invoke_alike alike arguments kept
        exact ⟨some (lead ++ value), last, final, kept, by simp [resolve, reached, here, invoked],
          by simp [resolve, known, reached, elsewhere, answered]⟩

/-- The texts of the segments of an expression are alike if the functions of the registry are. -/
theorem segmentValues_alike (list : List Segment) {first second : Progress}
    (start : Progress.Related related first second) :
    Alike related (scope.segmentValues list first)
      ((scope.within there).segmentValues list second) := by
  -- A call that is nested too deep stays as it was written, on either side.
  induction list generalizing first second with
  | nil => exact ⟨[], first, second, start, rfl, rfl⟩
  | cons segment rest ih =>
    cases segment with
    | text literal =>
      obtain ⟨back, last, final, kept, here, elsewhere⟩ := ih start
      exact ⟨literal ++ back, last, final, kept, by simp [segmentValues, segmentValue, here],
        by simp [segmentValues, segmentValue, elsewhere]⟩
    | call found =>
      -- The limit is part of the scope, and both have the same one.
      have same : (scope.within there).limit = scope.limit := rfl
      obtain ⟨value, middle, between, kept, here, elsewhere⟩ :=
        resolve_alike functions scope.limit found first second start
      obtain ⟨back, last, final, kept, onward, beyond⟩ := ih kept
      exact ⟨value.getD found.source ++ back, last, final, kept,
        by simp [segmentValues, segmentValue, here, onward],
        by simp [segmentValues, segmentValue, same, elsewhere, beyond]⟩

/-- Evaluations of an expression in two surroundings are alike if the functions of the registry
are. -/
theorem evaluate_alike (expression : Text) {first second : Progress}
    (start : Progress.Related related first second) :
    Alike related (scope.evaluate expression first)
      ((scope.within there).evaluate expression second) := by
  -- The two scopes differ in their environments only, so both evaluate or both substitute.
  have called : (scope.within there).callsIn expression = scope.callsIn expression := rfl
  have bound : (scope.within there).bindings = scope.bindings := rfl
  unfold evaluate
  rw [called, bound]
  split
  · obtain ⟨value, last, final, kept, here, elsewhere⟩ :=
      segmentValues_alike functions (segments expression) start
    exact ⟨scope.bindings.substitute value, last, final, kept, by simp [here],
      by simp [elsewhere]⟩
  · exact ⟨_, first, second, start, rfl, rfl⟩

end

end Scope

end Docket
