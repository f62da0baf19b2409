import Docket.Function.Standard
import Docket.Proofs.Counter.Numbering
import Docket.Proofs.Expression.Gate
import Docket.Proofs.Expression.Ledger
import Docket.Proofs.Text.Decimal

/-! The standard functions reach counters in one way only: the numbering function draws from the
counter that it names. So evaluating an expression moves counters by such draws and by nothing
else. -/

namespace Docket

open Counter

namespace Function

/-- The function leaves all counters as they are, whatever it is called with. -/
def SparesCounters (function : Function) : Prop :=
  ∀ environment arguments resources,
    (function.run environment arguments resources).2.counters = resources.counters

/-- Looking up a pattern leaves all counters as they are. -/
theorem withPattern_counters (compute : Pattern → List Text → Except Cause Text)
    (environment : Environment) (arguments : List Text) (resources : Resources) :
    (withPattern compute environment arguments resources).2.counters = resources.counters := by
  unfold withPattern
  rcases resources.patterns.lookUp (argument arguments 1) with ⟨pattern, patterns⟩
  cases pattern <;> rfl

/-- Starting a script leaves all counters as they are, whatever it does to the disk. -/
theorem scripting_sparesCounters : scripting.SparesCounters := by
  intro environment arguments resources
  unfold scripting
  dsimp only
  -- Neither a script that cannot be started nor one that is started comes near them.
  cases Script.prepare environment.scripting (firstArgument arguments) arguments.tail
    resources.disk with
  | error fault => rfl
  | ok launch => dsimp only

/-- Of the standard functions, the numbering function alone has its name and changes counters. -/
theorem standard_cases {function : Function} (standard : function ∈ Function.standard) :
    function = autoIncrement ∨
      function.name ≠ autoIncrement.name ∧ function.SparesCounters := by
  simp only [Function.standard, List.mem_cons, List.not_mem_nil, or_false] at standard
  rcases standard with rfl | rfl | rfl | rfl | rfl | rfl | rfl | rfl | rfl | rfl | rfl | rfl | rfl |
    rfl | rfl | rfl
  -- The first eleven change nothing at all, and two may change the cache of patterns.
  iterate 11 exact .inr ⟨by decide, fun _ _ _ => rfl⟩
  iterate 2 exact .inr ⟨by decide, withPattern_counters _⟩
  · exact .inl rfl
  · exact .inr ⟨by decide, scripting_sparesCounters⟩
  · exact .inr ⟨by decide, fun _ _ _ => rfl⟩

/-- What a call leaves is what its run leaves, whether or not the fallback stands in. -/
theorem value_snd (function : Function) (environment : Environment) (arguments : List Text)
    (resources : Resources) : (function.value environment arguments resources).2 =
      (function.call environment arguments resources).2 := by
  unfold value
  rcases function.call environment arguments resources with ⟨outcome, after⟩
  cases outcome <;> rfl

/-- A function that spares all counters does so in every call. -/
theorem SparesCounters.call {function : Function} (spares : function.SparesCounters)
    (environment : Environment) (arguments : List Text) (resources : Resources) :
    (function.call environment arguments resources).2.counters = resources.counters := by
  unfold Function.call
  split
  · exact spares environment arguments resources
  · rfl

/-- The run of the numbering function advances the counter that it names. -/
theorem autoIncrement_run (environment : Environment) (arguments : List Text)
    (resources : Resources) : autoIncrement.run environment arguments resources =
      match resources.counters.advance .auto (counterName (firstArgument arguments))
        (integerOrOne arguments[1]?) (integerOrOne arguments[2]?) resources.disk with
      | (.ok value, counters, disk) =>
        (.ok (Text.ofInt64 value), { resources with counters, disk })
      | (.error failure, counters, disk) =>
        (.error (.counter failure), { resources with counters, disk }) :=
  rfl

end Function

namespace Carried

/-- The request for a number that a call makes, if it is one of the numbering function. -/
def request? (carried : Carried) : Option Request :=
  if carried.function.name = "AUTOINCREMENT".toList then
    some (.advance .auto (Function.counterName (Function.firstArgument carried.arguments))
      (Function.integerOrOne carried.arguments[1]?) (Function.integerOrOne carried.arguments[2]?))
  else none

/-- The draw from a counter that a call with its answer is, if it is one. A call that fails draws
nothing. -/
def draw? (carried : Carried) (category : Category) (name : Text) :
    Except Function.Cause Text → Option Draw
  | .error _ => none
  | .ok answer =>
    carried.request?.bind fun request =>
      (Text.integer? answer).bind fun value => request.draw? category name (.value value)

variable {category : Category} {name : Text}

/-- Every call of the numbering function makes a request. -/
theorem request?_of_name {carried : Carried}
    (numbering : carried.function.name = Function.autoIncrement.name) :
    carried.request? =
      some (.advance .auto (Function.counterName (Function.firstArgument carried.arguments))
        (Function.integerOrOne carried.arguments[1]?)
        (Function.integerOrOne carried.arguments[2]?)) :=
  if_pos numbering

/-- A call of another function draws nothing. -/
theorem draw?_of_other {carried : Carried}
    (other : carried.function.name ≠ Function.autoIncrement.name)
    (answer : Except Function.Cause Text) : carried.draw? category name answer = none := by
  have silent : carried.request? = none := if_neg other
  cases answer with
  | error cause => rfl
  | ok answer => rw [draw?, silent, Option.bind_none]

/-- The numbering function draws only from counters of its category that have its prefix. -/
theorem draw?_of_apart (carried : Carried) (answer : Except Function.Cause Text)
    (apart : category ≠ .auto ∨ ¬ "auto_".toList <+: name) :
    carried.draw? category name answer = none := by
  by_cases numbering : carried.function.name = Function.autoIncrement.name
  · -- The request names another counter.
    have never : ¬ (Category.auto = category ∧
        Function.counterName (Function.firstArgument carried.arguments) = name) := by
      rintro ⟨rfl, rfl⟩
      rcases apart with other | bare
      · exact other rfl
      · exact bare (List.prefix_append _ _)
    -- Only an answer that is a number can be a draw, and the counter is another one.
    cases answer with
    | error cause => rfl
    | ok answer =>
      rw [draw?, request?_of_name numbering, Option.bind_some]
      cases Text.integer? answer with
      | none => rfl
      | some value => exact if_neg never
  · exact draw?_of_other numbering answer

/-- A call of the numbering function draws from the counter that it names, if it succeeds. -/
theorem autoIncrement_drawn (environment : Environment) (arguments : List Text)
    (resources : Resources) :
    Drawn (resources.counters.get? category name)
      (draw? ⟨Function.autoIncrement, arguments⟩ category name
        (Function.autoIncrement.call environment arguments resources).1).toList
      ((Function.autoIncrement.call environment arguments resources).2.counters.get?
        category name) := by
  unfold Function.call
  split
  · -- What the store hands out is what the function answers.
    have moves := @Store.advance_moves category name resources.counters .auto
      (Function.counterName (Function.firstArgument arguments))
      (Function.integerOrOne arguments[1]?) (Function.integerOrOne arguments[2]?) resources.disk
    rw [Function.autoIncrement_run]
    generalize resources.counters.advance .auto
      (Function.counterName (Function.firstArgument arguments))
      (Function.integerOrOne arguments[1]?) (Function.integerOrOne arguments[2]?) resources.disk =
      advanced at moves
    obtain ⟨outcome, counters, disk⟩ := advanced
    cases outcome with
    | error failure =>
      cases moves with
      | failed => rfl
    | ok value =>
      cases moves with
      | answered _ _ drawn =>
        have asked := @request?_of_name ⟨Function.autoIncrement, arguments⟩ rfl
        simp only [draw?, asked, Option.bind_some, Text.integer?_ofInt64]
        exact drawn
  · -- A call with a wrong number of arguments fails before anything else.
    rfl

/-- A call of a standard function draws from a counter, or it leaves the counter as it is. -/
theorem standard_drawn {carried : Carried} (standard : carried.function ∈ Function.standard)
    (environment : Environment) (resources : Resources) :
    Drawn (resources.counters.get? category name)
      (carried.draw? category name
        (carried.function.call environment carried.arguments resources).1).toList
      ((carried.function.call environment carried.arguments resources).2.counters.get?
        category name) := by
  obtain ⟨function, arguments⟩ := carried
  -- One standard function draws numbers; the others spare all counters.
  rcases Function.standard_cases standard with rfl | ⟨other, spares⟩
  · exact autoIncrement_drawn environment arguments resources
  · rw [draw?_of_other other, spares.call]
    rfl

end Carried

namespace Scope

variable {category : Category} {name : Text}

/-- The draws from a counter in the calls of a ledger that are carried out in turn. -/
def draws (scope : Scope) (category : Category) (name : Text) :
    List Carried → Progress → List Draw
  | [], _ => []
  | carried :: rest, progress =>
    let answer := carried.function.call scope.environment carried.arguments progress.resources
    (carried.draw? category name answer.1).toList ++
      scope.draws category name rest (scope.carry progress carried)

/-- Carrying out a call leaves what the call leaves. -/
theorem carry_resources (scope : Scope) (progress : Progress) (carried : Carried) :
    (scope.carry progress carried).resources =
      (carried.function.call scope.environment carried.arguments progress.resources).2 :=
  carried.function.value_snd scope.environment carried.arguments progress.resources

/-- There are no draws from a counter of another category or without the prefix. -/
theorem draws_of_apart {scope : Scope} (apart : category ≠ .auto ∨ ¬ "auto_".toList <+: name)
    (ledger : List Carried) (progress : Progress) :
    scope.draws category name ledger progress = [] := by
  induction ledger generalizing progress with
  | nil => rfl
  | cons carried rest ih =>
    rw [draws, Carried.draw?_of_apart carried _ apart, ih, Option.toList_none, List.nil_append]

/-- A ledger of standard functions moves every counter by the draws from it. -/
theorem replay_drawn {scope : Scope} {ledger : List Carried}
    (standard : ∀ carried ∈ ledger, carried.function ∈ Function.standard) (progress : Progress) :
    Drawn (progress.resources.counters.get? category name)
      (scope.draws category name ledger progress)
      ((scope.replay ledger progress).resources.counters.get? category name) := by
  -- Each call finds the counters as the calls before it have left them.
  induction ledger generalizing progress with
  | nil => rfl
  | cons carried rest ih =>
    have first := @Carried.standard_drawn category name carried (standard carried (.head _))
      scope.environment progress.resources
    rw [← carry_resources] at first
    have later := ih (fun other inside => standard other (.tail _ inside))
      (scope.carry progress carried)
    rw [draws]
    exact first.append later

/-- With the standard functions an evaluation moves every counter by the draws from it. -/
theorem evaluate_drawn (scope : Scope) (standard : scope.registry = .standard) (expression : Text)
    (progress : Progress) :
    Drawn (progress.resources.counters.get? category name)
      (scope.draws category name (scope.ledger expression progress) progress)
      ((scope.evaluate expression progress).2.resources.counters.get? category name) := by
  rw [evaluate_replay]
  -- Everything that the ledger carries out is a function of the registry, so a standard one.
  refine replay_drawn (fun carried inside => ?_) progress
  obtain ⟨known, found⟩ := holds_of_mem_ledger inside
  rw [standard] at found
  exact Registry.mem_of_get?_ofFunctions found

end Scope

/-- With the standard functions an expression moves a counter by what its calls of the numbering
function draw from it, and in no other way. No counter disappears, and those of other categories or
without the prefix stay as they are. The calls are those that the evaluation carries out: doing
them again, one after the other, leaves what the evaluation leaves. -/
theorem Engine.evaluate_only_draws (config : Config) (database : Option Database) (host : Host)
    (now : Instant) (bindings : Variables) (expression : Text) (resources : Resources) :
    let engine : Engine := ⟨.standard, config, database, host⟩
    let scope := engine.scope now bindings
    let ledger := scope.ledger expression ⟨resources, []⟩
    let after := (engine.evaluate now bindings expression resources).2
    (scope.evaluate expression ⟨resources, []⟩).2 = scope.replay ledger ⟨resources, []⟩ ∧
    (∀ category name, category ≠ .auto ∨ ¬ "auto_".toList <+: name →
      after.counters.get? category name = resources.counters.get? category name) ∧
    (∀ category name, (resources.counters.get? category name).isSome = true →
      (after.counters.get? category name).isSome = true) ∧
    ∀ category name, Gapless (resources.counters.get? category name)
      (scope.draws category name ledger ⟨resources, []⟩) (after.counters.get? category name) := by
  intro engine scope ledger after
  -- All three parts about counters follow from how the ledger draws.
  have drawn (category : Category) (name : Text) :
      Drawn (resources.counters.get? category name)
        (scope.draws category name ledger ⟨resources, []⟩) (after.counters.get? category name) :=
    scope.evaluate_drawn rfl expression ⟨resources, []⟩
  refine ⟨scope.evaluate_replay expression ⟨resources, []⟩, ?_, ?_, ?_⟩
  · -- Without draws a counter stays as it is.
    intro category name apart
    have still := drawn category name
    rw [Scope.draws_of_apart apart] at still
    exact still
  · exact fun category name => (drawn category name).isSome_after
  · exact fun category name => (drawn category name).gapless

/-- The inner call of the last one comes before it, and its number is the step of the outer one. -/
example :
    let expression := "AUTOINCREMENT(n, 5)/AUTOINCREMENT(n, 9, AUTOINCREMENT(n))"
    let start : Progress := ⟨.fresh, []⟩
    let ledger := Scope.standard.ledger expression.toList start
    Scope.standard.draws .auto "auto_n".toList ledger start =
      [⟨5, 1, 5⟩, ⟨1, 1, 6⟩, ⟨9, 6, 7⟩] := by
  decide +kernel

end Docket
