import Docket.Field.Pass
import Docket.Function.Standard
import Docket.Proofs.Expression.Alike

/-! Where scripts are disabled and counters are in memory, the standard functions see nothing of
disks and hosts, and leave them alone. -/

namespace Docket

/-- Surroundings that differ in their hosts and in the settings of scripts at most, where neither
runs scripts. -/
structure Environment.Sealed (here there : Environment) : Prop where
  now : here.now = there.now
  database : here.database = there.database
  disabledHere : here.scripting.enabled = false
  disabledThere : there.scripting.enabled = false

/-- What two runs have come to that started `here` and `there`: they have the same counters, which
are in memory, and the same patterns. All the rest of either is as it was. -/
def Resources.SameInside (here there first second : Resources) : Prop :=
  ∃ counters patterns, counters.path = none ∧
    first = { here with counters, patterns } ∧ second = { there with counters, patterns }

/-- A store in memory advances a counter without a disk. -/
theorem Counter.Store.advance_inMemory {store : Counter.Store} (memory : store.path = none)
    (category : Counter.Category) (name : Text) (start step : Int64) : ∃ outcome next,
      next.path = none ∧ ∀ disk, store.advance category name start step disk =
        (outcome, next, disk) := by
  -- The next table is adopted as it is, or there is none.
  cases advanced : store.table.advance category name start step with
  | mk outcome next =>
    cases outcome with
    | error failure =>
      exact ⟨.error failure, store, memory, fun disk => by simp [advance, advanced]⟩
    | ok value =>
      by_cases same : next = store.table
      · refine ⟨.ok value, store, memory, fun disk => ?_⟩
        simp [advance, advanced, commit, adopt, same]
      · refine ⟨.ok value, { store with table := next }, memory, fun disk => ?_⟩
        simp [advance, advanced, commit, adopt, same, memory]

namespace Function

/-- A script that is disabled fails and changes nothing. -/
theorem scripting_run {environment : Environment}
    (disabled : environment.scripting.enabled = false) (arguments : List Text)
    (resources : Resources) :
    scripting.run environment arguments resources = (.error .scriptsDisabled, resources) := by
  -- The settings are asked before the disk and the host are.
  have refused : Script.prepare environment.scripting (firstArgument arguments) arguments.tail
      resources.disk = .error .disabled := by
    simp [Script.prepare, disabled]
  unfold scripting
  simp only [refused]
  rfl

/-- A call of a script that is disabled is empty and changes nothing, whatever its arguments. -/
theorem scripting_value {environment : Environment}
    (disabled : environment.scripting.enabled = false) (arguments : List Text)
    (resources : Resources) :
    scripting.value environment arguments resources = ([], resources) := by
  unfold value call
  rw [scripting_run disabled]
  -- A call with a wrong number of arguments fails, too.
  cases scripting.signature.accepts arguments.length <;> rfl

/-- Of the standard functions, only the one that starts scripts has its name. -/
theorem eq_scripting_of_name {function : Function} (standard : function ∈ Function.standard)
    (named : function.name = "SCRIPTING".toList) : function = scripting := by
  simp only [Function.standard, List.mem_cons, List.not_mem_nil, or_false] at standard
  rcases standard with rfl | rfl | rfl | rfl | rfl | rfl | rfl | rfl | rfl | rfl | rfl | rfl | rfl |
    rfl | rfl | rfl
  iterate 14 exact absurd named (by decide)
  · rfl
  · exact absurd named (by decide)

section

variable {here there : Environment} {start other : Resources}

/-- Functions of their arguments alone are alike. -/
theorem alike_of_pureRun {function : Function} {compute : List Text → Except Cause Text}
    (pure : function.run = pureRun compute) :
    function.Alike (Resources.SameInside start other) here there :=
  alike_of_run fun arguments first second same => by
    rw [pure]
    exact ⟨rfl, same⟩

/-- Functions that look up a pattern are alike, as they find the same one. -/
theorem alike_of_withPattern {function : Function}
    {compute : Pattern → List Text → Except Cause Text}
    (run : function.run = withPattern compute) :
    function.Alike (Resources.SameInside start other) here there := by
  refine alike_of_run ?_
  rintro arguments first second ⟨counters, patterns, memory, rfl, rfl⟩
  rw [run]
  unfold withPattern
  -- Both sides have the same patterns, so the same one is found and the same ones are kept.
  rcases patterns.lookUp (argument arguments 1) with ⟨pattern, patterns⟩
  cases pattern with
  | none => exact ⟨rfl, counters, patterns, memory, rfl, rfl⟩
  | some pattern => exact ⟨rfl, counters, patterns, memory, rfl, rfl⟩

/-- The numbering function is alike, as its counters are in memory. -/
theorem autoIncrement_alike :
    autoIncrement.Alike (Resources.SameInside start other) here there := by
  -- Both stores hold the same table, and neither looks at its disk.
  refine alike_of_run ?_
  rintro arguments first second ⟨counters, patterns, memory, rfl, rfl⟩
  obtain ⟨outcome, next, memory, advanced⟩ := Counter.Store.advance_inMemory memory .auto
    (counterName (firstArgument arguments)) (integerOrOne arguments[1]?)
    (integerOrOne arguments[2]?)
  unfold autoIncrement
  simp only [advanced]
  cases outcome with
  | ok value => exact ⟨rfl, next, patterns, memory, rfl, rfl⟩
  | error failure => exact ⟨rfl, next, patterns, memory, rfl, rfl⟩

/-- Every standard function is alike in surroundings that are sealed. -/
theorem standard_alike (closed : Environment.Sealed here there) {function : Function}
    (standard : function ∈ Function.standard) :
    function.Alike (Resources.SameInside start other) here there := by
  -- Those that are more than pure ask for the time, a pattern, a counter, a script or a query.
  simp only [Function.standard, List.mem_cons, List.not_mem_nil, or_false] at standard
  rcases standard with rfl | rfl | rfl | rfl | rfl | rfl | rfl | rfl | rfl | rfl | rfl | rfl | rfl |
    rfl | rfl | rfl
  iterate 9 exact alike_of_pureRun rfl
  · -- The date is that of the same time.
    refine alike_of_run fun arguments first second same => ⟨?_, same⟩
    dsimp only [formatDate]
    rw [closed.now]
  · exact alike_of_pureRun rfl
  · exact alike_of_withPattern rfl
  · exact alike_of_withPattern rfl
  · exact autoIncrement_alike
  · -- Before anything else a script asks whether it may run.
    refine alike_of_run fun arguments first second same => ?_
    rw [scripting_run closed.disabledHere, scripting_run closed.disabledThere]
    exact ⟨rfl, same⟩
  · -- The database is the same and gives the same rows.
    refine alike_of_run fun arguments first second same => ⟨?_, same⟩
    dsimp only [sql]
    rw [closed.database]

end

end Function

/-- Evaluations with the standard functions have the same value in surroundings that are sealed, and
leave the same counters and patterns. -/
theorem Scope.evaluate_sealed {scope : Scope} (standard : scope.registry = .standard)
    {elsewhere : Environment} (closed : Environment.Sealed scope.environment elsewhere)
    (expression : Text) {here there first second : Resources}
    (same : Resources.SameInside here there first second) :
    Alike (Resources.SameInside here there) (scope.evaluate expression ⟨first, []⟩)
      ((scope.within elsewhere).evaluate expression ⟨second, []⟩) := by
  -- The functions that a call can reach are standard ones, and each of them is alike.
  refine evaluate_alike (fun function known => ?_) expression ⟨same, rfl⟩
  obtain ⟨name, found⟩ := known
  rw [standard] at found
  exact Function.standard_alike closed (Registry.mem_of_get?_ofFunctions found)

section

variable {config : Config} (disabled : config.scripting.enabled = false)
  (database : Option Database) (host other : Host) (now : Instant)
include disabled

/-- Engines that run no scripts and differ in their hosts only give the same value, and leave the
same counters and patterns. -/
theorem Engine.evaluate_sameInside (bindings : Variables) (expression : Text)
    {here there first second : Resources} (same : Resources.SameInside here there first second) :
    let engine (host : Host) : Engine := ⟨.standard, config, database, host⟩
    ((engine host).evaluate now bindings expression first).1 =
        ((engine other).evaluate now bindings expression second).1 ∧
      Resources.SameInside here there ((engine host).evaluate now bindings expression first).2
        ((engine other).evaluate now bindings expression second).2 := by
  intro engine
  -- Both environments have scripts disabled, and nothing else tells the hosts apart.
  have closed : Environment.Sealed ((engine host).environment now)
      ((engine other).environment now) := ⟨rfl, rfl, disabled, disabled⟩
  have moved : ((engine host).scope now bindings).within ((engine other).environment now) =
      (engine other).scope now bindings := rfl
  obtain ⟨value, left, right, kept, onThis, onThat⟩ :=
    @Scope.evaluate_sealed ((engine host).scope now bindings) rfl _ closed expression _ _ _ _ same
  rw [moved] at onThat
  -- What the two evaluations hand out is what the two runs of the scope end with.
  have left_eq : (engine host).evaluate now bindings expression first =
      (value, left.resources) := by
    rw [evaluate, onThis]
  have right_eq : (engine other).evaluate now bindings expression second =
      (value, right.resources) := by
    rw [evaluate, onThat]
  rw [left_eq, right_eq]
  exact ⟨rfl, kept.resources⟩

/-- Passes of two such engines over the same fields publish the same values, and leave the same
counters and patterns. -/
theorem Desk.pass_sameInside (fields : List Field) {here there : Resources} {desk twin : Desk}
    (bindings : desk.bindings = twin.bindings) (document : desk.document = twin.document)
    (same : Resources.SameInside here there desk.resources twin.resources) :
    let after := pass ⟨.standard, config, database, host⟩ now fields desk
    let counterpart := pass ⟨.standard, config, database, other⟩ now fields twin
    after.bindings = counterpart.bindings ∧ after.document = counterpart.document ∧
      Resources.SameInside here there after.resources counterpart.resources := by
  -- The value of a field is the same and is published under the same name.
  induction fields generalizing desk twin with
  | nil => exact ⟨bindings, document, same⟩
  | cons field rest ih =>
    -- An empty expression has an empty value on both sides.
    have value : (desk.fieldValue ⟨.standard, config, database, host⟩ now field).1 =
          (twin.fieldValue ⟨.standard, config, database, other⟩ now field).1 ∧
        Resources.SameInside here there
          (desk.fieldValue ⟨.standard, config, database, host⟩ now field).2
          (twin.fieldValue ⟨.standard, config, database, other⟩ now field).2 := by
      unfold fieldValue
      split
      · exact ⟨rfl, same⟩
      · rw [bindings]
        exact Engine.evaluate_sameInside disabled database host other now _ _ same
    refine ih ?_ ?_ value.2
    · simp only [evaluateField, publish, bindings, value.1]
    · simp only [evaluateField, publish, document, value.1]

/-- With the standard functions, with scripts disabled and with counters in memory, the value of an
expression and the counters that it leaves are the same on every disk and for every host. The disk
stays as it is and no program is started. Every script that is called on the way, in whatever place,
gives the empty text and changes nothing. The calls on the way are those that, done again one after
the other, leave what the evaluation leaves. -/
theorem Engine.evaluate_sandboxed (bindings : Variables) (expression : Text)
    (counters : Counter.Store) (memory : counters.path = none) (patterns : Pattern.Cache)
    (disk elsewhere : Disk) (launched : List Launch) :
    let engine : Engine := ⟨.standard, config, database, host⟩
    let stranger : Engine := ⟨.standard, config, database, other⟩
    let start : Resources := ⟨counters, patterns, disk, launched⟩
    let scope := engine.scope now bindings
    let here := engine.evaluate now bindings expression start
    let there := stranger.evaluate now bindings expression { start with disk := elsewhere }
    here.1 = there.1 ∧ here.2.counters = there.2.counters ∧
    (here.2.disk = disk ∧ here.2.launched = launched) ∧
    (there.2.disk = elsewhere ∧ there.2.launched = launched) ∧
    (scope.evaluate expression ⟨start, []⟩).2 =
      scope.replay (scope.ledger expression ⟨start, []⟩) ⟨start, []⟩ ∧
    ∀ carried ∈ scope.ledger expression ⟨start, []⟩,
      carried.function.name = "SCRIPTING".toList → ∀ resources,
        carried.function.value scope.environment carried.arguments resources = ([], resources) := by
  -- Both runs start with the same counters and patterns, and with the rest as it is on either side.
  intro engine stranger start scope here there
  have same : Resources.SameInside start { start with disk := elsewhere } start
      { start with disk := elsewhere } := ⟨counters, patterns, memory, rfl, rfl⟩
  obtain ⟨value, counters, patterns, -, left, right⟩ :=
    Engine.evaluate_sameInside disabled database host other now bindings expression same
  have left : here.2 = { start with counters, patterns } := left
  have right : there.2 = { start with counters, patterns, disk := elsewhere } := right
  -- What is left differs from the start in counters and patterns only, and these are the same.
  refine ⟨value, by rw [left, right], ⟨by rw [left], by rw [left]⟩, ⟨by rw [right], by rw [right]⟩,
    scope.evaluate_replay expression _, fun carried inside named resources => ?_⟩
  obtain ⟨name, found⟩ := Scope.holds_of_mem_ledger inside
  rw [Function.eq_scripting_of_name (Registry.mem_of_get?_ofFunctions found) named]
  exact Function.scripting_value disabled carried.arguments resources

end

/-- A script that is there, and a host that would run it, make no difference in the sandbox; without
the sandbox the script answers twice. -/
theorem Engine.evaluate_sandboxed_nested :
    let host : Host := fun _ _ disk => (some ⟨some (0, .code 0), ['7'.toUInt8], [], some 0⟩, disk)
    let disk : Disk := { entries := .ofPairs [(["a.sh".toList], .file (.text []) false)] }
    let expression := "AUTOINCREMENT(n, SCRIPTING(a.sh))/X.SCRIPTING(a.sh)".toList
    let start : Resources := ⟨.inMemory, .ofCapacity 1, default, []⟩
    let value (config : Config) (host : Host) (disk : Disk) :=
      evaluate ⟨.standard, config, none, host⟩ default .empty expression { start with disk }
    (Config.sandboxed.scripting.enabled = false ∧ start.counters.path = none) ∧
      (value .sandboxed .none default).1 = "1/X.".toList ∧
      (value .sandboxed host disk).1 = "1/X.".toList ∧
      (value .sandboxed host disk).2.launched = [] ∧
      (value .standard host disk).1 = "7/X.7".toList ∧
      (value .standard host disk).2.launched.length = 2 := by
  intro host disk expression start value
  -- Only the value without a host is evaluated; the one with a host is the same by the theorem.
  have plain : (value .sandboxed .none default).1 = "1/X.".toList := by decide +kernel
  obtain ⟨same, -, -, quiet, -⟩ := @evaluate_sandboxed .sandboxed rfl none .none host default
    .empty expression .inMemory rfl (.ofCapacity 1) default disk []
  exact ⟨⟨rfl, rfl⟩, plain, same.symm.trans plain, quiet.2, by decide +kernel, by decide +kernel⟩

end Docket
