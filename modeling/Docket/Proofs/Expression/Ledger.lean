import Docket.Proofs.Expression.Tree

/-! The ledger of an evaluation lists the calls that it carries out with the values of their
arguments, and carrying out the ledger alone changes what the evaluation changes. -/

namespace Docket

/-- A call that is carried out: the function, and the values of its arguments. -/
structure Carried where
  function : Function
  arguments : List Text

/-- A registry holds a function that it has under some name. -/
def Registry.Holds (registry : Registry) (function : Function) : Prop :=
  ∃ name, registry.get? name = some function

/-- A name reaches no function but those of the registry. -/
theorem Registry.holds_of_reached? {registry : Registry} {name lead : Text} {function : Function}
    (reached : registry.reached? name = some (lead, function)) : registry.Holds function := by
  -- The function stands under the whole name, or under what follows its first dot.
  unfold reached? at reached
  split at reached
  · rename_i found
    obtain ⟨-, rfl⟩ := Prod.mk.inj (Option.some.inj reached)
    exact ⟨name, found⟩
  · obtain ⟨⟨head, tail⟩, -, reached⟩ := Option.bind_eq_some_iff.mp reached
    obtain ⟨found, there, same⟩ := Option.map_eq_some_iff.mp reached
    obtain ⟨-, rfl⟩ := Prod.mk.inj same
    exact ⟨tail, there⟩

namespace Scope

/-- Carries out a call of a ledger. -/
def carry (scope : Scope) (progress : Progress) (carried : Carried) : Progress :=
  (scope.invoke carried.function carried.arguments progress).2

/-- Carries out the calls of a ledger, one after the other. -/
def replay (scope : Scope) (ledger : List Carried) (progress : Progress) : Progress :=
  ledger.foldl scope.carry progress

/-- What calls carry out that are resolved in turn, up to the first one that has no value. -/
def ledgerInTurn (resolver : Resolver) (ledger : Call → Progress → List Carried) :
    List Call → Progress → List Carried
  | [], _ => []
  | call :: rest, progress =>
    -- A call without a value carries something out, too.
    ledger call progress ++
      match resolver call progress with
      | (none, _) => []
      | (some _, progress) => ledgerInTurn resolver ledger rest progress

/-- What resolving a call carries out, where calls may be nested `depth` deep: what the calls in its
arguments carry out, and then the call itself if all its arguments have values. -/
def callLedger (scope : Scope) : Nat → Call → Progress → List Carried
  | 0, _, _ => []
  | depth + 1, call, progress =>
    match scope.registry.reached? call.name with
    | none => []
    | some (_, function) =>
      ledgerInTurn (scope.resolve depth) (scope.callLedger depth)
          (call.arguments.flatMap scope.callsOf) progress ++
        -- The call comes after those in its arguments, if all of these have values.
        match scope.argumentValues (scope.resolve depth) call.arguments progress with
        | (none, _) => []
        | (some arguments, _) => [⟨function, arguments⟩]

/-- What calls of the expression itself carry out, also behind a call that has no value. -/
def callsLedger (scope : Scope) : List Call → Progress → List Carried
  | [], _ => []
  | call :: rest, progress =>
    scope.callLedger scope.limit call progress ++
      scope.callsLedger rest (scope.resolve scope.limit call progress).2

/-- What evaluating an expression carries out. -/
def ledger (scope : Scope) (expression : Text) (progress : Progress) : List Carried :=
  scope.callsLedger (scope.callsOf expression) progress

variable {scope : Scope} {resolver : Resolver} {ledger : Call → Progress → List Carried}

/-- A ledger may be carried out in two parts. -/
theorem replay_append (scope : Scope) (front back : List Carried) (progress : Progress) :
    scope.replay (front ++ back) progress = scope.replay back (scope.replay front progress) :=
  List.foldl_append

/-- Calls in turn change what their ledger changes if each call does. -/
theorem inTurn_replay
    (replays : ∀ call progress,
      (resolver call progress).2 = scope.replay (ledger call progress) progress)
    (calls : List Call) (progress : Progress) :
    (inTurn resolver calls progress).2 =
      scope.replay (ledgerInTurn resolver ledger calls progress) progress := by
  -- The first call without a value ends the turns and the ledger.
  induction calls generalizing progress with
  | nil => rfl
  | cons call rest ih =>
    have front := replays call progress
    rw [inTurn, ledgerInTurn, replay_append, ← front]
    cases outcome : resolver call progress with
    | mk value middle =>
      cases value with
      | none => rfl
      | some value => exact ih middle

/-- Resolving a call changes what its ledger changes. -/
theorem resolve_replay (scope : Scope) (depth : Nat) (call : Call) (progress : Progress) :
    (scope.resolve depth call progress).2 =
      scope.replay (scope.callLedger depth call progress) progress := by
  -- The induction is on how deep calls may still be nested.
  induction depth generalizing call progress with
  | zero => rfl
  | succ depth ih =>
    rw [resolve, callLedger]
    cases scope.registry.reached? call.name with
    | none => rfl
    | some target =>
      -- The arguments come first, and what they change is what their calls change in turn.
      have taken := ending_argumentValues scope (scope.resolve depth) call.arguments progress
      have inside := (congrArg Prod.snd taken).trans (inTurn_replay ih _ progress)
      simp only [replay_append, ← inside]
      cases scope.argumentValues (scope.resolve depth) call.arguments progress with
      | mk values middle => cases values <;> rfl

/-- The segments of the expression itself change what the ledger of their calls changes. -/
theorem segmentValues_replay (scope : Scope) (list : List Segment) (progress : Progress) :
    (scope.segmentValues list progress).2 =
      scope.replay (scope.callsLedger (list.filterMap Segment.call?) progress) progress := by
  -- A text changes nothing, and a call that is put back has changed what its ledger changes.
  induction list generalizing progress with
  | nil => rfl
  | cons segment rest ih =>
    cases segment with
    | text literal => exact ih progress
    | call found =>
      have front := resolve_replay scope scope.limit found progress
      have later := ih (scope.resolve scope.limit found progress).2
      simp only [List.filterMap_cons, Segment.call?, callsLedger, replay_append, ← front]
      exact later

/-- An evaluation changes what its ledger changes. -/
theorem evaluate_replay (scope : Scope) (expression : Text) (progress : Progress) :
    (scope.evaluate expression progress).2 =
      scope.replay (scope.ledger expression progress) progress := by
  unfold evaluate Scope.ledger callsOf
  split
  · exact segmentValues_replay scope (segments expression) progress
  · rfl

/-- Calls in turn carry out functions of the registry if each call does. -/
theorem holds_of_mem_ledgerInTurn
    (holds : ∀ call progress, ∀ carried ∈ ledger call progress,
      scope.registry.Holds carried.function)
    {calls : List Call} {progress : Progress} {carried : Carried}
    (inside : carried ∈ ledgerInTurn resolver ledger calls progress) :
    scope.registry.Holds carried.function := by
  induction calls generalizing progress with
  | nil => exact absurd inside List.not_mem_nil
  | cons call rest ih =>
    -- It was carried out for the first call, or for a later one if the first has a value.
    rcases List.mem_append.mp inside with here | later
    · exact holds call progress carried here
    · cases outcome : resolver call progress with
      | mk value middle =>
        rw [outcome] at later
        cases value with
        | none => exact absurd later List.not_mem_nil
        | some value => exact ih later

/-- Resolving a call carries out functions of the registry only. -/
theorem holds_of_mem_callLedger {depth : Nat} {call : Call} {progress : Progress}
    {carried : Carried} (inside : carried ∈ scope.callLedger depth call progress) :
    scope.registry.Holds carried.function := by
  -- What is carried out is a call in the arguments or the call itself.
  induction depth generalizing call progress carried with
  | zero => exact absurd inside List.not_mem_nil
  | succ depth ih =>
    rw [callLedger] at inside
    cases reached : scope.registry.reached? call.name with
    | none =>
      rw [reached] at inside
      exact absurd inside List.not_mem_nil
    | some target =>
      obtain ⟨lead, function⟩ := target
      simp only [reached] at inside
      rcases List.mem_append.mp inside with inner | itself
      · exact holds_of_mem_ledgerInTurn (fun _ _ _ below => ih below) inner
      · -- The call itself is carried out once its arguments have values.
        cases outcome : scope.argumentValues (scope.resolve depth) call.arguments progress with
        | mk values middle =>
          rw [outcome] at itself
          cases values with
          | none => exact absurd itself List.not_mem_nil
          | some arguments =>
            obtain rfl := List.mem_singleton.mp itself
            exact Registry.holds_of_reached? reached

/-- The calls of the expression itself carry out functions of the registry only. -/
theorem holds_of_mem_callsLedger {calls : List Call} {progress : Progress} {carried : Carried}
    (inside : carried ∈ scope.callsLedger calls progress) :
    scope.registry.Holds carried.function := by
  induction calls generalizing progress with
  | nil => exact absurd inside List.not_mem_nil
  | cons call rest ih =>
    -- Unlike the calls in arguments, those of the expression follow each other whatever came out.
    rcases List.mem_append.mp inside with here | later
    · exact holds_of_mem_callLedger here
    · exact ih later

/-- An evaluation carries out functions of the registry only. -/
theorem holds_of_mem_ledger {expression : Text} {progress : Progress} {carried : Carried}
    (inside : carried ∈ scope.ledger expression progress) :
    scope.registry.Holds carried.function :=
  holds_of_mem_callsLedger inside

end Scope

end Docket
