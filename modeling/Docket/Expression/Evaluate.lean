import Docket.Expression.Argument
import Docket.Expression.Reference
import Docket.Function.Registry

/-! Evaluating expressions: calls are replaced by the values of functions, innermost first, and
references by the values of variables. -/

namespace Docket

/-- What an evaluation refers to. -/
structure Scope where
  registry : Registry
  environment : Environment
  bindings : Variables
  /-- How deep calls may be nested. -/
  limit : Nat

/-- A call that was carried out: the function and how many arguments it got. -/
structure Invocation where
  name : Text
  count : Nat
deriving DecidableEq, Repr

/-- How far an evaluation has come: what it changed, and the calls it carried out, in order. -/
structure Progress where
  resources : Resources
  invocations : List Invocation := []

/-- The function that a call reaches, with the text before its name. In a dotted name only the
second part may be a function; the first part is then text. -/
def Registry.reached? (registry : Registry) (name : Text) : Option (Text × Function) :=
  match registry.get? name with
  | some function => some ([], function)
  | none =>
    -- `A.B(` calls `B` where there is no function `A.B`, and `A.` stays in front of the value.
    (Text.splitOnce? '.' name).bind fun (head, tail) =>
      (registry.get? tail).map fun function => (head ++ ['.'], function)

namespace Scope

/-- Whether a text calls a function. Any other text is left as it is, apart from references. -/
def callsIn (scope : Scope) (text : Text) : Bool :=
  Call.occursIn text && scope.registry.isCalledIn text

/-- Carries out a call with resolved arguments. -/
def invoke (scope : Scope) (function : Function) (arguments : List Text) (progress : Progress) :
    Text × Progress :=
  let (value, resources) := function.value scope.environment arguments progress.resources
  (value, ⟨resources, progress.invocations ++ [⟨function.name, arguments.length⟩]⟩)

/-- How a call is resolved; there is no value if calls are nested too deep. -/
abbrev Resolver := Call → Progress → Option Text × Progress

/-- The text of segments with the values of their calls, from left to right. -/
def spliced (resolver : Resolver) : List Segment → Progress → Option Text × Progress
  | [], progress => (some [], progress)
  | segment :: rest, progress =>
    let (front, progress) := match segment with
      | .text literal => (some literal, progress)
      | .call found => resolver found progress
    match front with
    -- What the calls before this one have changed stays changed.
    | none => (none, progress)
    | some front =>
      let (back, progress) := spliced resolver rest progress
      (back.map (front ++ ·), progress)

/-- The value of an argument. -/
def argumentValue (scope : Scope) (resolver : Resolver) (argument : Text) (progress : Progress) :
    Option Text × Progress :=
  if scope.callsIn argument then
    let (value, progress) := spliced resolver (segments argument) progress
    -- References count after the calls, so the values of calls may bring some.
    (value.map scope.bindings.substitute, progress)
  else (some (scope.bindings.substitute argument), progress)

/-- The values of arguments, from left to right, up to the first one that has none. -/
def argumentValues (scope : Scope) (resolver : Resolver) :
    List Text → Progress → Option (List Text) × Progress
  | [], progress => (some [], progress)
  | argument :: rest, progress =>
    match scope.argumentValue resolver argument progress with
    -- The arguments after this one are not evaluated any more.
    | (none, progress) => (none, progress)
    | (some value, progress) =>
      let (values, progress) := scope.argumentValues resolver rest progress
      (values.map (value :: ·), progress)

/-- The value of a call, where calls may be nested `depth` deep. A call of no function is empty,
and its arguments are not looked at. -/
def resolve (scope : Scope) : Nat → Resolver
  -- The limit is reached before it is asked whether there is such a function.
  | 0, _, progress => (none, progress)
  | depth + 1, call, progress =>
    match scope.registry.reached? call.name with
    | none => (some [], progress)
    | some (lead, function) =>
      match scope.argumentValues (scope.resolve depth) call.arguments progress with
      | (none, progress) => (none, progress)
      | (some arguments, progress) =>
        let (value, progress) := scope.invoke function arguments progress
        (some (lead ++ value), progress)

/-- The text of a segment of the expression itself: a call that is nested too deep stays. -/
def segmentValue (scope : Scope) (segment : Segment) (progress : Progress) : Text × Progress :=
  match segment with
  | .text literal => (literal, progress)
  | .call found =>
    let (value, progress) := scope.resolve scope.limit found progress
    (value.getD found.source, progress)

/-- The texts of segments of the expression itself, from left to right. -/
def segmentValues (scope : Scope) : List Segment → Progress → Text × Progress
  | [], progress => ([], progress)
  | segment :: rest, progress =>
    let (front, progress) := scope.segmentValue segment progress
    let (back, progress) := scope.segmentValues rest progress
    (front ++ back, progress)

/-- The value of an expression. References in the values of calls count too. -/
def evaluate (scope : Scope) (expression : Text) (progress : Progress) : Text × Progress :=
  if scope.callsIn expression then
    let (value, progress) := scope.segmentValues (segments expression) progress
    (scope.bindings.substitute value, progress)
  else (scope.bindings.substitute expression, progress)

end Scope

/-- What the evaluations of one run have in common. -/
structure Engine where
  registry : Registry
  config : Config
  database : Option Database
  host : Host

namespace Engine

/-- What functions may consult at a time. -/
def environment (engine : Engine) (now : Instant) : Environment :=
  ⟨now, engine.config.scripting, engine.database, engine.host⟩

/-- What an evaluation at a time refers to. -/
def scope (engine : Engine) (now : Instant) (bindings : Variables) : Scope :=
  ⟨engine.registry, engine.environment now, bindings, engine.config.maxNesting⟩

/-- Resources at the start: counters, a disk, and an empty cache of the configured capacity. -/
def resources (engine : Engine) (counters : Counter.Store) (disk : Disk) : Resources :=
  { counters, disk, patterns := .ofCapacity engine.config.patternCapacity }

/-- The value of an expression at a time, and what it leaves behind. -/
def evaluate (engine : Engine) (now : Instant) (bindings : Variables) (expression : Text)
    (resources : Resources) : Text × Resources :=
  let (value, progress) := (engine.scope now bindings).evaluate expression ⟨resources, []⟩
  (value, progress.resources)

end Engine

end Docket
