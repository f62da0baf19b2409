import Docket.Calendar.Instant
import Docket.Counter.Store
import Docket.Function.Failure
import Docket.Function.Signature
import Docket.Pattern.Cache

/-! Functions: what they may consult, what they may change, and how they are called. -/

namespace Docket

/-- A row of a query's result, by column. -/
abbrev Row := Sheet Text Text

/-- A database answers queries on named connections. -/
abbrev Database := Text → Text → Except DatabaseFault (List Row)

/-- What functions may consult. -/
structure Environment where
  now : Instant
  scripting : Scripting
  database : Option Database
  host : Host

/-- What functions may change. -/
structure Resources where
  counters : Counter.Store
  patterns : Pattern.Cache
  disk : Disk
  /-- The programs that have been started, the last one first. -/
  launched : List Launch := []

/-- A function from texts to a text. -/
structure Function where
  signature : Signature
  title : Text
  documentation : Text := []
  /-- Whether the value depends on the arguments alone. -/
  isPure : Bool := false
  /-- The value that stands in for a failure. -/
  fallback : List Text → Text := fun _ => []
  run : Environment → List Text → Resources → Except Function.Cause Text × Resources

namespace Function

/-- The name of a function. -/
def name (function : Function) : Text :=
  function.signature.name

/-- An argument, empty if it is left out. -/
def argument (arguments : List Text) (index : Nat) : Text :=
  arguments.getD index []

/-- The first argument, as the fallback of functions that change a text. -/
def firstArgument (arguments : List Text) : Text :=
  argument arguments 0

/-- An integer argument; white space around it does not matter. -/
def integer (index : Nat) (value : Text) : Except Cause Int64 :=
  match Text.integer? (Text.trim value) with
  | some value => .ok value
  | none => .error (.argument index (.noInteger value))

/-- The run of a function of its arguments alone. -/
def pureRun (compute : List Text → Except Cause Text) (_ : Environment) (arguments : List Text)
    (resources : Resources) : Except Cause Text × Resources :=
  (compute arguments, resources)

/-- Runs a function if it accepts so many arguments. -/
def call (function : Function) (environment : Environment) (arguments : List Text)
    (resources : Resources) : Except Cause Text × Resources :=
  if function.signature.accepts arguments.length then
    function.run environment arguments resources
  else
    let signature := function.signature
    (.error (.arity signature.least signature.most arguments.length), resources)

/-- The value of a call; the fallback stands in for a failure. -/
def value (function : Function) (environment : Environment) (arguments : List Text)
    (resources : Resources) : Text × Resources :=
  match function.call environment arguments resources with
  | (.ok value, resources) => (value, resources)
  -- What a failed run has changed stays changed.
  | (.error _, resources) => (function.fallback arguments, resources)

end Function

end Docket
