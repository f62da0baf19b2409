import Docket.Shell.Usage

/-! The variables that programs are started with. -/

namespace Docket.Shell.Environment

/-- The variables that a shell hands on, in the order of the buckets in which it keeps them. -/
def exported (state : State) : List (Text × Text) :=
  let bucket (name : Text) : Nat :=
    (name.foldl (fun sum char => sum + char.toNat) ((name.headD '\x00').toNat <<< 4)) % 39
  (state.bindings.entries.filter fun (name, _) => state.exported.contains name).mergeSort
    fun left right => bucket left.1 ≤ bucket right.1

/-- The values of variables, or all variables. -/
def printenv : Utility :=
  let usage : Usage :=
    { name := "printenv", plain := "0", long := [("null", '0')], strict := true, status := 2 }
  usage.program fun given => do
    let mark := if given.has '0' then '\x00' else '\n'
    let known := exported (← get)
    if given.operands.isEmpty then
      State.print (known.flatMap fun (name, value) => name ++ '=' :: value ++ [mark])
      return 0
    else
      let found := given.operands.filterMap fun name => known.lookup name
      State.print (found.flatMap (· ++ [mark]))
      return if found.length = given.operands.length then 0 else 1

/-- The options of what starts programs with other variables. -/
def usage : Usage where
  name := "env"
  plain := "i0v"
  valued := "uCS"
  long := [("ignore-environment", 'i'), ("null", '0'), ("unset", 'u'), ("chdir", 'C'),
    ("split-string", 'S'), ("debug", 'v')]
  strict := true
  status := 125

/-- What is asked for: options, variables with their values, and a program with its arguments. -/
structure Request where
  given : Given
  assignments : List (Text × Text)
  words : List Text

/-- The words of a text between blanks. -/
def split (text : Text) : List Text :=
  (Filter.cutAt ' ' (text.map fun char => if char = '\t' || char = '\n' then ' ' else char)).filter
    (!·.isEmpty)

/-- Reads what is asked for. -/
def Request.read? (words : List Text) : Except Text Request := do
  let given ← usage.read? words
  let isBare := given.operands.head? = some ['-']
  let given := if isBare then
      { given.withOption 'i' [] with operands := given.operands.drop 1 } else given
  let words := ((given.values 'S').flatMap split) ++ given.operands
  let isAssignment (word : Text) : Bool := List.elem '=' word
  return {
    given, assignments := (words.takeWhile isAssignment).filterMap (Text.splitOnce? '=')
    words := words.dropWhile isAssignment }

/-- Sets the variables as they are asked for; tells the fault of a folder that cannot be entered. -/
def Request.apply (request : Request) : Work (Option (Text × PathFault)) := do
  if request.given.has 'i' then modify fun state => { state with exported := [] }
  for name in request.given.values 'u' do
    modify fun state => { state with exported := state.exported.filter (· != name) }
  for (name, value) in request.assignments do
    State.assign name value
    modify fun state => { state with exported := name :: state.exported }
  match request.given.value? 'C' with
  | none => return none
  | some path =>
    let state ← get
    match state.disk.find (Bytes.decode path) with
    | .ok (location, .folder) =>
      set { state with disk := { state.disk with home := location } }
      return none
    | .ok _ => return some (path, .notFolder)
    | .error fault => return some (path, fault)

/-- Prints all variables, those that were asked for last. -/
def Request.print (request : Request) : Work Unit := do
  let mark := if request.given.has '0' then '\x00' else '\n'
  let known := exported (← get)
  let own (name : Text) : Bool := request.assignments.any (·.1 == name)
  let ordered := (known.filter fun (name, _) => !own name) ++
    (request.assignments.map Prod.fst).eraseDups.filterMap fun name =>
      (known.lookup name).map fun value => (name, value)
  State.print (ordered.flatMap fun (name, value) => name ++ '=' :: value ++ [mark])

end Docket.Shell.Environment
