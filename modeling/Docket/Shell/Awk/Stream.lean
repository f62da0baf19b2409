import Docket.Shell.Awk.Record

/-! Where scripts read and write: the records of the arguments, other files, and commands. -/

namespace Docket.Shell.Awk

namespace Stream

/-- Ends the script if the time is up. -/
def checkTime : Play Unit := do
  if ← Play.work State.isHalted then throw .late

/-- Runs a command and tells its status. `shell` is the name by which the shell is called. -/
def launch (shell : String) (command : Text) : Play Nat := do
  let result ← Play.work ((← get).launch "sh".toList ["-c".toList, command, shell.toList])
  checkTime
  return result.toOption.getD 127

/-- Writes to a channel. -/
def write (channel : Channel) (text : Text) : Play Unit :=
  unless text.isEmpty do
    Play.work do
      let outer ← get
      State.connect State.outputDescriptor channel
      State.print text
      modify fun state => { state with channels := outer.channels }

/-- Hands on what has been written so far, but for what commands wait for. -/
def flush : Play Unit := do
  let machine ← get
  set { machine with pending := [] }
  Play.work (State.print machine.pending.reverse.flatten)
  for output in machine.outputs do
    unless output.direction = .command do write output.channel output.pending.reverse.flatten
  modify fun machine =>
    { machine with
      outputs := machine.outputs.map fun output =>
        if output.direction = .command then output else { output with pending := [] } }

/-- Hands on all that was written to an output, and tells the status. -/
def finish (output : Output) : Play Nat := do
  let text := output.pending.reverse.flatten
  match output.direction with
  | .command =>
    let outer ← Play.work get
    let number ← Play.work (State.newBuffer text)
    Play.work (State.connect State.inputDescriptor (.buffer number))
    let status ← launch "/bin/sh" output.name
    Play.work (modify fun state => { state with channels := outer.channels })
    return status
  | _ =>
    write output.channel text
    return 0

/-- Opens an output. -/
def openOutput (direction : Direction) (name : Text) : Play Output := do
  match direction with
  | .command =>
    flush
    return { direction, name, channel := .nowhere }
  | _ =>
    let state ← Play.work get
    let path := Bytes.decode name
    let found? : Option Location := match state.disk.find path with
      | .ok (location, .file ..) => if direction = .append then some location else none
      | _ => none
    match String.ofList name, found? with
    | "/dev/null", _ => return { direction, name, channel := .nowhere }
    | _, some location => return { direction, name, channel := .file location }
    | _, none =>
      match state.disk.openEmpty path with
      | .ok (location, disk) =>
        Play.work (modify fun state => { state with disk })
        return { direction, name, channel := .file location }
      | .error fault =>
        Play.refuse ("cannot open \"".toList ++ name ++ "\" for output (".toList ++
          Filter.wording fault ++ [')'])

/-- Writes to a file or a command, or where output goes. -/
def print (route : Option (Direction × Text)) (text : Text) : Play Unit := do
  let plain : Play Unit :=
    modify fun machine => { machine with pending := text :: machine.pending }
  match route with
  | none => plain
  | some (direction, name) =>
    if direction != .command && (name = "/dev/stdout".toList || name = ['-']) then plain
    else if direction != .command && name = "/dev/stderr".toList then
      Play.work (State.writeTo State.errorDescriptor text)
    else
      let known := (← get).outputs.any (·.name == name)
      unless known do
        let output ← openOutput direction name
        modify fun machine => { machine with outputs := output :: machine.outputs }
      modify fun machine =>
        { machine with
          outputs := machine.outputs.map fun output =>
            if output.name = name then { output with pending := text :: output.pending }
            else output }

/-- Takes a command's output. -/
def capture (command : Text) : Play (Text × Nat) := do
  flush
  let outer ← Play.work get
  let number ← Play.work (State.newBuffer [])
  Play.work (State.connect State.outputDescriptor (.buffer number))
  let status ← launch "/bin/sh" command
  Play.work do
    modify fun state => { state with channels := outer.channels }
    State.waitUntil ((← get).closing [number])
  checkTime
  return ((← Play.work get).contents number, status)

/-- What is said about a file that cannot be read. -/
def refusal (path : Text) (fault : PathFault) : Text :=
  if fault = .isFolder then "read error (Is a directory)".toList
  else "cannot open \"".toList ++ path ++ "\" (".toList ++ Filter.wording fault ++ [')']

/-- Opens an input, unless it cannot be. -/
def openInput? (origin : Origin) (name : Text) : Play (Option Input) := do
  match origin with
  | .command =>
    let (rest, status) ← capture name
    return some { origin, name, rest, status }
  | _ =>
    match ← Play.work (Filter.read (if name = "/dev/stdin".toList then ['-'] else name)) with
    | .ok rest => return some { origin, name, rest }
    | .error .isFolder => Play.refuse (refusal name .isFolder)
    | .error _ => return none

/-- The next record of a file or a command: none at the end, and nothing if it cannot be read. -/
def takeFrom? (origin : Origin) (name : Text) : Play (Option (Option Text)) := do
  let isWanted (input : Input) : Bool := input.origin = origin && input.name = name
  let input? ← match (← get).inputs.find? isWanted with
    | some input => pure (some input)
    | none => do
      let opened ← openInput? origin name
      if let some input := opened then
        modify fun machine => { machine with inputs := input :: machine.inputs }
      pure opened
  match input? with
  | none => return none
  | some input =>
    match ← Record.next? input.rest with
    | none => return some none
    | some (record, rest) =>
      modify fun machine =>
        { machine with
          inputs := machine.inputs.map fun other =>
            if isWanted other then { input with rest } else other }
      return some (some record)

/-- Closes a file or a command, and tells the status. -/
def close (name : Text) : Play Int := do
  let machine ← get
  let inputs := machine.inputs.filter (·.name == name)
  let outputs := machine.outputs.filter (·.name == name)
  set { machine with
    inputs := machine.inputs.filter (·.name != name)
    outputs := machine.outputs.filter (·.name != name) }
  let statuses ← outputs.mapM finish
  return ((statuses ++ inputs.map (·.status)).head?.map Int.ofNat).getD (-1)

/-- Closes everything that is written to. -/
def closeAll : Play Unit := do
  let outputs := (← get).outputs
  modify fun machine => { machine with outputs := [] }
  for output in outputs do let _ ← finish output
  flush

end Stream

namespace Argument

/-- Whether a text can be the name of a variable. -/
def isName (name : Text) : Bool :=
  name.head?.any (fun char => char.isAlpha || char == '_') &&
    name.all fun char => char.isAlphanum || char == '_'

/-- The name and the value in the text of an assignment. -/
def assignment? (text : Text) : Option (Text × Value) :=
  match Text.splitOnce? '=' text with
  | some (name, value) =>
    if isName name then some (name, .ofInput (Token.unescape (value.length + 1) value)) else none
  | none => none

/-- The arguments. -/
def arguments : Play Table := do
  match (← get).globals.get? "ARGV".toList with
  | some (.table number) => return (← get).table number
  | _ => return {}

/-- Opens the next file among the arguments, or what is read without any; tells whether there was
one. Each argument costs one of `fuel`. -/
def openNext (fuel : Nat) : Play Bool := do
  let machine ← get
  let count := whole (← Machine.value "ARGC".toList).toNumber
  let opened (name : Text) : Play Bool := do
    match ← Play.work (Filter.read name) with
    | .ok text =>
      modify fun machine => { machine with current := some text, hasFile := true }
      Machine.assign "FILENAME".toList (.text name)
      Machine.assign "FNR".toList (.ofNat 0)
      return true
    | .error fault => Play.refuse (Stream.refusal name fault)
  match fuel with
  | 0 => return false
  | fuel + 1 =>
    if count ≤ machine.nextFile then
      if machine.hasFile then return false else opened ['-']
    else
      set { machine with nextFile := machine.nextFile + 1 }
      match (← arguments).values.get? (Text.ofNat machine.nextFile) with
      | none => openNext fuel
      | some value =>
        let text ← Machine.text value
        if text.isEmpty then openNext fuel
        else match assignment? text with
          | some (name, value) =>
            Machine.assign name value
            openNext fuel
          | none => opened text

/-- Counts a record. -/
def count (name : String) : Play Unit := do
  let before := (← Machine.value name.toList).toNumber
  Machine.assign name.toList (.number (before + 1))

/-- The next record of the files among the arguments. Each file costs one of `fuel`. -/
def next? (fuel : Nat) : Play (Option Text) := do
  let machine ← get
  match fuel with
  | 0 => return none
  | fuel + 1 =>
    if machine.isOver then return none
    let found ← match machine.current with
      | some text => Record.next? text
      | none => pure none
    match found with
    | some (record, rest) =>
      modify fun machine => { machine with current := some rest }
      count "NR"
      count "FNR"
      return some record
    | none =>
      if ← openNext 100000 then next? fuel
      else
        modify fun machine => { machine with current := none, isOver := true }
        return none

end Argument

end Docket.Shell.Awk
