import Docket.Shell.Bytes
import Docket.Shell.Word
import Docket.Storage.Disk
import Docket.Table.Sheet
import Docket.Text.Integer

/-! The state of a shell: what its commands read and change. -/

namespace Docket.Shell

/-- Where a descriptor leads. -/
inductive Channel where
  | nowhere
  /-- Bytes that have been written and not yet read. -/
  | buffer (number : Nat)
  | file (location : Location)
deriving DecidableEq, Repr

/-- Why the commands that follow are not run. -/
inductive Halt where
  | exit
  | signal (number : Nat)
  /-- The time is up. -/
  | late
  | return
  /-- So many loops are left. -/
  | leave (levels : Nat)
  /-- So many loops are left but for the last one, which goes on. -/
  | goOn (levels : Nat)
deriving DecidableEq, Repr

/-- A process in the background. -/
structure Job where
  number : Nat
  /-- When it ends; without a time, not before the time is up. -/
  ends : Option Nat
  status : Nat
  /-- The buffers that it can write to. -/
  holds : List Nat
deriving DecidableEq, Repr

/-- Options of a shell. -/
structure Options where
  /-- A command that fails ends the script. -/
  stopOnFailure : Bool := false
  /-- A parameter that is not set ends the script. -/
  stopOnUnset : Bool := false
  /-- Names are not matched against files. -/
  noMatching : Bool := false
  /-- Commands are shown before they are run. -/
  trace : Bool := false
deriving DecidableEq, Repr

/-- The state of a shell. Texts hold bytes, and times are in milliseconds. -/
structure State where
  disk : Disk
  /-- The name of the script. -/
  name : Text
  arguments : List Text := []
  bindings : Sheet Text Text := .empty
  exported : List Text := []
  functions : Sheet Text Command := .empty
  options : Options := {}
  status : Nat := 0
  /-- The status of the last command whose output was put into a word. -/
  substituted : Nat := 0
  line : Nat := 1
  channels : Sheet Nat Channel := .empty
  /-- What has been written to each buffer, the last piece first. -/
  buffers : Sheet Nat (List Text) := .empty
  /-- The buffers that were filled from files. -/
  fileBuffers : List Nat := []
  clock : Nat := 0
  /-- The time that is left. -/
  limit : Nat := 0
  jobs : List Job := []
  halt : Option Halt := none
  /-- How many loops the commands stand in. -/
  loops : Nat := 0
  /-- What the local variables of the current function were before; without a function, nothing. -/
  locals : Option (List (Text × Option Text)) := none
  /-- Variables that cannot be set any more. -/
  frozen : List Text := []
  /-- The command to run when the shell ends. -/
  farewell : Option Text := none
  /-- The place of the next word of options, and the letters that are left in the one before. -/
  cluster : Nat × Text := (1, [])

/-- What works on the state of a shell. -/
abbrev Work := StateM State

namespace State

/-- The number of the process of every shell. -/
def processNumber : Nat := 4711

/-- The descriptors that every program has. -/
def inputDescriptor : Nat := 0

/-- Where output goes. -/
def outputDescriptor : Nat := 1

/-- Where messages go. -/
def errorDescriptor : Nat := 2

/-- Stops, unless something stops already. -/
def stop (halt : Halt) : Work Unit :=
  modify fun state => { state with halt := state.halt.or (some halt) }

/-- Sets the status of the last command. -/
def setStatus (status : Nat) : Work Unit :=
  modify fun state => { state with status }

/-- Ends the shell with a status. -/
def exit (status : Nat) : Work Unit := do
  setStatus status
  stop .exit

/-- Appends bytes to a file. -/
def appendTo (disk : Disk) (location : Location) (text : Text) : Disk :=
  match disk.entry? location with
  | some (.file content executable) =>
    let before := match content with
      | .text written => Text.utf8 written
      | .bytes raw => raw
    let bytes := before ++ Bytes.ofText text
    disk.putEntry location
      (.file ((Text.ofUtf8? bytes).elim (.bytes bytes) .text) executable)
  | _ => disk

/-- Writes to a descriptor. -/
def writeTo (descriptor : Nat) (text : Text) : Work Unit :=
  modify fun state =>
    match state.channels.get? descriptor with
    | some (.buffer number) =>
      let pieces := (state.buffers.get? number).getD []
      { state with buffers := state.buffers.put number (text :: pieces) }
    | some (.file location) => { state with disk := appendTo state.disk location text }
    | _ => state

/-- Writes output. -/
def print (text : Text) : Work Unit :=
  writeTo outputDescriptor text

/-- Writes a line of a message. -/
def complain (text : Text) : Work Unit :=
  writeTo errorDescriptor (text ++ ['\n'])

/-- Writes a message of the shell itself, with its name and the line. -/
def report (text : Text) : Work Unit := do
  let state ← get
  complain (state.name ++ ": ".toList ++ Text.ofNat state.line ++ ": ".toList ++ text)

/-- What a buffer holds. -/
def contents (state : State) (number : Nat) : Text :=
  ((state.buffers.get? number).getD []).reverse.flatten

/-- Takes all that a descriptor has to read. -/
def readAll (descriptor : Nat) : Work Text := do
  let state ← get
  match state.channels.get? descriptor with
  | some (.buffer number) =>
    set { state with buffers := state.buffers.put number [] }
    return state.contents number
  | _ => return []

/-- Gives back what has been read too much. -/
def unread (descriptor : Nat) (text : Text) : Work Unit :=
  modify fun state =>
    match state.channels.get? descriptor with
    | some (.buffer number) =>
      let pieces := (state.buffers.get? number).getD []
      { state with buffers := state.buffers.put number (pieces ++ [text]) }
    | _ => state

/-- Takes a line; tells whether it was complete. -/
def readLine (descriptor : Nat) : Work (Text × Bool) := do
  let text ← readAll descriptor
  match Text.splitOnce? '\n' text with
  | some (line, rest) =>
    unread descriptor rest
    return (line, true)
  | none => return (text, false)

/-- A new buffer that holds a text. -/
def newBuffer (text : Text) : Work Nat := do
  let state ← get
  let number := state.buffers.size
  set { state with buffers := state.buffers.put number [text] }
  return number

/-- Points a descriptor to a channel. -/
def connect (descriptor : Nat) (channel : Channel) : Work Unit :=
  modify fun state => { state with channels := state.channels.put descriptor channel }

/-- Lets time pass. -/
def pass (time : Nat) : Work Unit := do
  let state ← get
  set { state with clock := state.clock + time }
  if state.limit ≤ state.clock + time then stop .late

/-- Waits for a time; without a time, until the time is up. -/
def waitUntil (time : Option Nat) : Work Unit := do
  let state ← get
  match time with
  | some time => pass (time - state.clock)
  | none => stop .late

/-- When the last process ends that can write to one of some buffers. -/
def closing (state : State) (buffers : List Nat) : Option Nat :=
  (state.jobs.filter fun job => job.holds.any buffers.contains).foldl
    (fun latest job => do return max (← latest) (← job.ends)) (some 0)

/-- The buffers that a state can write to. -/
def writable (state : State) : List Nat :=
  state.channels.entries.filterMap fun
    | (descriptor, .buffer number) => if descriptor = inputDescriptor then none else some number
    | _ => none

/-- The path of the working folder. -/
def homePath (state : State) : Text :=
  Bytes.encode ('/' :: Text.join ['/'] state.disk.home)

/-- The variables that every shell sets when it starts. -/
def ownVariables (state : State) : List (Text × Text) :=
  [("IFS", " \t\n"), ("OPTIND", "1"), ("PS1", "$ "), ("PS2", "> "), ("PS4", "+ ")].map
    (fun (name, value) => (name.toList, value.toList)) ++ [("PWD".toList, state.homePath)]

/-- Forgets what a shell does not hand on to the programs that it starts. -/
def renew : Work Unit :=
  modify fun state =>
    let known := state.bindings.entries.filter fun (name, _) => state.exported.contains name
    { state with
      bindings := Sheet.ofPairs (known ++ state.ownVariables), functions := .empty, options := {}
      locals := none, frozen := [], loops := 0, farewell := none, cluster := (1, []) }

/-- The value of a variable. -/
def valueOf? (state : State) (name : Text) : Option Text :=
  state.bindings.get? name

/-- The variable that holds the place of the next word of options. -/
def placeName : Text := "OPTIND".toList

/-- Sets a variable, unless it is frozen. -/
def assign (name value : Text) : Work Unit := do
  let state ← get
  if state.frozen.contains name then
    report (name ++ ": is read only".toList)
    exit 2
  else set { state with
    bindings := state.bindings.put name value
    cluster := if name = placeName then (max 1 ((Text.natural? value).getD 1), [])
      else state.cluster }

/-- Gives a variable its former value, or none. -/
def restore (name : Text) (value : Option Text) : Work Unit :=
  modify fun state =>
    { state with
      bindings := match value with
        | some value => state.bindings.put name value
        | none => state.bindings.erase name }

/-- The bytes of the file that a path leads to. -/
def fileBytes? (state : State) (path : Text) : Option Text :=
  (state.disk.file? (Bytes.decode path)).map fun (content, _) =>
    match content with
    | .text written => Bytes.encode written
    | .bytes raw => Bytes.toText raw

/-- Whether anything stops the commands that follow. -/
def isHalted : Work Bool := do
  return (← get).halt.isSome

end State

end Docket.Shell
