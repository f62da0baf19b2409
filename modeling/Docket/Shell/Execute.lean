import Docket.Script.Launch
import Docket.Shell.Run

/-! Executing commands of every kind. -/

namespace Docket.Shell

namespace Execute

/-- Repeats a body while a condition holds, at most `fuel` times. The body tells whether to go on,
and the last status of the body is that of the loop. -/
def repeatWhile (fuel last : Nat) (condition body : Work Bool) : Work Unit :=
  match fuel with
  | 0 => State.stop .late
  | fuel + 1 => do
    if ← condition then
      if ← body then repeatWhile fuel (← get).status condition body
    else unless ← State.isHalted do State.setStatus last

/-- How often a body is repeated before the time is taken to be up. -/
def patience : Nat := 100000

/-- Runs the body of a loop; tells whether the loop goes on. -/
def turn (body : Work Unit) : Work Bool := do
  body
  let state ← get
  let halted (halt : Option Halt) (goesOn : Bool) : Work Bool := do
    set { state with halt }
    return goesOn
  match state.halt with
  | none => return true
  | some (.leave levels) =>
    if levels ≤ 1 then halted none false else halted (some (.leave (levels - 1))) false
  | some (.goOn levels) =>
    if levels ≤ 1 then halted none true else halted (some (.goOn (levels - 1))) false
  | some _ => return false

/-- Works inside one more loop. -/
def inLoop (work : Work Unit) : Work Unit := do
  modify fun state => { state with loops := state.loops + 1 }
  work
  modify fun state => { state with loops := state.loops - 1 }

/-- Whether a condition comes out as wanted. -/
def decides (executor : Executor) (condition : Command) (wanted : Bool) : Work Bool := do
  executor true condition
  let state ← get
  return state.halt.isNone && (state.status == 0) == wanted

/-- Runs a body for each value of a variable. -/
def forEach (name : Text) (body : Work Unit) : List Text → Work Unit
  | [] => return
  | value :: rest => do
    State.assign name value
    if ← turn (do unless ← State.isHalted do body) then forEach name body rest

/-- Runs commands that feed each other. They all start together, and the last one to end ends the
pipeline. -/
def pipeline (executor : Executor) (tested : Bool) : List Command → Work Unit
  | [] => return
  | [last] => Run.inSubshell executor (executor tested last)
  | first :: rest => do
    let before ← get
    let number ← State.newBuffer []
    Run.inSubshell executor do
      State.connect State.outputDescriptor (.buffer number)
      executor tested first
    let middle ← get
    set { middle with clock := before.clock }
    State.connect State.inputDescriptor (.buffer number)
    pipeline executor tested rest
    modify fun after =>
      { after with channels := before.channels, clock := max after.clock middle.clock }

/-- The redirections of a command, and the command without them. -/
def unwrap : Command → List Redirection × Command
  | .simple line assignments words redirections =>
    (redirections, .simple line assignments words [])
  | .redirected body redirections => (redirections, body)
  | command => ([], command)

/-- Starts a command without waiting for it. -/
def background (executor : Executor) (command : Command) : Work Unit := do
  let before ← get
  let (redirections, body) := unwrap command
  State.connect State.inputDescriptor .nowhere
  if ← Run.redirectAll executor redirections then
    let started ← get
    Run.inSubshell executor (executor false body)
    modify fun after =>
      let late := after.halt = some .late
      let job : Job := ⟨State.processNumber + 1 + after.jobs.length,
        if late then none else some after.clock, after.status, started.writable⟩
      { after with
        jobs := after.jobs ++ [job], halt := if late then none else after.halt }
  modify fun after =>
    { after with channels := before.channels, clock := before.clock, status := 0 }

/-- Runs the commands of the first case that fits. -/
def select (executor : Executor) (tested : Bool) (subject : Text) :
    List (List Word × Command) → Work Unit
  | [] => State.setStatus 0
  | (words, body) :: rest => do
    let patterns ← words.mapM (Expansion.pattern (Run.output executor))
    if patterns.any (Glob.fits · subject) then
      State.setStatus 0
      executor tested body
    else select executor tested subject rest

/-- Ends a script that stops on failure, unless the command was tested. -/
def stopOnFailure (tested : Bool) : Work Unit := do
  let state ← get
  if state.options.stopOnFailure && !tested && state.status != 0 then State.stop .exit

/-- Runs a command by means of an executor for the commands inside it. -/
def step (executor : Executor) (tested : Bool) (command : Command) : Work Unit := do
  if ← State.isHalted then return
  match command with
  | .simple line assignments words redirections =>
    Run.simpleCommand executor line assignments words redirections
    stopOnFailure tested
  | .pipeline parts =>
    pipeline executor tested parts
    stopOnFailure tested
  | .negated inner =>
    executor true inner
    modify fun state =>
      if state.halt.isSome then state
      else { state with status := if state.status = 0 then 1 else 0 }
  | .both first second => if ← decides executor first true then executor tested second
  | .either first second => if ← decides executor first false then executor tested second
  | .sequence commands =>
    for inner in commands do executor tested inner
  | .background inner => background executor inner
  | .branch condition body other =>
    if ← decides executor condition true then executor tested body
    else unless ← State.isHalted do
      State.setStatus 0
      executor tested other
  | .loop untilTrue condition body =>
    inLoop <| repeatWhile patience 0 (decides executor condition !untilTrue)
      (turn (executor tested body))
  | .each name words body =>
    let arguments := (← get).arguments
    let values ← match words with
      | some words => Expansion.texts (Run.output executor) words
      | none => pure arguments
    State.setStatus 0
    inLoop <| forEach name (executor tested body) values
  | .select subject cases =>
    select executor tested (← Expansion.text (Run.output executor) subject) cases
  | .subshell body =>
    Run.inSubshell executor (executor tested body)
    stopOnFailure tested
  | .redirected body redirections =>
    Run.redirected executor redirections (executor tested body)
  | .define name body =>
    modify fun state =>
      { state with functions := state.functions.put name body, status := 0 }

end Execute

/-- Runs a command. Each command inside another one costs one of `depth`. -/
def execute : (depth : Nat) → Executor
  | 0 => fun _ _ => State.stop .late
  | depth + 1 => Execute.step (execute depth)

/-- How deep commands may stand inside each other. -/
def maxDepth : Nat := 2000

/-- The state in which a program starts: it has nothing to read. -/
def State.initial (limit : Nat) (disk : Disk) : State :=
  let channels : Sheet Nat Channel := Sheet.ofPairs [
    (inputDescriptor, .nowhere), (outputDescriptor, .buffer 0), (errorDescriptor, .buffer 1)]
  { disk, limit, channels, name := "sh".toList, buffers := Sheet.ofPairs [(0, []), (1, [])] }

/-- What a program did that left a state. -/
def State.completion (state : State) : Completion :=
  let status := match state.halt with
    | some (.signal number) => ExitStatus.signal number
    | _ => .code state.status
  { ended := if state.halt = some .late then none else some (state.clock, status)
    output := Bytes.ofText (state.contents 0)
    errors := Bytes.ofText (state.contents 1)
    closed := (state.closing [0, 1]).map (max state.clock) }

/-- The folders that every host has. -/
def commonFolders : List Location :=
  [["bin"], ["dev"], ["etc"], ["home"], ["opt"], ["proc"], ["root"], ["tmp"], ["usr"],
    ["usr", "bin"], ["usr", "lib"], ["usr", "local"], ["var"]].map fun names =>
      names.map String.toList

/-- A disk with the folders that every host has, and those that it did not have before. -/
def furnish (disk : Disk) : Disk × List Location :=
  let added := commonFolders.filter fun location => (disk.entry? location).isNone
  (added.foldl (fun disk location => disk.putEntry location .folder) disk, added)

/-- The host that knows shells, and the programs that their scripts commonly start. -/
def host : Host := fun launch limit disk =>
  let words := launch.program :: launch.arguments
  let (furnished, added) := furnish disk
  let start := State.initial limit furnished
  let name := Bytes.encode launch.program
  if words.any (List.elem '\x00') then (none, disk)
  else match Run.startable furnished start name with
    | .error _ => (none, disk)
    | .ok _ =>
      let arguments := launch.arguments.map Bytes.encode
      let ((), done) := (Run.become Run.nesting (execute maxDepth) name arguments).run start
      let left := added.foldl Disk.removeAll done.disk
      (some done.completion, { left with home := disk.home })

end Docket.Shell
