import Docket.Shell.Builtin
import Docket.Shell.Reader
import Docket.Shell.Toolbox

/-! Running commands of shells. -/

namespace Docket.Shell

/-- How a command is run. A tested command may fail without ending the script. -/
abbrev Executor := Bool → Command → Work Unit

namespace Run

/-- Runs the commands of a text up to the first fault. `who` names the text in messages. -/
def text (executor : Executor) (who : Text) (source : Text) : Work Unit := do
  let (commands, fault) := Reader.script source
  for command in commands do
    if ← State.isHalted then return
    executor false command
  if ← State.isHalted then return
  match fault with
  | none => return
  | some (line, fault) =>
    modify fun state => { state with line }
    State.report (who ++ "Syntax error: ".toList ++ fault.message)
    State.exit 2

/-- Says farewell when a shell ends. -/
def farewell (executor : Executor) : Work Unit := do
  let state ← get
  match state.farewell, state.halt with
  | _, some .late => return
  | _, some (.signal _) => return
  | none, _ => return
  | some command, halt =>
    set { state with farewell := none, halt := none }
    text executor [] command
    modify fun after =>
      if after.halt.isSome then after else { after with halt, status := state.status }

/-- The status of a shell that has ended. -/
def finalStatus (state : State) : Nat :=
  match state.halt with
  | some (.signal number) => 128 + number
  | _ => state.status

/-- Runs commands whose changes to the shell do not last. -/
def inSubshell (executor : Executor) (work : Work Unit) : Work Unit := do
  let outer ← get
  set { outer with farewell := none, loops := 0 }
  work
  farewell executor
  let inner ← get
  let halt := match inner.halt with
    | some .late => some Halt.late
    | some (.signal number) => some (.signal number)
    | _ => none
  set { outer with
    disk := { inner.disk with home := outer.disk.home }
    buffers := inner.buffers, clock := inner.clock, jobs := inner.jobs, halt
    status := finalStatus inner }

/-- Lets the time pass until nothing can write to a buffer any more. -/
def awaitBuffer (number : Nat) : Work Unit := do
  State.waitUntil ((← get).closing [number])

/-- The output of commands, without the line ends after it. -/
def output (executor : Executor) : Runner := fun source => do
  let number ← State.newBuffer []
  inSubshell executor do
    State.connect State.outputDescriptor (.buffer number)
    text executor [] source
  awaitBuffer number
  let state ← get
  set { state with substituted := state.status }
  return ((state.contents number).reverse.dropWhile (· == '\n')).reverse

/-- Opens a file for writing. -/
def openOutput (path : Text) (append : Bool) : Work (Option Channel) := do
  let state ← get
  let decoded := Bytes.decode path
  let refused (reason : String) : Work (Option Channel) := do
    State.report ("cannot create ".toList ++ path ++ ": ".toList ++ reason.toList)
    return none
  match String.ofList path with
  | "/dev/null" => return some .nowhere
  | "/dev/stdout" => return state.channels.get? State.outputDescriptor
  | "/dev/stderr" => return state.channels.get? State.errorDescriptor
  | _ =>
    match if append then state.disk.find decoded else .error .missing with
    | .ok (location, .file ..) => return some (.file location)
    | _ =>
      match state.disk.openEmpty decoded with
      | .ok (location, disk) =>
        set { state with disk }
        return some (.file location)
      | .error .isFolder => refused "Is a directory"
      | .error .missing => refused "Directory nonexistent"
      | .error fault => refused (String.ofList (Filter.wording fault))

/-- Opens a file for reading. -/
def openInput (path : Text) : Work (Option Channel) := do
  let state ← get
  if path = "/dev/null".toList then return some .nowhere
  match state.disk.find (Bytes.decode path) with
  | .ok (_, .folder) => return some .nowhere
  | .ok _ =>
    let number ← State.newBuffer ((state.fileBytes? path).getD [])
    modify fun state => { state with fileBuffers := number :: state.fileBuffers }
    return some (.buffer number)
  | .error _ =>
    State.report ("cannot open ".toList ++ path ++ ": No such file".toList)
    return none

/-- Points a descriptor to where another one leads. -/
def duplicate (descriptor : Nat) (target : Text) : Work Bool := do
  let state ← get
  if target = ['-'] then
    set { state with channels := state.channels.erase descriptor }
    return true
  match (Text.natural? target).bind state.channels.get? with
  | some channel =>
    State.connect descriptor channel
    return true
  | none =>
    State.report (target ++ ": Bad file descriptor".toList)
    return false

/-- Redirects a descriptor; tells whether it could be done. -/
def redirect (executor : Executor) (redirection : Redirection) : Work Bool := do
  let target ← Expansion.text (output executor) redirection.target
  if ← State.isHalted then return false
  let connected (channel : Option Channel) : Work Bool := do
    match channel with
    | some channel =>
      State.connect redirection.descriptor channel
      return true
    | none => return false
  match redirection.direction with
  | .input => connected (← openInput target)
  | .output => connected (← openOutput target false)
  | .append => connected (← openOutput target true)
  | .duplicate => duplicate redirection.descriptor target
  | .document => connected (some (.buffer (← State.newBuffer target)))

/-- Redirects descriptors, up to the first one that cannot be. -/
def redirectAll (executor : Executor) : List Redirection → Work Bool
  | [] => return true
  | redirection :: rest => do
    if ← redirect executor redirection then redirectAll executor rest else return false

/-- Works with redirected descriptors, or fails. Afterwards they lead where they led. -/
def redirected (executor : Executor) (redirections : List Redirection) (work : Work Unit) :
    Work Unit := do
  let channels := (← get).channels
  if ← redirectAll executor redirections then work else State.setStatus 2
  modify fun state => { state with channels }

/-- Reports that a program cannot be run. -/
def fail (message : Text) (status : Nat) : Work Unit := do
  State.report message
  State.setStatus status

/-- Runs the script in a file. -/
def scriptFile (executor : Executor) (path : Text) (arguments : List Text) : Work Unit := do
  match (← get).fileBytes? path with
  | none =>
    State.complain ("sh: 0: cannot open ".toList ++ path ++ ": No such file".toList)
    State.exit 2
  | some source =>
    modify fun state => { state with name := path, arguments }
    text executor [] source

/-- The letters among the options of a shell that tell where its commands stand, and the words
without them. -/
def withoutModes : List Text → Text × List Text
  | ['-', 'o'] :: name :: rest =>
    let (modes, others) := withoutModes rest
    (modes, ['-', 'o'] :: name :: others)
  | ('-' :: letter :: letters) :: rest =>
    if letter = '-' then ([], ('-' :: letter :: letters) :: rest)
    else
      let isMode (letter : Char) : Bool := letter == 'c' || letter == 's' || letter == 'l'
      let (modes, others) := withoutModes rest
      let kept := (letter :: letters).filter (!isMode ·)
      ((letter :: letters).filter isMode ++ modes,
        if kept.isEmpty then others else ('-' :: kept) :: others)
  | rest => ([], rest)

/-- Runs a shell with arguments. -/
def shell (executor : Executor) (arguments : List Text) : Work Unit := do
  let refuse (message : Text) : Work Unit := do
    State.complain ("sh: 0: ".toList ++ message)
    State.exit 2
  let (modes, arguments) := withoutModes arguments
  let commands := List.elem 'c' modes
  match Builtin.switches {} arguments with
  | .error letter => refuse ("Illegal option -".toList ++ [letter])
  | .ok (options, rest, _) =>
    modify fun state => { state with options, name := "sh".toList, arguments := [] }
    match rest with
    | [] =>
      if commands then refuse "-c requires an argument".toList
      else text executor [] (← State.readAll State.inputDescriptor)
    | first :: rest =>
      if commands then
        modify fun state =>
          { state with name := rest.head?.getD "sh".toList, arguments := rest.drop 1 }
        text executor [] first
      else if List.elem 's' modes then
        modify fun state => { state with arguments := first :: rest }
        text executor [] (← State.readAll State.inputDescriptor)
      else scriptFile executor first rest

/-- The names of shells. -/
def shells : List String :=
  ["sh", "dash", "bash", "ash"]

/-- A program that can be started. -/
inductive Program where
  | utility (work : Utility)
  | shell
  /-- It gives way to another program. -/
  | environment
  /-- It starts other programs. -/
  | starter (work : Launcher → Utility)

/-- The program of a name without slashes, if it does not tell of others. -/
def simple? (name : Text) : Option Program :=
  if shells.contains (String.ofList name) then some .shell
  else if name = "env".toList then some .environment
  else if name = "printf".toList then some (.utility Builtin.printf)
  else if name = "test".toList then some (.utility (Builtin.test name))
  else if name = ['['] then some (.utility Builtin.bracket)
  else match Utility.named? name with
    | some work => some (.utility work)
    | none => (Utility.starter? name).map .starter

/-- Tells where the programs of names lie. -/
def which : Utility := fun words => do
  let (options, names) := Filter.options words
  let mut status := if names.isEmpty then 1 else 0
  let disk := (← get).disk
  for name in names do
    let isThere := if List.elem '/' name then (disk.file? (Bytes.decode name)).any Prod.snd
      else (simple? name).isSome || name = "which".toList
    let folders := if List.elem '/' name then [""]
      else if Filter.hasLetter 'a' options then ["/usr/bin/", "/bin/"] else ["/usr/bin/"]
    if isThere then
      for folder in folders do State.print (folder.toList ++ name ++ ['\n'])
    else status := 1
  return status

/-- The program of a name without slashes. -/
def program? (name : Text) : Option Program :=
  if name = "which".toList then some (.utility which) else simple? name

/-- The name in a folder of programs that a path stands for. -/
def programName? (path : Text) : Option Text :=
  (["/bin/", "/usr/bin/"].find? fun folder => Text.startsWith path folder.toList).map
    fun folder => path.drop folder.length

/-- The words in the first line of a script that name its interpreter. -/
def interpreter? (source : Text) : Option (List Text) :=
  match source with
  | '#' :: '!' :: rest =>
    let isBlank (char : Char) : Bool := char == ' ' || char == '\t'
    let line := (rest.takeWhile (· != '\n')).dropWhile isBlank
    let line := (line.reverse.dropWhile isBlank).reverse
    let program := line.takeWhile (!isBlank ·)
    let option := (line.drop program.length).dropWhile isBlank
    if program.isEmpty then none
    else some (program :: if option.isEmpty then [] else [option])
  | _ => none

/-- What a path or a name leads to, if it can be started: a program, and the arguments in front. -/
def startable (disk : Disk) (state : State) (name : Text) :
    Except PathFault (Program × List Text) :=
  let ofPath (path : Text) : Except PathFault (Program × List Text) :=
    match (programName? path).bind program? with
    | some program => .ok (program, [])
    | none => .error .missing
  if !List.elem '/' name then
    match program? name with
    | some program => .ok (program, [])
    | none => .error .missing
  else match disk.find (Bytes.decode name) with
    | .ok (_, .file _ true) =>
      match interpreter? ((state.fileBytes? name).getD []) with
      | none => .error .unusable
      | some words =>
        (ofPath (words.head?.getD [])).map fun (program, _) =>
          (program, words.drop 1 ++ [name])
    | .ok _ => .error .refused
    | .error _ => ofPath name

/-- What is said when a signal ends a program. -/
def obituary (number : Nat) : Text :=
  let known : List (Nat × String) := [
    (1, "Hangup"), (3, "Quit"), (4, "Illegal instruction"), (6, "Aborted"),
    (8, "Floating point exception"), (9, "Killed"), (10, "User defined signal 1"),
    (11, "Segmentation fault"), (12, "User defined signal 2"), (14, "Alarm clock"),
    (15, "Terminated")]
  match known.lookup number with
  | some words => words.toList
  | none => "Signal ".toList ++ Text.ofNat number

/-- Starts a program of its own, and waits for it; tells by what it was halted. -/
def apart (work : Work Unit) : Work (Option Halt) := do
  let outer ← get
  work
  let ended := (← get).halt
  modify fun inner =>
    { outer with
      disk := { inner.disk with home := outer.disk.home }
      buffers := inner.buffers, clock := inner.clock, jobs := inner.jobs
      status := finalStatus inner
      halt := if inner.halt = some .late then some .late else none }
  return ended

/-- What starts programs, by means of what runs them in place of the commands that follow. -/
def launcher (become : Text → List Text → Work Unit) : Launcher := fun name arguments => do
  let state ← get
  let run : Work (Except PathFault Nat) := do
    let _ ← apart (become name arguments)
    return .ok (← get).status
  match startable state.disk state name with
  | .error .unusable => run
  | .error fault => return .error fault
  | .ok _ => run

/-- Runs a program in place of the commands that follow. Each program that starts another costs one
of `fuel`. -/
def become (fuel : Nat) (executor : Executor) (name : Text) (arguments : List Text) :
    Work Unit :=
  match fuel with
  | 0 => State.stop .late
  | fuel + 1 => do
    let state ← get
    match startable state.disk state name with
    | .ok (.utility work, before) => State.setStatus (← work (before ++ arguments))
    | .ok (.starter work, before) =>
      State.setStatus (← work (launcher (become fuel executor)) (before ++ arguments))
    | .ok (.shell, before) =>
      State.renew
      shell executor (before ++ arguments)
      farewell executor
    | .ok (.environment, before) =>
      match Environment.Request.read? (before ++ arguments) with
      | .error message => State.setStatus (← Environment.usage.refuse message)
      | .ok request =>
        match ← request.apply with
        | some (path, fault) =>
          Filter.complain "env" ("cannot change directory to '".toList ++ path ++ "': ".toList ++
            Filter.wording fault)
          State.setStatus 125
        | none =>
          match request.words with
          | [] =>
            request.print
            State.setStatus 0
          | name :: arguments =>
            let state ← get
            match startable state.disk state name with
            | .error .unusable => become fuel executor name arguments
            | .error fault =>
              Filter.complain "env" ('\'' :: name ++ "': ".toList ++ Filter.wording fault)
              State.setStatus (if fault = .missing then 127 else 126)
            | .ok _ => become fuel executor name arguments
    | .error _ =>
      State.renew
      scriptFile executor name arguments
      farewell executor

/-- How many programs can start each other. -/
def nesting : Nat := 20

/-- Starts a program by its name, and waits for it. -/
def start (executor : Executor) (name : Text) (arguments : List Text) : Work Unit := do
  let state ← get
  let run : Work Unit := do
    match ← apart (become nesting executor name arguments) with
    | some (.signal number) => State.complain (obituary number)
    | _ => return
  match startable state.disk state name with
  | .error .refused => fail (name ++ ": Permission denied".toList) 126
  | .error .unusable => run
  | .error _ => fail (name ++ ": not found".toList) 127
  | .ok _ => run

/-- Calls a function. -/
def call (executor : Executor) (body : Command) (arguments : List Text) : Work Unit := do
  let before ← get
  set { before with arguments, locals := some [], loops := 0, cluster := (1, []) }
  executor false body
  let after ← get
  for (name, value) in after.locals.getD [] do State.restore name value
  modify fun state =>
    { state with
      arguments := before.arguments, locals := before.locals, loops := before.loops
      cluster := before.cluster
      halt := if state.halt = some .return then none else state.halt }

/-- Runs the commands of a file in this shell. -/
def source (executor : Executor) (arguments : List Text) : Work Unit := do
  let path := arguments.head?.getD []
  match (← get).fileBytes? path with
  | none =>
    State.report (".: cannot open ".toList ++ path ++ ": No such file".toList)
    State.exit 2
  | some found =>
    text executor [] found
    modify fun state =>
      { state with halt := if state.halt = some .return then none else state.halt }

/-- Tells what names stand for. -/
def identify (isBrief : Bool) : Utility := fun names => do
  let mut status := 0
  for name in names do
    let state ← get
    let isOwn := (Builtin.named? name).isSome || Builtin.special.contains (String.ofList name)
    if state.functions.has name then
      State.print (name ++ (if isBrief then "" else " is a shell function").toList ++ ['\n'])
    else if isOwn then
      State.print (name ++ (if isBrief then "" else " is a shell builtin").toList ++ ['\n'])
    else if (program? name).isSome then
      let path := "/usr/bin/".toList ++ name
      State.print ((if isBrief then path else name ++ " is ".toList ++ path) ++ ['\n'])
    else
      unless isBrief do State.print (name ++ ": not found\n".toList)
      status := 127
  return status

/-- Runs a command that is no function. -/
def plain (executor : Executor) (name : Text) (arguments : List Text) : Work Unit := do
  match String.ofList name, arguments with
  | "eval", _ => text executor "eval: ".toList (Text.join [' '] arguments)
  | ".", _ => source executor arguments
  | "command", ['-', 'v'] :: names => State.setStatus (← identify true names)
  | "type", _ => State.setStatus (← identify false arguments)
  | _, _ =>
    match Builtin.named? name with
    | some work => State.setStatus (← work arguments)
    | none => start executor name arguments

/-- Replaces the shell by a program. -/
def replace (executor : Executor) (words : List Text) : Work Unit := do
  match words with
  | [] => State.setStatus 0
  | name :: arguments =>
    let state ← get
    match startable state.disk state name with
    | .error .missing =>
      State.report ("exec: ".toList ++ name ++ ": not found".toList)
      State.exit 127
    | .error .refused =>
      State.report ("exec: ".toList ++ name ++ ": Permission denied".toList)
      State.exit 126
    | _ =>
      become nesting executor name arguments
      State.stop .exit

/-- Runs the words of a simple command, in front of which assignments may stand. -/
def words (executor : Executor) (assignments : List (Text × Text)) (name : Text)
    (arguments : List Text) : Work Unit := do
  let before ← get
  for (name, value) in assignments do
    State.assign name value
    modify fun state => { state with exported := name :: state.exported }
  if ← State.isHalted then return
  match before.functions.get? name, String.ofList name, arguments with
  | some body, _, _ => call executor body arguments
  | none, "exec", _ => replace executor arguments
  | none, "command", name :: arguments =>
    plain executor (if name = ['-', 'v'] then "command".toList else name)
      (if name = ['-', 'v'] then name :: arguments else arguments)
  | none, _, _ => plain executor name arguments
  unless Builtin.special.contains (String.ofList name) do
    for (name, _) in assignments do State.restore name (before.valueOf? name)
    modify fun state => { state with exported := before.exported }

/-- Shows a command before it is run, where messages go without its redirections. -/
def trace (outer : Sheet Nat Channel) (assignments : List (Text × Text)) (words : List Text) :
    Work Unit := do
  let state ← get
  if state.options.trace then
    let shown := assignments.map fun (name, value) => name ++ '=' :: value
    set { state with channels := outer }
    State.complain ((state.valueOf? "PS4".toList).getD [] ++ Text.join [' '] (shown ++ words))
    modify fun after => { after with channels := state.channels }

/-- Runs a simple command. -/
def simpleCommand (executor : Executor) (line : Nat) (assignments : List (Text × Word))
    (found : List Word) (redirections : List Redirection) : Work Unit := do
  modify fun state => { state with line, substituted := 0 }
  let runner := output executor
  let texts ← Expansion.texts runner found
  if ← State.isHalted then return
  let assigned : Work (List (Text × Text)) := assignments.mapM fun (name, word) => do
    return (name, ← Expansion.text runner word)
  let channels := (← get).channels
  match texts with
  | [] =>
    redirected executor redirections do
      let mut shown := []
      for (name, word) in assignments do
        let value ← Expansion.text runner word
        unless ← State.isHalted do
          State.assign name value
          shown := shown ++ [(name, value)]
      unless ← State.isHalted do
        trace channels shown []
        State.setStatus (← get).substituted
  | [['e', 'x', 'e', 'c']] =>
    -- Without a program, the descriptors stay redirected.
    if ← redirectAll executor redirections then
      trace channels [] texts
      State.setStatus 0
    else State.exit 2
  | name :: arguments =>
    let isSpecial := Builtin.special.contains (String.ofList name)
    if ← redirectAll executor redirections then
      let assigned ← assigned
      unless ← State.isHalted do
        trace channels assigned texts
        words executor assigned name arguments
    else if isSpecial then State.exit 2
    else State.setStatus 2
    modify fun state => { state with channels }

end Run

end Docket.Shell
