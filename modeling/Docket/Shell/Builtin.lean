import Docket.Shell.Condition
import Docket.Shell.Expansion
import Docket.Shell.Housekeeping

/-! Commands of the shell itself that run no others. -/

namespace Docket.Shell.Builtin

/-- Writes a message of a command, and ends the shell. -/
def refuse (name : Text) (message : Text) : Work Nat := do
  State.report (name ++ ": ".toList ++ message)
  State.exit 2
  return 2

/-- A number that a command was given. -/
def count? (word : Text) : Option Nat :=
  (Text.natural? word).filter (· < 0x80000000)

/-- Works with a number, which has a default, or ends the shell. -/
def withCount (name : Text) (default : Nat) (arguments : List Text) (work : Nat → Work Nat) :
    Work Nat :=
  match arguments with
  | [] => work default
  | word :: _ =>
    match count? word with
    | some count => work count
    | none => refuse name ("Illegal number: ".toList ++ word)

/-- Ends the shell. -/
def exit : Utility := fun arguments => do
  withCount "exit".toList (← get).status arguments fun status => do
    State.exit (status % 256)
    return status % 256

/-- Ends a function. -/
def leaveFunction : Utility := fun arguments => do
  withCount "return".toList (← get).status arguments fun status => do
    State.stop .return
    return status % 256

/-- Leaves loops, or goes on with them. -/
def leave (name : String) (halt : Nat → Halt) : Utility := fun arguments => do
  let loops := (← get).loops
  withCount name.toList 1 arguments fun count => do
    if 0 < loops then State.stop (halt (min count loops))
    return 0

/-- Drops the first arguments. -/
def shift : Utility := fun arguments => do
  let state ← get
  withCount "shift".toList 1 arguments fun count => do
    if state.arguments.length < count then
      refuse "shift".toList "can't shift that many".toList
    else
      set { state with arguments := state.arguments.drop count }
      return 0

/-- Options with a letter switched on or off. -/
def switch (isOn : Bool) (options : Options) : Char → Options
  | 'e' => { options with stopOnFailure := isOn }
  | 'u' => { options with stopOnUnset := isOn }
  | 'f' => { options with noMatching := isOn }
  | 'x' => { options with trace := isOn }
  | _ => options

/-- The letter of an option with a long name. -/
def longOption : List (String × Char) :=
  [("errexit", 'e'), ("nounset", 'u'), ("noglob", 'f'), ("xtrace", 'x')]

/-- Letters of options that are understood. -/
def optionLetters : Text :=
  "aefnuvxIimqVEbp".toList

/-- Options as words set them, and the words after them. There are other words if the last
component is set. A letter that is no option is given back. -/
def switches (options : Options) : List Text → Except Char (Options × List Text × Bool)
  | [] => .ok (options, [], false)
  | ['-', '-'] :: rest => .ok (options, rest, true)
  | [sign, 'o'] :: name :: rest =>
    match longOption.lookup (String.ofList name) with
    | some letter => switches (switch (sign = '-') options letter) rest
    | none => switches options rest
  | (sign :: first :: letters) :: rest =>
    if sign = '-' || sign = '+' then
      match (first :: letters).find? fun letter => !List.elem letter optionLetters with
      | some letter => .error letter
      | none => switches ((first :: letters).foldl (switch (sign = '-')) options) rest
    else .ok (options, (sign :: first :: letters) :: rest, true)
  | rest => .ok (options, rest, true)

/-- Sets options and arguments. -/
def setOptions : Utility := fun arguments => do
  let state ← get
  match switches state.options arguments with
  | .error letter => refuse "set".toList ("Illegal option -".toList ++ [letter])
  | .ok (options, rest, isGiven) =>
    if isGiven then set { state with options, arguments := rest, cluster := (1, []) }
    else set { state with options }
    return 0

/-- Forgets variables and functions. -/
def unset : Utility := fun arguments => do
  let (options, names) := Filter.options arguments
  for name in names do
    modify fun state =>
      if Filter.hasLetter 'f' options then
        { state with functions := state.functions.erase name }
      else { state with bindings := state.bindings.erase name }
  return 0

/-- Sets variables that are given a value, and does something with all of them. -/
def declare (work : Text → Work Unit) : Utility := fun arguments => do
  for word in (Filter.options arguments).2 do
    match Text.splitOnce? '=' word with
    | some (name, value) =>
      work name
      State.assign name value
    | none => work word
  return 0

/-- Makes variables known to the programs that are started. -/
def share : Utility :=
  declare fun name => modify fun state => { state with exported := name :: state.exported }

/-- Freezes variables. -/
def readonly : Utility := fun arguments => do
  let status ← declare (fun _ => pure ()) arguments
  let names := (Filter.options arguments).2.map fun word => word.takeWhile (· != '=')
  modify fun state => { state with frozen := names ++ state.frozen }
  return status

/-- Makes variables local to a function. -/
def keepLocal : Utility := fun arguments => do
  match (← get).locals with
  | none => refuse "local".toList "not in a function".toList
  | some _ =>
    declare (fun name => modify fun state =>
      { state with locals := state.locals.map ((name, state.valueOf? name) :: ·) }) arguments

/-- The variable that holds the working folder of before. -/
def formerName : Text := "OLDPWD".toList

/-- Changes the working folder. -/
def cd : Utility := fun arguments => do
  let state ← get
  let word := (Filter.options arguments).2.head?
  let isBack := word = some ['-']
  let target := if isBack then (state.valueOf? formerName).getD state.homePath
    else word.getD ((state.valueOf? "HOME".toList).getD [])
  match state.disk.find (Bytes.decode target) with
  | .ok (location, .folder) =>
    set { state with disk := { state.disk with home := location } }
    State.assign formerName state.homePath
    State.assign "PWD".toList (← get).homePath
    if isBack then State.print ((← get).homePath ++ ['\n'])
    return 0
  | _ =>
    if target.isEmpty then return 0
    State.report ("cd: can't cd to ".toList ++ target)
    return 2

/-- Splits a line for so many names; the last one gets what is left. -/
def splitFor (separators : Text) : Nat → Text → List Text
  | 0, _ => []
  | 1, text =>
    let isBlank (char : Char) : Bool := " \t\n".toList.elem char && List.elem char separators
    let trimmed := text.dropWhile isBlank
    [(trimmed.reverse.dropWhile isBlank).reverse]
  | count + 1, text =>
    let isBlank (char : Char) : Bool := " \t\n".toList.elem char && List.elem char separators
    let trimmed := text.dropWhile isBlank
    let first := trimmed.takeWhile fun char => !List.elem char separators
    let rest := (trimmed.drop first.length).dropWhile isBlank
    let rest := match rest with
      | char :: after =>
        if List.elem char separators && !isBlank char then after else rest
      | [] => []
    first :: splitFor separators count rest

/-- A line without its backslashes. -/
def unslash : Text → Text
  | '\\' :: char :: rest => char :: unslash rest
  | char :: rest => char :: unslash rest
  | [] => []

/-- Reads a line into variables. -/
def read : Utility := fun arguments => do
  let (options, names) := Filter.options arguments
  let (line, isComplete) ← State.readLine State.inputDescriptor
  let line := if Filter.hasLetter 'r' options then line else unslash line
  let values := splitFor (Expansion.separators (← get)) names.length line
  for (name, value) in names.zip values do State.assign name value
  return if isComplete then 0 else 1

/-- Echoes words. -/
def echo : Utility := fun arguments => do
  State.print (Printing.echo arguments)
  return 0

/-- Prints by a format. -/
def printf : Utility := fun arguments => do
  let arguments := if arguments.head? = some ['-', '-'] then arguments.drop 1 else arguments
  match arguments with
  | [] =>
    State.report "printf: usage: printf format [arg ...]".toList
    return 2
  | format :: rest =>
    match format with
    | '-' :: letter :: _ =>
      State.report ("printf: Illegal option -".toList ++ [letter])
      return 2
    | format =>
      let printed := Printing.print (rest.length + 1) format { arguments := rest }
      State.print printed.output
      for complaint in printed.complaints do State.report ("printf: ".toList ++ complaint)
      return if printed.broken then 2 else if printed.complaints.isEmpty then 0 else 1

/-- What a letter is among those that are known: no option, or one that takes a value or not. -/
def takesValue? (known : Text) (letter : Char) : Option Bool :=
  match known with
  | [] => none
  | first :: ':' :: rest => if first = letter then some true else takesValue? rest letter
  | first :: rest => if first = letter then some false else takesValue? rest letter

/-- An option that has been taken from words. -/
structure TakenOption where
  /-- The letter, or a mark that tells what is wrong. -/
  shown : Char
  /-- The value; a fault leaves none. -/
  value : Option Text
  /-- The place of the next word. -/
  place : Nat
  /-- The letters that are left before it. -/
  letters : Text := []
  complaint : Option Text := none

/-- Takes the option of a letter. With a colon in front of the known letters, faults are told by
marks, and without a message. -/
def takeOption (known : Text) (letter : Char) (letters : Text) (place : Nat)
    (next : Option Text) : TakenOption :=
  let (isQuiet, known) := match known with
    | ':' :: rest => (true, rest)
    | known => (false, known)
  let fault (mark : Char) (letters : Text) (words : String) : TakenOption :=
    if isQuiet then { shown := mark, value := some [letter], place, letters }
    else { shown := '?', value := none, place, letters, complaint := some words.toList }
  match takesValue? known letter with
  | none => fault '?' letters ("Illegal option -" ++ String.singleton letter)
  | some false => { shown := letter, value := some [], place, letters }
  | some true =>
    match letters, next with
    | [], none => fault ':' letters ("No arg for -" ++ String.singleton letter ++ " option")
    | [], some value => { shown := letter, value := some value, place := place + 1 }
    | letters, _ => { shown := letter, value := some letters, place }

/-- Takes the next option from words, and tells whether there was none. -/
def getopts : Utility := fun arguments => do
  match arguments with
  | known :: name :: given =>
    let state ← get
    let words := if given.isEmpty then state.arguments else given
    let (place, left) := state.cluster
    let word := if left.isEmpty then words[place - 1]? else none
    let place := match word with
      | some ('-' :: _ :: _) => place + 1
      | _ => place
    let letters := match word with
      | some ['-', '-'] => []
      | some ('-' :: letters) => letters
      | _ => left
    let (taken, status) : TakenOption × Nat := match letters with
      | [] => ({ shown := '?', value := state.valueOf? "OPTARG".toList, place }, 1)
      | letter :: letters => (takeOption known letter letters place words[place - 1]?, 0)
    for complaint in taken.complaint do State.complain complaint
    State.restore "OPTARG".toList taken.value
    State.assign State.placeName (Text.ofNat taken.place)
    State.assign name [taken.shown]
    modify fun state => { state with cluster := (taken.place, taken.letters) }
    return status
  | _ =>
    State.report "getopts: Usage: getopts optstring var [arg...]".toList
    return 2

/-- Decides a condition. -/
def test (name : Text) : Utility := fun arguments => do
  match Condition.holds (← get) arguments with
  | .ok holds => return if holds then 0 else 1
  | .error message =>
    State.report (name ++ ": ".toList ++ message)
    return 2

/-- Decides a condition in brackets. -/
def bracket : Utility := fun arguments =>
  if arguments.getLast? = some [']'] then test ['['] arguments.dropLast
  else do
    State.report "[: missing ]".toList
    return 2

/-- The numbers of signals by their names. -/
def signals : List (String × Nat) :=
  [("EXIT", 0), ("HUP", 1), ("INT", 2), ("QUIT", 3), ("ILL", 4), ("TRAP", 5), ("ABRT", 6),
    ("BUS", 7), ("FPE", 8), ("KILL", 9), ("USR1", 10), ("SEGV", 11), ("USR2", 12), ("PIPE", 13),
    ("ALRM", 14), ("TERM", 15), ("16", 16), ("CHLD", 17), ("CONT", 18), ("STOP", 19),
    ("TSTP", 20), ("TTIN", 21), ("TTOU", 22), ("URG", 23), ("XCPU", 24), ("XFSZ", 25),
    ("VTALRM", 26), ("PROF", 27), ("WINCH", 28), ("IO", 29), ("PWR", 30), ("SYS", 31)]

/-- The number of a signal. -/
def signal? (word : Text) : Option Nat :=
  (count? word).or <|
    signals.lookup (String.ofList
      (if Text.startsWith word "SIG".toList then word.drop 3 else word))

/-- Sends a signal to a process. -/
def send (signal : Nat) (target : Text) : Work Nat := do
  let state ← get
  match Text.natural? target with
  | none =>
    State.report ("kill: Illegal number: ".toList ++ target)
    return 2
  | some number =>
    if number = State.processNumber then
      if signal != 0 then State.stop (.signal signal)
      return 0
    else if state.jobs.any (·.number = number) then
      let ended (job : Job) : Job :=
        if job.number = number && signal != 0 && job.ends.all (state.clock < ·) then
          { job with ends := some state.clock, status := 128 + signal }
        else job
      set { state with jobs := state.jobs.map ended }
      return 0
    else
      State.report "kill: No such process".toList
      return 1

/-- Sends signals. -/
def kill : Utility := fun arguments => do
  let (signal, targets) := match arguments with
    | ['-', 's'] :: name :: rest => (signal? name, rest)
    | ('-' :: first :: name) :: rest => (signal? (first :: name), rest)
    | rest => (some 15, rest)
  match signal with
  | none =>
    State.report "kill: invalid signal number or name".toList
    return 2
  | some signal =>
    let mut status := 0
    for target in targets do status ← send signal target
    return status

/-- Waits for processes in the background. -/
def wait : Utility := fun arguments => do
  let state ← get
  if arguments.isEmpty then
    for job in state.jobs do State.waitUntil job.ends
    return 0
  let mut status := 0
  for word in arguments do
    match state.jobs.find? fun job => some job.number = Text.natural? word with
    | some job =>
      State.waitUntil job.ends
      status := job.status
    | none => status := 127
  return status

/-- Keeps a command for the end of the shell. -/
def trap : Utility := fun arguments => do
  match (if arguments.head? = some ['-', '-'] then arguments.drop 1 else arguments) with
  | action :: names =>
    if names.any fun name => signal? name = some 0 then
      modify fun state =>
        { state with farewell := if action = ['-'] || action.isEmpty then none else some action }
    return 0
  | [] => return 0

/-- The commands that run no others. -/
def known : List (String × Utility) := [
  (":", fun _ => return 0), ("true", fun _ => return 0), ("false", fun _ => return 1),
  ("exit", exit), ("return", leaveFunction), ("break", leave "break" .leave),
  ("continue", leave "continue" .goOn), ("shift", shift), ("set", setOptions), ("unset", unset),
  ("export", share), ("readonly", readonly), ("local", keepLocal), ("cd", cd), ("chdir", cd),
  ("pwd", Housekeeping.pwd), ("read", read), ("echo", echo), ("printf", printf),
  ("test", test "test".toList), ("[", bracket), ("kill", kill), ("wait", wait), ("trap", trap),
  ("umask", fun _ => return 0), ("hash", fun _ => return 0), ("alias", fun _ => return 0),
  ("ulimit", fun _ => return 0), ("times", fun _ => return 0), ("getopts", getopts)]

/-- The command of a name. -/
def named? (name : Text) : Option Utility :=
  known.lookup (String.ofList name)

/-- The names of commands whose faults end the shell, and whose assignments last. -/
def special : List String :=
  [":", ".", "break", "continue", "eval", "exec", "exit", "export", "readonly", "return", "set",
    "shift", "times", "trap", "unset"]

end Docket.Shell.Builtin
