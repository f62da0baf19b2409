import Docket.Shell.Glob
import Docket.Shell.Regex.Reader
import Docket.Shell.Usage

/-! Finding files: walking through folders, with tests and actions for each file. -/

namespace Docket.Shell.Find

/-- A number, or what is above or below it. -/
inductive Bound where
  | exactly (number : Nat)
  | above (number : Nat)
  | below (number : Nat)
deriving DecidableEq

/-- Whether a number keeps a bound. -/
def Bound.holds (bound : Bound) (number : Nat) : Bool :=
  match bound with
  | exactly wanted => number == wanted
  | above wanted => wanted < number
  | below wanted => number < wanted

/-- How bits of a mode are compared. -/
inductive Modes where
  | equal
  | all
  | some_
deriving DecidableEq

/-- What is asked about a file, or done with it. -/
inductive Test where
  | always (holds : Bool)
  | name (pattern : List Glob) (anyCase : Bool)
  | path (pattern : List Glob) (anyCase : Bool)
  | regex (regex : Regex) (anyCase : Bool)
  | kind (letters : Text)
  | empty
  | size (bound : Bound) (unit : Nat)
  | mode (bits : Nat) (comparison : Modes)
  /-- A bound of the age, as nothing is old. -/
  | age (bound : Bound)
  | print (ending : Char)
  | format (text : Text)
  | delete
  | prune
  | quit
  | execute (words : List Text)
  /-- Runs a command with all files at the end; each such command has a number. -/
  | gather (index : Nat) (words : List Text)
  | not (test : Test)
  | and (first second : Test)
  | or (first second : Test)
  | both (first second : Test)

namespace Test

/-- Whether something is done besides testing. -/
def acts : Test → Bool
  | print _ | format _ | delete | quit | execute _ | gather .. => true
  | .not test => test.acts
  | .and first second | .or first second | .both first second => first.acts || second.acts
  | _ => false

/-- Whether files are deleted. -/
def deletes : Test → Bool
  | delete => true
  | .not test => test.deletes
  | .and first second | .or first second | .both first second => first.deletes || second.deletes
  | _ => false

/-- The commands that are run with all files at the end. -/
def gathers : Test → List (Nat × List Text)
  | gather index words => [(index, words)]
  | .not test => test.gathers
  | .and first second | .or first second | .both first second => first.gathers ++ second.gathers
  | _ => []

end Test

/-- How far folders are searched. -/
structure Scope where
  least : Nat := 0
  most : Option Nat := none
  /-- Whether what is in a folder comes before the folder. -/
  deep : Bool := false
  /-- Whether expressions are written in the extended way. -/
  extended : Bool := false

/-- What is left of an expression, and what it says about the scope. -/
structure Words where
  rest : List Text
  scope : Scope := {}
  /-- How many commands are run with all files at the end. -/
  commands : Nat := 0

/-- What reads an expression. -/
abbrev Reading := StateT Words (Except Text)

/-- The number behind an optional sign. -/
def bound? : Text → Option Bound
  | '+' :: digits => (Text.natural? digits).map .above
  | '-' :: digits => (Text.natural? digits).map .below
  | digits => (Text.natural? digits).map .exactly

/-- The size that a word asks for, with its unit. -/
def size? (word : Text) : Option (Bound × Nat) :=
  let units : List (Char × Nat) :=
    [('c', 1), ('w', 2), ('b', 512), ('k', 1024), ('M', 1048576), ('G', 1073741824)]
  match word.getLast?.bind (List.lookup · units) with
  | some unit => (bound? word.dropLast).map (·, unit)
  | none => (bound? word).map (·, 512)

/-- The bits of a mode in octal digits. -/
def octal? (word : Text) : Option Nat :=
  if word.isEmpty then none
  else word.foldl (fun value digit => do
    let value ← value
    if '0' ≤ digit && digit ≤ '7' then return value * 8 + (digit.toNat - '0'.toNat)
    else none) (some 0)

/-- The mode that a word asks for, and how it is compared. -/
def mode? : Text → Option (Nat × Modes)
  | '-' :: digits => (octal? digits).map (·, .all)
  | '/' :: digits => (octal? digits).map (·, .some_)
  | digits => (octal? digits).map (·, .equal)

/-- An expression in which groups and alternatives need a backslash, written in the extended way. -/
def extended : Text → Text
  | '\\' :: char :: rest =>
    (if "()|".toList.elem char then [char] else ['\\', char]) ++ extended rest
  | char :: rest =>
    (if "()|\x7b\x7d".toList.elem char then ['\\', char] else [char]) ++ extended rest
  | [] => []

/-- Takes the argument of a test. -/
def argument (name : Text) : Reading Text := do
  let words ← get
  match words.rest with
  | word :: rest =>
    set { words with rest }
    return word
  | [] => throw ("missing argument to `".toList ++ name ++ ['\''])

/-- The pattern of an argument. -/
def pattern (name : Text) (anyCase : Bool) : Reading (List Glob) := do
  let word ← argument name
  return Glob.ofSigns (Glob.signs (if anyCase then Text.asciiLower word else word))

/-- Takes the words of a command, up to its end; tells whether it gathers files. -/
def command (name : Text) : Reading (List Text × Bool) := do
  let words ← get
  let isEnd (word : Text) : Bool := word = [';']
  let rec split (before : List Text) : List Text → Option (List Text × Bool × List Text)
    | [] => none
    | word :: rest =>
      if isEnd word then some (before.reverse, false, rest)
      else if word = ['+'] && before.head? = some "\x7b\x7d".toList then
        some (before.reverse, true, rest)
      else split (word :: before) rest
  match split [] words.rest with
  | some (found, gathers, rest) =>
    if found.isEmpty then throw ("invalid argument `;' to `".toList ++ name ++ ['\''])
    set { words with rest }
    return (found, gathers)
  | none => throw ("missing argument to `".toList ++ name ++ ['\''])

/-- The tests of a name that have no arguments. -/
def plain? : String → Option Test
  | "-true" => some (.always true)
  | "-false" => some (.always false)
  | "-empty" => some .empty
  | "-print" => some (.print '\n')
  | "-print0" => some (.print '\x00')
  | "-delete" => some .delete
  | "-prune" => some .prune
  | "-quit" => some .quit
  | "-executable" => some (.mode 0o111 .some_)
  | "-readable" | "-writable" => some (.always true)
  | "-daystart" | "-noleaf" | "-xdev" | "-mount" | "-follow" => some (.always true)
  | "-ignore_readdir_race" | "-noignore_readdir_race" | "-warn" | "-nowarn" =>
    some (.always true)
  | _ => none

/-- The depth that an option asks for. -/
def depth (name : Text) : Reading Nat := do
  let word ← argument name
  match Text.natural? word with
  | some depth => return depth
  | none =>
    throw ("Expected a positive decimal integer argument to ".toList ++ name ++ ", but got '".toList
      ++ word ++ ['\''])

/-- The test of a name with its arguments. -/
def named (name : Text) : Reading Test := do
  let invalid {α : Type} (word : Text) : Reading α :=
    throw ("invalid argument `".toList ++ word ++ "' to `".toList ++ name ++ ['\''])
  match String.ofList name with
  | "-name" => return .name (← pattern name false) false
  | "-iname" => return .name (← pattern name true) true
  | "-path" | "-wholename" => return .path (← pattern name false) false
  | "-ipath" | "-iwholename" => return .path (← pattern name true) true
  | "-regex" | "-iregex" =>
    let word ← argument name
    let anyCase := name = "-iregex".toList
    let source := if (← get).scope.extended then word else extended word
    match Regex.read? { extended := true, lenient := true, anyCase } source with
    | .ok regex => return .regex regex anyCase
    | .error fault => throw fault.message.toList
  | "-regextype" =>
    let word ← argument name
    let extended := ["posix-extended", "posix-egrep", "egrep", "posix-awk", "awk", "gnu-awk"]
    modify fun words =>
      { words with scope := { words.scope with
        extended := extended.contains (String.ofList word) } }
    return .always true
  | "-type" | "-xtype" =>
    let word ← argument name
    let letters := word.filter (· != ',')
    match letters.find? fun letter => !"bcdpflsD".toList.elem letter with
    | some letter => throw ("Unknown argument to ".toList ++ name ++ ": ".toList ++ [letter])
    | none => return .kind letters
  | "-size" =>
    let word ← argument name
    match size? word with
    | some (bound, unit) => return .size bound unit
    | none => throw ("Invalid argument `".toList ++ word ++ "' to -size".toList)
  | "-perm" =>
    let word ← argument name
    match mode? word with
    | some (bits, comparison) => return .mode bits comparison
    | none => throw ("invalid mode '".toList ++ word ++ ['\''])
  | "-mtime" | "-atime" | "-ctime" =>
    let word ← argument name
    match bound? word with
    | some bound => return .age bound
    | none => invalid word
  | "-mmin" | "-amin" | "-cmin" =>
    let word ← argument name
    match bound? word with
    | some bound =>
      return .age (match bound with
        | .exactly minutes => .exactly (minutes - 1)
        | other => other)
    | none => invalid word
  | "-maxdepth" =>
    let most ← depth name
    modify fun words => { words with scope := { words.scope with most } }
    return .always true
  | "-mindepth" =>
    let least ← depth name
    modify fun words => { words with scope := { words.scope with least } }
    return .always true
  | "-depth" | "-d" =>
    modify fun words => { words with scope := { words.scope with deep := true } }
    return .always true
  | "-printf" => return .format (← argument name)
  | "-exec" | "-execdir" =>
    let (found, gathers) ← command name
    if gathers then
      let index := (← get).commands
      modify fun words => { words with commands := index + 1 }
      return .gather index found.dropLast
    else return .execute found
  | other =>
    match plain? other with
    | some test => return test
    | none => throw ("unknown predicate `".toList ++ name ++ ['\''])

mutual

/-- Reads alternatives in a list. Each step costs one of `fuel`. -/
def sequence (fuel : Nat) : Reading Test := do
  match fuel with
  | 0 => throw []
  | fuel + 1 =>
    let first ← alternatives fuel
    let words ← get
    match words.rest with
    | [','] :: rest =>
      set { words with rest }
      return .both first (← sequence fuel)
    | _ => return first

/-- Reads alternatives. -/
def alternatives (fuel : Nat) : Reading Test := do
  match fuel with
  | 0 => throw []
  | fuel + 1 =>
    let first ← conjunction fuel
    let words ← get
    match words.rest with
    | word :: rest =>
      if ["-o", "-or"].contains (String.ofList word) then
        set { words with rest }
        return .or first (← alternatives fuel)
      else return first
    | [] => return first

/-- Reads tests that must all hold. -/
def conjunction (fuel : Nat) : Reading Test := do
  match fuel with
  | 0 => throw []
  | fuel + 1 =>
    let first ← single fuel
    let words ← get
    match words.rest with
    | [] => return first
    | word :: rest =>
      if ["-o", "-or", ",", ")"].contains (String.ofList word) then return first
      else if ["-a", "-and"].contains (String.ofList word) then
        set { words with rest }
        return .and first (← conjunction fuel)
      else return .and first (← conjunction fuel)

/-- Reads one test. -/
def single (fuel : Nat) : Reading Test := do
  match fuel with
  | 0 => throw []
  | fuel + 1 =>
    let words ← get
    match words.rest with
    | [] => throw "invalid expression".toList
    | word :: rest =>
      set { words with rest }
      match String.ofList word with
      | "(" =>
        if (rest.head?).any (· = [')']) then
          throw ("invalid expression; empty parentheses are not allowed.".toList)
        let test ← sequence fuel
        let words ← get
        match words.rest with
        | [')'] :: rest =>
          set { words with rest }
          return test
        | _ =>
          throw ("invalid expression; I was expecting to find a ')' somewhere but did not see " ++
            "one.").toList
      | ")" => throw "invalid expression; you have too many ')'".toList
      | "!" | "-not" =>
        if rest.isEmpty then throw ("expected an expression after '".toList ++ word ++ ['\''])
        return .not (← single fuel)
      | "-o" | "-or" | "-a" | "-and" | "," =>
        throw ("invalid expression; you have used a binary operator '".toList ++ word ++
          "' with nothing before it.".toList)
      | other =>
        if other.toList.head? = some '-' then named word
        else throw ("paths must precede expression: `".toList ++ word ++ ['\''])

end

/-- The test of words, with all that they say about the scope. -/
def test? (words : List Text) : Except Text (Test × Scope) := do
  if words.isEmpty then return (.print '\n', {})
  let (test, left) ← (sequence (4 * words.length + 8)).run { rest := words }
  match left.rest with
  | [] =>
    let test := if test.acts then test else .and test (.print '\n')
    return (test, { left.scope with deep := left.scope.deep || test.deletes })
  | _ => throw "invalid expression; you have too many ')'".toList

/-- A file that has been found: its path, that of its starting point, and how far it is from that.
-/
structure File where
  path : Text
  origin : Text
  depth : Nat

/-- What has been done so far. -/
structure Progress where
  status : Nat := 0
  /-- Whether what is in the current folder is left out. -/
  pruned : Bool := false
  done : Bool := false
  /-- The files that commands wait for. -/
  gathered : List (Nat × Text) := []

/-- What finds files. -/
abbrev Search := StateT Progress Work

/-- The entry of a file. -/
def entry? (path : Text) : Search (Option (Location × Entry)) := do
  let state ← (get : Work State)
  return (state.disk.find (Bytes.decode path)).toOption

/-- The last name of a path. -/
def name (path : Text) : Text :=
  let trimmed := (path.reverse.dropWhile (· == '/')).reverse
  if trimmed.isEmpty then path.take 1 else (trimmed.reverse.takeWhile (· != '/')).reverse

/-- The path without its last name. -/
def folder (path : Text) : Text :=
  let before := (path.reverse.dropWhile (· != '/')).drop 1
  if !List.elem '/' path then ['.'] else before.reverse

/-- Complains. -/
def complain (message : Text) : Search Unit := do
  (Filter.complain "find" message : Work Unit)
  modify fun progress => { progress with status := 1 }

/-- The words of a command, in which braces stand for a file. -/
def filled (path : Text) (word : Text) : Text :=
  match word with
  | '\x7b' :: '\x7d' :: rest => path ++ filled path rest
  | char :: rest => char :: filled path rest
  | [] => []

/-- Runs a command; tells its status. -/
def run (launch : Launcher) (words : List Text) : Search (Option Nat) := do
  match words with
  | [] => return none
  | program :: arguments =>
    match ← (launch program arguments : Work _) with
    | .ok status => return some status
    | .error fault =>
      (Filter.complain "find"
        ('\'' :: program ++ "': ".toList ++ Filter.wording fault) : Work Unit)
      return none

/-- The bytes of a file. -/
def sizeOf : Entry → Nat
  | .file content _ => content.size
  | .folder => 4096

/-- The mode of a file. -/
def modeOf : Entry → Nat
  | .file _ executable => if executable then 0o755 else 0o644
  | .folder => 0o755

/-- The letter of the kind of a file. -/
def kindOf : Entry → Char
  | .file .. => 'f'
  | .folder => 'd'

/-- The text that a format stands for. Each sign costs one of `fuel`. -/
def formatted (file : File) (entry : Entry) (fuel : Nat) (format : Text) : Text :=
  match fuel, format with
  | fuel + 1, '%' :: letter :: rest =>
    let found := match letter with
      | 'p' => file.path
      | 'f' => name file.path
      | 'h' => folder file.path
      | 'P' =>
        let below := file.path.drop file.origin.length
        if below.head? = some '/' then below.drop 1 else below
      | 'H' => file.origin
      | 's' => Text.ofNat (sizeOf entry)
      | 'd' => Text.ofNat file.depth
      | 'y' => [kindOf entry]
      | 'm' => Nat.toDigits 8 (modeOf entry)
      | '%' => ['%']
      | letter => ['%', letter]
    found ++ formatted file entry fuel rest
  | fuel + 1, '\\' :: letter :: rest =>
    let (char, after) := Printing.escape (letter :: rest)
    char :: formatted file entry fuel after
  | fuel + 1, char :: rest => char :: formatted file entry fuel rest
  | _, _ => []

/-- Deletes a file or an empty folder. -/
def remove (file : File) (location : Location) (entry : Entry) : Search Bool := do
  let state ← (get : Work State)
  let isEmpty := state.disk.entries.keys.all fun other =>
    other.isEmpty || other.dropLast != location
  if file.path = ['.'] then return true
  if entry matches .folder && !isEmpty then
    complain ("cannot delete '".toList ++ file.path ++ "': Directory not empty".toList)
    return false
  else
    (set { state with disk := state.disk.removeAll location } : Work Unit)
    return true

/-- Whether a test holds for a file; its actions are done. -/
def Test.holds (launch : Launcher) (file : File) (location : Location) (entry : Entry) :
    Test → Search Bool
  | .always holds => return holds
  | .name pattern anyCase =>
    let found := Find.name file.path
    return Glob.fits pattern (if anyCase then Text.asciiLower found else found)
  | .path pattern anyCase =>
    return Glob.fits pattern (if anyCase then Text.asciiLower file.path else file.path)
  | .regex expression anyCase =>
    return (expression.ends { anyCase } expression.refersBack ⟨.start file.path, []⟩).any
      (·.place.rest.isEmpty)
  | .kind letters => return letters.elem (kindOf entry)
  | .empty => do
    let state ← (get : Work State)
    return match entry with
      | .file content _ => content.size == 0
      | .folder => state.disk.entries.keys.all fun other =>
        other.isEmpty || other.dropLast != location
  | .size bound unit => return bound.holds ((sizeOf entry + unit - 1) / unit)
  | .mode bits comparison =>
    let found := modeOf entry
    return match comparison with
      | .equal => found == bits
      | .all => found &&& bits == bits
      | .some_ => bits == 0 || found &&& bits != 0
  | .age bound => return bound.holds 0
  | .print ending => do
    (State.print (file.path ++ [ending]) : Work Unit)
    return true
  | .format text => do
    (State.print (formatted file entry (text.length + 1) text) : Work Unit)
    return true
  | .delete => remove file location entry
  | .prune => do
    modify fun progress => { progress with pruned := true }
    return true
  | .quit => do
    modify fun progress => { progress with done := true }
    return true
  | .execute words => do
    return (← run launch (words.map (filled file.path))) == some 0
  | .gather index _ => do
    modify fun progress => { progress with gathered := (index, file.path) :: progress.gathered }
    return true
  | .not test => return !(← test.holds launch file location entry)
  | .and first second => do
    if ← first.holds launch file location entry then
      if (← get).done then return false else second.holds launch file location entry
    else return false
  | .or first second => do
    if ← first.holds launch file location entry then return true
    else second.holds launch file location entry
  | .both first second => do
    let _ ← first.holds launch file location entry
    if (← get).done then return false else second.holds launch file location entry

/-- Walks through a file and what is in it. Each level costs one of `fuel`. -/
def walk (launch : Launcher) (scope : Scope) (test : Test) (fuel : Nat) (file : File) :
    Search Unit := do
  match fuel with
  | 0 => return
  | fuel + 1 =>
    if (← get).done then return
    let some (location, entry) ← entry? file.path | return
    let visit : Search Unit := do
      if scope.least ≤ file.depth then let _ ← test.holds launch file location entry
    modify fun progress => { progress with pruned := false }
    unless scope.deep do visit
    let progress ← get
    let enters := !progress.pruned && !progress.done && scope.most.all (file.depth < ·)
    if enters && entry matches .folder then
      let state ← (get : Work State)
      for name in Glob.namesIn state.disk file.path do
        let path := if file.path.getLast? = some '/' then file.path ++ name
          else file.path ++ '/' :: name
        walk launch scope test fuel { file with path, depth := file.depth + 1 }
    if scope.deep && !(← get).done then visit

/-- How deep folders lie in each other. -/
def deepest : Nat := 1000

/-- Walks through all starting points, and runs the commands that have waited for files. -/
def search (launch : Launcher) (scope : Scope) (test : Test) (origins : List Text) :
    Search Unit := do
  for origin in origins do
    unless (← get).done do
      match ← entry? origin with
      | some _ => walk launch scope test deepest ⟨origin, origin, 0⟩
      | none => complain ('\'' :: origin ++ "': No such file or directory".toList)
  for (index, words) in test.gathers do
    let files := ((← get).gathered.reverse.filter (·.1 == index)).map Prod.snd
    unless files.isEmpty do
      if (← run launch (words ++ files)) != some 0 then
        modify fun progress => { progress with status := 1 }

/-- Whether an expression begins with a word. -/
def beginsExpression (word : Text) : Bool :=
  match word with
  | '-' :: _ :: _ => true
  | ['('] | ['!'] => true
  | _ => false

/-- Finds files. -/
def program (launch : Launcher) : Utility := fun arguments => do
  let isOption (word : Text) : Bool := ["-H", "-L", "-P"].contains (String.ofList word)
  let arguments := arguments.dropWhile isOption
  let origins := arguments.takeWhile (!beginsExpression ·)
  match test? (arguments.drop origins.length) with
  | .error message =>
    Filter.complain "find" message
    return 1
  | .ok (test, scope) =>
    let origins := if origins.isEmpty then [['.']] else origins
    let ((), progress) ← (search launch scope test origins).run {}
    return progress.status

end Docket.Shell.Find
