import Docket.Shell.Sed.Reader
import Docket.Shell.Usage

/-! Editing streams: what scripts make of lines. -/

namespace Docket.Shell.Sed

/-- A line that is read, and whether it had an end. -/
structure Line where
  text : Text
  ended : Bool
deriving Inhabited

/-- The lines of a text. -/
def linesOf (mark : Char) (text : Text) : List Line :=
  match (Filter.cutAt mark text).reverse with
  | [] => []
  | last :: before =>
    let complete := (before.reverse).map (⟨·, true⟩)
    if last.isEmpty then complete else complete ++ [⟨last, false⟩]

/-- The state of an editor. -/
structure Session where
  silent : Bool
  /-- What ends lines. -/
  mark : Char := '\n'
  /-- The lines still to be read. -/
  input : List Line
  /-- The name of the file that is read. -/
  name : Text
  /-- How wide lines are shown. -/
  width : Nat
  /-- The text of a file. -/
  contents : Text → Option Text
  number : Nat := 0
  current : Line := ⟨[], true⟩
  held : Text := []
  /-- Whether a substitution has been made since the last input or jump. -/
  made : Bool := false
  /-- The places of commands in whose lines the input is, and where they end if that is known. -/
  ranges : List (Nat × Option Nat) := []
  /-- The expression that was used last. -/
  regex : Option Regex := none
  /-- What is printed at the end of the cycle, the last piece first. -/
  queue : List Text := []
  /-- What has been written to each file, the last piece first. -/
  outputs : Sheet Text (List Text) := .empty
  /-- The files whose last line has no end yet. -/
  gaps : List Text := []
  /-- The lines left of files that are read line by line. -/
  sources : Sheet Text (List Line) := .empty

/-- What works on the state of an editor. -/
abbrev Edit := StateM Session

/-- How a cycle ends. -/
inductive Ending where
  /-- The line is printed, and the next one is read. -/
  | done
  | deleted
  /-- What is left is edited again. -/
  | again
  | quit (status : Nat)
deriving DecidableEq

namespace Session

/-- Where printed lines go: a file without a name. -/
def printed : Text := []

/-- Writes a text to a file; a line of that file without an end is ended first. -/
def emit (file text : Text) (ended : Bool) : Edit Unit :=
  modify fun session =>
    let stream := if file = "/dev/stdout".toList then printed else file
    let gap := if session.gaps.contains file then [session.mark] else []
    let pieces := (session.outputs.get? stream).getD []
    { session with
      outputs := session.outputs.put stream (text :: gap :: pieces)
      gaps := if ended then session.gaps.filter (· != file)
        else file :: session.gaps.filter (· != file) }

/-- Writes a line to a file. -/
def emitLine (file : Text) (line : Line) : Edit Unit := do
  let mark := (← get).mark
  emit file (if line.ended then line.text ++ [mark] else line.text) line.ended

/-- Prints the current line. -/
def printCurrent : Edit Unit := do
  emitLine printed (← get).current

/-- Prints what waits for the end of a cycle. -/
def flush : Edit Unit := do
  for piece in (← get).queue.reverse do emit printed piece true
  modify fun session => { session with queue := [] }

/-- Whether the current line is the last one. -/
def isLast (session : Session) : Bool :=
  session.input.isEmpty

/-- Reads the next line, if there is one. -/
def read? : Edit (Option Line) := do
  flush
  let session ← get
  match session.input with
  | [] => return none
  | line :: rest =>
    set { session with input := rest, number := session.number + 1, made := false }
    return some line

/-- The expression to search for. -/
def expression (search : Search) : Edit (Option Regex) := do
  modify fun session => { session with regex := search.regex.or session.regex }
  return (← get).regex

/-- Whether a search finds something in the current line. -/
def finds (search : Search) : Edit Bool := do
  let regex ← expression search
  let text := (← get).current.text
  return regex.any (·.isIn search.manner text)

/-- Whether an address is that of the current line. -/
def isAt (address : Address) : Edit Bool := do
  let session ← get
  match address with
  | .line number => return session.number = number
  | .last => return session.isLast
  | .search search => finds search
  | .every first step =>
    return if step = 0 then session.number = first
      else first ≤ session.number && (session.number - first) % step = 0

/-- Remembers or forgets that the input is in the lines of a command. -/
def setRange (place : Nat) (range : Option (Option Nat)) : Edit Unit :=
  modify fun session =>
    let others := session.ranges.filter (·.1 != place)
    { session with ranges := match range with
      | some stop => (place, stop) :: others
      | none => others }

/-- Begins the lines of a command, unless they are one line only. -/
def beginRange (place : Nat) (until_ : Until) : Edit Unit := do
  let session ← get
  let toLine (stop : Nat) : Edit Unit :=
    if session.number < stop then setRange place (some (some stop)) else return
  match until_ with
  | .address (.line stop) => toLine stop
  | .address .last => if session.isLast then return else setRange place (some none)
  | .address _ => setRange place (some none)
  | .further count => toLine (session.number + count)
  | .multiple factor =>
    if factor = 0 then return
    else toLine ((session.number / factor + 1) * factor)

/-- Whether the current line is one that addresses select. -/
def inRange (place : Nat) (first : Address) (until_ : Until) : Edit Bool := do
  let session ← get
  match session.ranges.lookup place with
  | some (some stop) =>
    if stop ≤ session.number then setRange place none
    return session.number ≤ stop
  | some none =>
    let ended ← match until_ with
      | .address address => isAt address
      | _ => pure true
    if ended then setRange place none
    return true
  | none =>
    if ← isAt first then
      beginRange place until_
      return true
    else return false

/-- Whether a command is for the current line. -/
def isSelected (place : Nat) (selection : Selection) : Edit Bool := do
  let found ← match selection.first, selection.until_ with
    | none, _ => pure true
    | some first, none => isAt first
    | some first, some until_ => inRange place first until_
  return found != selection.negated

end Session

/-- A character in upper or in lower case. -/
def Casing.apply (casing : Casing) (char : Char) : Char :=
  match casing with
  | keep => char
  | upper => char.toUpper
  | lower => char.toLower

/-- A text in a case, with a case of its own for the first character. -/
def recase (casing next : Casing) : Text → Text
  | [] => []
  | char :: rest => (if next = .keep then casing else next).apply char :: rest.map casing.apply

/-- The replacement of a match. -/
def replacement (found : Regex.Found) (casing next : Casing) : List Part → Text
  | [] => []
  | .casing casing :: rest => replacement found casing .keep rest
  | .next next :: rest => replacement found casing next rest
  | .text text :: rest => recase casing next text ++ replacement found casing .keep rest
  | .group index :: rest =>
    let text := found.group index
    recase casing next text ++
      replacement found casing (if text.isEmpty then next else .keep) rest

/-- A text from a position on with matches replaced. -/
def replaced (parts : List Part) (position : Nat) (rest : Text) : List Regex.Found → Text
  | [] => rest
  | found :: others =>
    rest.take (found.start - position) ++ replacement found .keep .keep parts ++
      replaced parts found.stop (rest.drop (found.stop - position)) others

/-- The form in which a character is shown. -/
def shown (char : Char) : Text :=
  let letters : List (Char × Char) := [('\\', '\\'), ('\x07', 'a'), ('\x08', 'b'), ('\x0c', 'f'),
    ('\n', 'n'), ('\r', 'r'), ('\t', 't'), ('\x0b', 'v')]
  match letters.lookup char with
  | some letter => ['\\', letter]
  | none =>
    if ' ' ≤ char && char ≤ '~' then [char]
    else '\\' :: Text.padZeros 3 (Nat.toDigits 8 char.toNat)

/-- Forms of characters on lines that are not wider than asked for; no width means no limit. -/
def wrapped (width used : Nat) : List Text → Text
  | [] => ['$']
  | form :: rest =>
    if 1 < width && width - 1 < used + form.length then
      '\\' :: '\n' :: form ++ wrapped width form.length rest
    else form ++ wrapped width (used + form.length) rest

namespace Session

/-- Makes a substitution in the current line. -/
def substitute (substitution : Substitution) : Edit Unit := do
  let regex ← expression substitution.search
  let session ← get
  let text := session.current.text
  let found := (regex.map fun regex => regex.allMatches substitution.search.manner text).getD []
  let meant := found.drop (substitution.number - 1)
  let meant := if substitution.all then meant else meant.take 1
  unless meant.isEmpty do
    let current := { session.current with text := replaced substitution.parts 0 text meant }
    set { session with current, made := true }
    if substitution.prints then printCurrent
    if let some file := substitution.file then emitLine file current

/-- Changes the text of the current line. -/
def changeCurrent (change : Session → Text) : Edit Unit :=
  modify fun session => { session with current := { session.current with text := change session } }

/-- The current line up to its first line feed. -/
def firstLine (session : Session) : Text :=
  session.current.text.takeWhile (· != session.mark)

/-- Carries out a command at a place; gives the place of the next command, or how the cycle
ends. -/
def perform (place : Nat) (action : Action) : Edit (Except Ending Nat) := do
  let session ← get
  let goOn : Except Ending Nat := .ok (place + 1)
  match action with
  | .nothing => return goOn
  | .block _ => return goOn
  | .append text =>
    set { session with queue := text :: session.queue }
    return goOn
  | .insert text =>
    emit printed text true
    return goOn
  | .change text =>
    if (session.ranges.lookup place).isNone then emit printed text true
    return .error .deleted
  | .jump target => return .ok target
  | .jumpIf made target =>
    set { session with made := false }
    return .ok (if session.made = made then target else place + 1)
  | .delete => return .error .deleted
  | .deleteLine =>
    if List.elem session.mark session.current.text then
      changeCurrent fun session => session.current.text.drop (session.firstLine.length + 1)
      return .error .again
    else return .error .deleted
  | .print =>
    printCurrent
    return goOn
  | .printLine =>
    emitLine printed ⟨session.firstLine, true⟩
    return goOn
  | .show width =>
    let text := wrapped (width.getD session.width) 0 (session.current.text.map shown)
    emitLine printed ⟨text, true⟩
    return goOn
  | .lineNumber =>
    emit printed (Text.ofNat session.number ++ ['\n']) true
    return goOn
  | .fileName =>
    emit printed (session.name ++ ['\n']) true
    return goOn
  | .fetch append =>
    changeCurrent fun session =>
      if append then session.current.text ++ session.mark :: session.held else session.held
    return goOn
  | .hold append =>
    set { session with held := if append then session.held ++ session.mark :: session.current.text
      else session.current.text }
    return goOn
  | .exchange =>
    set { session with held := session.current.text }
    changeCurrent fun _ => session.held
    return goOn
  | .next =>
    if session.input.isEmpty then
      unless session.silent do printCurrent
      return .error (.quit 0)
    unless session.silent do printCurrent
    if let some current ← read? then modify fun session => { session with current }
    return goOn
  | .nextAppended =>
    if session.input.isEmpty then
      unless session.silent do printCurrent
      return .error (.quit 0)
    if let some line ← read? then
      modify fun session =>
        { session with
          current := ⟨session.current.text ++ session.mark :: line.text, line.ended⟩ }
    return goOn
  | .quit status silent =>
    unless silent do
      unless session.silent do printCurrent
      flush
    return .error (.quit status)
  | .read file =>
    if let some text := session.contents file then
      set { session with queue := text :: session.queue }
    return goOn
  | .readLine file =>
    let lines := (session.sources.get? file).getD
      (((session.contents file).map (linesOf session.mark)).getD [])
    if let line :: rest := lines then
      set { session with
        queue := (line.text ++ [session.mark]) :: session.queue
        sources := session.sources.put file rest }
    return goOn
  | .substitute found =>
    substitute found
    return goOn
  | .translate pairs =>
    changeCurrent fun session =>
      session.current.text.map fun char => (pairs.lookup char).getD char
    return goOn
  | .write file lineOnly =>
    emitLine file (if lineOnly then ⟨session.firstLine, true⟩ else session.current)
    return goOn
  | .clear =>
    changeCurrent fun _ => []
    return goOn

/-- Runs the commands of a script from a place on. Each costs one of the fuel; gives how the cycle
ends, if it does, and the fuel that is left. -/
def cycle (script : Script) : (fuel : Nat) → (place : Nat) → Edit (Option (Ending × Nat))
  | 0, _ => return none
  | fuel + 1, place => do
    match script[place]? with
    | none => return some (.done, fuel)
    | some command =>
      if ← isSelected place command.selection then
        match ← perform place command.action with
        | .ok next => cycle script fuel next
        | .error ending => return some (ending, fuel)
      else
        match command.action with
        | .block stop => cycle script fuel stop
        | _ => cycle script fuel (place + 1)

/-- Runs a script for all lines; gives the status, unless that takes too long. Each cycle costs one
of the rounds and one of the fuel for itself, and fuel for its commands. -/
def run (script : Script) : (rounds : Nat) → (fuel : Nat) → (again : Bool) → Edit (Option Nat)
  | 0, _, _ => return none
  | _, 0, _ => return none
  | rounds + 1, fuel + 1, again => do
    unless again do
      match ← read? with
      | none => return some 0
      | some current => modify fun session => { session with current }
    match ← cycle script fuel 0 with
    | none => return none
    | some (ending, left) =>
      match ending with
      | .done =>
        unless (← get).silent do printCurrent
        run script rounds left false
      | .deleted => run script rounds left false
      | .again =>
        flush
        run script rounds left true
      | .quit status =>
        flush
        return some status

end Session

/-- How many commands are run before the time is taken to be up. -/
def patience : Nat := 200000

/-- The files that a script writes to. -/
def outputFiles (script : Script) : List Text :=
  let named := script.toList.filterMap fun command => match command.action with
    | .write file _ => some file
    | .substitute found => found.file
    | _ => none
  named.filter (· != "/dev/stdout".toList)

/-- The usage of the editor. -/
def usage : Usage :=
  { name := "sed", plain := "nErsuz", valued := "efl", optional := "i", long := [
      ("quiet", 'n'), ("silent", 'n'), ("regexp-extended", 'E'), ("expression", 'e'),
      ("file", 'f'), ("line-length", 'l'), ("in-place", 'i'), ("separate", 's'),
      ("unbuffered", 'u'), ("null-data", 'z'), ("zero-terminated", 'z')] }

/-- A part of a script: its text, and where it comes from if that is a file. -/
abbrev Source := Text × Option Text

/-- Where a fault is, in words. -/
def whereabouts (sources : List Source) (index taken : Nat) : Text :=
  match sources with
  | [] => []
  | [(text, file)] => describe index taken text file
  | (text, file) :: rest =>
    if taken ≤ text.length then describe index taken text file
    else whereabouts rest (if file.isNone then index + 1 else index) (taken - text.length - 1)
where
  /-- The place in one source. -/
  describe (index taken : Nat) (text : Text) (file : Option Text) : Text :=
    match file with
    | none => "-e expression #".toList ++ Text.ofNat index ++ ", char ".toList ++
        Text.ofNat taken ++ ": ".toList
    | some file =>
      let line := (text.take (taken - 1)).count '\n' + 1
      "file ".toList ++ file ++ " line ".toList ++ Text.ofNat line ++ ": ".toList

/-- The texts of files that can be read, with their names. -/
def readable (files : List Text) : Work (List (Text × Text) × Nat) := do
  let mut found := []
  let mut status := 0
  for file in files do
    match ← Filter.read file with
    | .ok text => found := found ++ [(file, text)]
    | .error .isFolder =>
      Filter.complain "sed" ("couldn't read ".toList ++ file ++ ": Is a directory".toList)
      status := 2
    | .error fault =>
      Filter.complain "sed" ("can't read ".toList ++ file ++ ": ".toList ++ Filter.wording fault)
      status := 2
  return (found, status)

/-- Writes a text to a file in place of what it held. -/
def store (file text : Text) : Work Unit := do
  let state ← get
  match state.disk.openEmpty (Bytes.decode file) with
  | .ok (location, disk) => set { state with disk := State.appendTo disk location text }
  | .error fault =>
    Filter.complain "sed" ("couldn't open file ".toList ++ file ++ ": ".toList ++
      Filter.wording fault)

/-- What has been written to a file. -/
def Session.written (session : Session) (file : Text) : Text :=
  ((session.outputs.get? file).getD []).reverse.flatten

/-- Edits texts together, or each on its own. In place, what is printed becomes their content. -/
def edit (given : Given) (script : Script) (silent : Bool) (files : List (Text × Text)) :
    Work Nat := do
  let state ← get
  let mark := if given.has 'z' then '\x00' else '\n'
  let inPlace := given.has 'i'
  let lines := files.map fun (name, text) => (name, text, linesOf mark text)
  let groups := if inPlace || given.has 's' then lines else
    [((lines.head?.map Prod.fst).getD ['-'], [], lines.flatMap fun (_, _, lines) => lines)]
  let isZero (selection : Selection) : Bool := match selection.first with
    | some (.line 0) => true
    | _ => false
  let ranges := script.toList.zipIdx.filterMap fun (command, place) =>
    if isZero command.selection then some (place, none) else none
  let mut outputs : Sheet Text (List Text) := Sheet.ofPairs ((outputFiles script).map (·, []))
  let mut status := 0
  let mut held := []
  let mut gaps := []
  for (name, text, input) in groups do
    let start : Session := {
      silent, mark, input, name, ranges, held, outputs, gaps
      width := ((given.value? 'l').bind Text.natural?).getD 70
      contents := state.fileBytes? }
    let (ended, session) := (Session.run script patience patience false).run start
    outputs := session.outputs
    held := session.held
    gaps := session.gaps
    if inPlace then
      if let some suffix := given.value? 'i' then
        unless suffix.isEmpty do store (name ++ suffix) text
      store name (session.written Session.printed)
      outputs := outputs.erase Session.printed
      gaps := gaps.filter (· != Session.printed)
    match ended with
    | none => State.stop .late
    | some quit => if status = 0 then status := quit
  for (file, pieces) in outputs.entries do
    let text := pieces.reverse.flatten
    if file = Session.printed then State.print text
    else if file = "/dev/stderr".toList then State.writeTo State.errorDescriptor text
    else store file text
  return status

/-- Edits its input or files with a script. -/
def program : Utility := usage.program fun given => do
  let state ← get
  let scripted := given.options.filter fun (letter, _) => letter = 'e' || letter = 'f'
  let sources? : List (Option Source) := scripted.map fun (letter, value) =>
    if letter = 'e' then some (value, none)
    else (state.fileBytes? value).map fun text =>
      (if text.getLast? = some '\n' then text.dropLast else text, some value)
  let (sources, files) := match sources?, given.operands with
    | [], script :: files => ([some (script, none)], files)
    | sources, files => (sources, files)
  match sources.mapM id with
  | none =>
    Filter.complain "sed" "couldn't open file: No such file or directory".toList
    return 1
  | some [] =>
    State.complain "Usage: sed [OPTION]... \x7bscript-only-if-no-other-script\x7d [input-file]...".toList
    return 1
  | some sources =>
    let text := Text.join ['\n'] (sources.map Prod.fst)
    let extended := given.has 'E' || given.has 'r'
    match Script.read? extended text with
    | .error fault =>
      let place := (fault.taken.map (whereabouts sources 1)).getD []
      Filter.complain "sed" (place ++ fault.message)
      return if fault.taken.isNone then 4 else 1
    | .ok script =>
      let isQuiet := text = "#n".toList || Text.startsWith text "#n\n".toList
      let (found, missing) ← readable (if files.isEmpty then [['-']] else files)
      let status ← edit given script (given.has 'n' || isQuiet) found
      return if status = 0 then missing else status

end Docket.Shell.Sed
