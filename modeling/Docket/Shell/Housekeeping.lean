import Docket.Shell.Glob
import Docket.Shell.Usage

/-! Housekeeping: the parts of paths, and programs that make and remove files and folders, also
ones with names that nothing else has. -/

namespace Docket.Shell.PathParts

/-- A path without slashes at its end. -/
def trimmed (path : Text) : Text :=
  (path.reverse.dropWhile (· == '/')).reverse

/-- The last name of a path; the root has itself. -/
def lastName (path : Text) : Text :=
  let found := trimmed path
  if found.isEmpty then path.take 1 else (found.reverse.takeWhile (· != '/')).reverse

/-- A name without an ending, unless there is nothing else. -/
def withoutEnding (ending name : Text) : Text :=
  if Text.endsWith name ending && name != ending then name.take (name.length - ending.length)
  else name

/-- Prints the last names of paths, without an ending. -/
def basename : Utility :=
  let usage : Usage :=
    { name := "basename", plain := "az", valued := "s", strict := true
      long := [("multiple", 'a'), ("suffix", 's'), ("zero", 'z')] }
  usage.program fun given => do
    let mark := if given.has 'z' then '\x00' else '\n'
    let shown (ending path : Text) : Work Nat := do
      State.print (withoutEnding ending (lastName path) ++ [mark])
      return 0
    if given.operands.isEmpty then usage.refuse "missing operand".toList
    else if given.has 'a' || given.has 's' then
      for path in given.operands do
        let _ ← shown ((given.value? 's').getD []) path
      return 0
    else match given.operands with
      | [path] => shown [] path
      | [path, ending] => shown ending path
      | operands =>
        usage.refuse ("extra operand '".toList ++ (operands[2]?).getD [] ++ ['\''])

/-- A path without its last name. -/
def folderOf (path : Text) : Text :=
  let before := ((trimmed path).reverse.dropWhile (· != '/')).dropWhile (· == '/')
  if !before.isEmpty then before.reverse
  else if path.head? == some '/' then ['/'] else ['.']

/-- Prints paths without their last names. -/
def dirname : Utility :=
  let usage : Usage := { name := "dirname", plain := "z", long := [("zero", 'z')] }
  usage.program fun given => do
    let mark := if given.has 'z' then '\x00' else '\n'
    if given.operands.isEmpty then usage.refuse "missing operand".toList
    else
      State.print (given.operands.flatMap fun path => folderOf path ++ [mark])
      return 0

end Docket.Shell.PathParts

namespace Docket.Shell.Housekeeping

open Docket.Shell.Filter (complain wording)

/-- A text between quotes. -/
def quote (text : Text) : Text :=
  '\'' :: text ++ ['\'']

/-- Complains about a path. -/
def blame (name lead : String) (path reason : Text) : Work Unit :=
  complain name (lead.toList ++ ' ' :: quote path ++ ": ".toList ++ reason)

/-- Works on each path; tells whether anything went wrong. -/
def onEach (usage : Usage) (missing : String) (paths : List Text) (work : Text → Work Bool) :
    Work Nat := do
  if paths.isEmpty then usage.refuse missing.toList
  else
    let mut status := 0
    for path in paths do
      unless ← work path do status := 1
    return status

/-- Changes the disk, or complains about a path. -/
def change (name lead : String) (path : Text) (work : Text → Disk → Except PathFault Disk) :
    Work Bool := do
  let state ← get
  match work (Bytes.decode path) state.disk with
  | .ok disk =>
    set { state with disk }
    return true
  | .error fault =>
    blame name lead path (wording fault)
    return false

/-- The paths on the way to a path, each inside the one before. -/
def lineage (path : Text) : List Text :=
  (path.zipIdx.filterMap fun (char, index) =>
    if char = '/' && 0 < index then some (path.take index) else none) ++
      if path.getLast? = some '/' then [] else [path]

/-- Makes folders. -/
def mkdir : Utility :=
  let usage : Usage :=
    { name := "mkdir", plain := "pv", valued := "m"
      long := [("mode", 'm'), ("parents", 'p'), ("verbose", 'v')] }
  usage.program fun given =>
    let make (path : Text) : Work Bool := do
      let made ← change "mkdir" "cannot create directory" path fun path disk =>
        disk.makeFolder path
      if made && given.has 'v' then
        State.print ("mkdir: created directory ".toList ++ quote path ++ ['\n'])
      return made
    onEach usage "missing operand" given.operands fun path => do
      if !given.has 'p' || path.isEmpty then make path
      else
        let mut fine := true
        for part in lineage path do
          if fine then
            let disk := (← get).disk
            unless disk.isFolder (Bytes.decode part) do
              match disk.find (Bytes.decode part) with
              | .ok _ =>
                let reason := if part = path then PathFault.present else .notFolder
                blame "mkdir" "cannot create directory" part (wording reason)
                fine := false
              | .error _ => fine := ← make part
        return fine

/-- Whether a folder has nothing in it. -/
def isEmpty (disk : Disk) (location : Location) : Bool :=
  disk.entries.keys.all fun other => other.dropLast != location || other.isEmpty

/-- Whether a path ends in a name that stands for a folder by its position only. -/
def endsInDots (path : Text) : Bool :=
  (Disk.namesIn path).getLast?.any Disk.isDots

/-- Removes empty folders. -/
def rmdir : Utility :=
  let usage : Usage :=
    { name := "rmdir", plain := "pvι"
      long := [("ignore-fail-on-non-empty", 'ι'), ("parents", 'p'), ("verbose", 'v')] }
  usage.program fun given =>
    let remove (path : Text) : Work Bool := do
      if given.has 'v' then
        State.print ("rmdir: removing directory, ".toList ++ quote path ++ ['\n'])
      let state ← get
      let refuse (reason : Text) : Work Bool := do
        blame "rmdir" "failed to remove" path reason
        return false
      match state.disk.find (Bytes.decode path) with
      | .error fault => refuse (wording fault)
      | .ok (_, .file ..) => refuse "Not a directory".toList
      | .ok (location, .folder) =>
        if (Disk.namesIn path).getLast? = some ['.'] then refuse "Invalid argument".toList
        else if isEmpty state.disk location then
          set { state with disk := state.disk.removeAll location }
          return true
        else if given.has 'ι' then return true
        else refuse "Directory not empty".toList
    onEach usage "missing operand" given.operands fun path => do
      if !given.has 'p' then remove path
      else
        let mut fine := true
        for part in (lineage path).reverse do
          if fine then fine := ← remove part
        return fine

/-- The answer to a question: whether it begins like a yes. -/
def asks (question : Text) : Work Bool := do
  State.writeTo State.errorDescriptor (question ++ [' '])
  let (line, _) ← State.readLine State.inputDescriptor
  return "yY".toList.any (some · = line.head?)

/-- The paths of what lies in a folder, in order. -/
def inside (disk : Disk) (path : Text) : List Text :=
  let lead := if path.getLast? = some '/' then path else path ++ ['/']
  (Glob.namesIn disk path).map (lead ++ ·)

/-- Removes a path, and with it all that lies in it. Each level costs one of `fuel`. -/
def removeTree (given : Given) (fuel : Nat) (path : Text) : Work Bool := do
  let state ← get
  let shown (text : Text) : Work Unit :=
    if given.has 'v' then State.print (text ++ quote path ++ ['\n']) else return
  match fuel, state.disk.find (Bytes.decode path) with
  | fuel + 1, .ok (location, .folder) =>
    let names := inside state.disk path
    if given.has 'i' && !names.isEmpty then
      unless ← asks ("rm: descend into directory ".toList ++ quote path ++ ['?']) do return true
    let mut fine := true
    for name in names do
      unless ← removeTree given fuel name do fine := false
    if given.has 'i' then
      unless ← asks ("rm: remove directory ".toList ++ quote path ++ ['?']) do return true
    let state ← get
    unless isEmpty state.disk location do return fine
    set { state with disk := state.disk.removeAll location }
    shown "removed directory ".toList
    return fine
  | _, .ok (location, entry) =>
    if given.has 'i' then
      let kind := match entry with
        | .file content _ => if content.size = 0 then "regular empty file " else "regular file "
        | .folder => "directory "
      unless ← asks ("rm: remove ".toList ++ kind.toList ++ quote path ++ ['?']) do return true
    modify fun state => { state with disk := state.disk.removeAll location }
    shown "removed ".toList
    return true
  | _, .error _ => return true

/-- Removes files, and folders with all in them. -/
def rm : Utility :=
  let usage : Usage :=
    { name := "rm", plain := "dfiIrRvπν"
      long := [("dir", 'd'), ("force", 'f'), ("interactive", 'i'), ("recursive", 'r'),
        ("verbose", 'v'), ("no-preserve-root", 'ν'), ("preserve-root", 'π')] }
  usage.program fun given => do
    let force := given.has 'f'
    let recurses := given.has 'r' || given.has 'R'
    let refuse (path reason : Text) : Work Bool := do
      blame "rm" "cannot remove" path reason
      return false
    if force && given.operands.isEmpty then return 0
    onEach usage "missing operand" given.operands fun path => do
      let state ← get
      match state.disk.find (Bytes.decode path) with
      | .error fault =>
        if force && (fault = .missing || fault = .notFolder) then return true
        else refuse path (wording fault)
      | .ok (location, .folder) =>
        if !recurses && !given.has 'd' then refuse path "Is a directory".toList
        else if endsInDots path then
          complain "rm" ("refusing to remove '.' or '..' directory: skipping ".toList ++
            quote path)
          return false
        else if location.isEmpty then
          complain "rm" "it is dangerous to operate recursively on '/'".toList
          complain "rm" "use --no-preserve-root to override this failsafe".toList
          return false
        else if recurses || isEmpty state.disk location then
          removeTree given 1000 path
        else refuse path "Directory not empty".toList
      | .ok _ => removeTree given 1000 path

/-- Makes files that are missing. -/
def touch : Utility :=
  let usage : Usage :=
    { name := "touch", plain := "acfhm", valued := "drtτ"
      long := [("no-create", 'c'), ("date", 'd'), ("no-dereference", 'h'), ("reference", 'r'),
        ("time", 'τ')] }
  usage.program fun given => do
    if let some path := given.value? 'r' then
      unless (← get).disk.has (Bytes.decode path) do
        blame "touch" "failed to get attributes of" path "No such file or directory".toList
        return 1
    onEach usage "missing file operand" given.operands fun path =>
      if path = ['-'] then return true
      else change "touch" "cannot touch" path fun path disk =>
        if disk.has path then .ok disk
        else if given.has 'c' then .ok disk
        else if Disk.wantsFolder path then .error .missing
        else (disk.openEmpty path).map Prod.snd

/-- Prints its input, and writes it to files too. -/
def tee : Utility :=
  let usage : Usage :=
    { name := "tee", plain := "aip", optional := "ο"
      long := [("append", 'a'), ("ignore-interrupts", 'i'), ("output-error", 'ο')] }
  usage.program fun given => do
    let text ← State.readAll State.inputDescriptor
    State.print text
    let mut status := 0
    for path in given.operands do
      let state ← get
      match String.ofList path with
      | "/dev/null" => pure ()
      | "/dev/stderr" => State.writeTo State.errorDescriptor text
      | "/dev/stdout" => State.print text
      | _ =>
        match state.disk.openEmpty (Bytes.decode path) with
        | .error fault =>
          complain "tee" (path ++ ": ".toList ++ wording fault)
          status := 1
        | .ok (location, empty) =>
          let disk := if given.has 'a' && state.disk.has (Bytes.decode path) then state.disk
            else empty
          set { state with disk := State.appendTo disk location text }
    return status

/-- Prints the working folder. -/
def pwd : Utility :=
  let usage : Usage :=
    { name := "pwd", plain := "LP", long := [("logical", 'L'), ("physical", 'P')] }
  usage.program fun _ => do
    State.print ((← get).homePath ++ ['\n'])
    return 0

end Docket.Shell.Housekeeping

namespace Docket.Shell.Temporary

open Docket.Shell.Housekeeping (quote)

/-- A number in so many letters. -/
def letters : Nat → Nat → Text
  | 0, _ => []
  | width + 1, value =>
    letters width (value / 26) ++ ["abcdefghijklmnopqrstuvwxyz".toList.getD (value % 26) 'a']

/-- The folder of such files. -/
def folder : Text := "/tmp".toList

/-- The options of the program. -/
def usage : Usage where
  name := "mktemp"
  plain := "dqut"
  valued := "pσ"
  optional := "τ"
  long := [("directory", 'd'), ("quiet", 'q'), ("dry-run", 'u'), ("suffix", 'σ'),
    ("tmpdir", 'τ')]

/-- Makes a file or a folder with a new name. -/
def program : Utility := usage.program fun given => do
  match given.operands with
  | _ :: _ :: _ => usage.refuse "too many templates".toList
  | operands =>
    let template := operands.headD "tmp.XXXXXXXXXX".toList
    let ending := (given.value? 'σ').getD []
    let gaps := (template.reverse.takeWhile (· == 'X')).length
    let behind := if given.has 'σ' then [] else
      ((template.reverse.takeWhile (· != 'X')).takeWhile (· != '/')).reverse
    let gaps := if behind.isEmpty then gaps
      else ((template.reverse.drop behind.length).takeWhile (· == 'X')).length
    let lead := template.take (template.length - behind.length - gaps)
    if gaps < 3 then
      Filter.complain "mktemp" ("too few X's in template ".toList ++ quote template)
      return 1
    let state ← get
    let home := ((state.valueOf? "TMPDIR".toList).filter (!·.isEmpty)).getD folder
    let inFolder : Option Text :=
      match given.value? 'p', given.value? 'τ' with
      | some path, _ => some (if path.isEmpty then home else path)
      | none, some path => some (if path.isEmpty then home else path)
      | none, none => if operands.isEmpty || given.has 't' then some home else none
    let front := match inFolder with
      | some path => path ++ '/' :: lead
      | none => lead
    let named (index : Nat) : Text := front ++ letters gaps index ++ behind ++ ending
    let index := ((List.range 1000).find? fun index =>
      !state.disk.has (Bytes.decode (named index))).getD 0
    let path := named index
    let shown := front ++ List.replicate gaps 'X' ++ behind ++ ending
    let made : Except PathFault Disk :=
      if given.has 'u' then .ok state.disk
      else if given.has 'd' then state.disk.makeFolder (Bytes.decode path)
      else (state.disk.openEmpty (Bytes.decode path)).map Prod.snd
    match made with
    | .ok disk =>
      set { state with disk }
      State.print (path ++ ['\n'])
      return 0
    | .error fault =>
      unless given.has 'q' do
        let kind := if given.has 'd' then "directory" else "file"
        Filter.complain "mktemp" ("failed to create ".toList ++ kind.toList ++
          " via template ".toList ++ quote shown ++ ": ".toList ++ Filter.wording fault)
      return 1

end Docket.Shell.Temporary
