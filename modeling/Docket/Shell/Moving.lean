import Docket.Shell.Housekeeping

/-! Copying and moving files and folders. -/

namespace Docket.Shell.Moving

open Docket.Shell.Housekeeping (quote asks inside isEmpty)
open Docket.Shell.Filter (complain wording)

/-- What is done with files. -/
structure Job where
  name : String
  moves : Bool
  given : Given

namespace Job

/-- Whether an option was given. -/
def has (job : Job) (letter : Char) : Bool :=
  job.given.has letter

/-- Complains, and fails. -/
def refuse (job : Job) (message : Text) : Work Bool := do
  complain job.name message
  return false

/-- Whether folders are handled with all in them. -/
def recurses (job : Job) : Bool :=
  job.moves || job.has 'r' || job.has 'R' || job.has 'a'

/-- Tells what has been done. -/
def tell (job : Job) (source target : Text) : Work Unit :=
  if job.has 'v' then
    State.print ((if job.moves then "renamed " else "").toList ++ quote source ++
      " -> ".toList ++ quote target ++ ['\n'])
  else return

/-- The name under which what is in the way is kept. -/
def spare (job : Job) (disk : Disk) (path : Text) : Text :=
  let method := (job.given.value? 'β').getD []
  let numbered (index : Nat) : Text := path ++ ".~".toList ++ Text.ofNat index ++ ['~']
  if method = "numbered".toList || method = ['t'] then
    numbered (((List.range 1000).find? fun index =>
      !disk.has (Bytes.decode (numbered (index + 1)))).getD 0 + 1)
  else path ++ (job.given.value? 'S').getD ['~']

/-- Puts a file in its place; a file that is in the way may be kept under another name. -/
def place (job : Job) (source target : Text) (entry : Entry) : Work Bool := do
  let state ← get
  let there := state.disk.find (Bytes.decode target)
  if job.has 'b' || job.given.has 'β' then
    if let .ok (location, old) := there then
      match state.disk.openEmpty (Bytes.decode (job.spare state.disk target)) with
      | .ok (spare, disk) =>
        set { state with disk := (disk.putEntry spare old).eraseEntry location }
      | .error _ => pure ()
  let state ← get
  match state.disk.openEmpty (Bytes.decode target) with
  | .ok (location, disk) =>
    let entry := match entry, disk.entry? location, there with
      | .file content executable, some (.file _ old), .ok _ =>
        Entry.file content (if job.moves || job.has 'p' || job.has 'a' then executable else old)
      | entry, _, _ => entry
    set { state with disk := disk.putEntry location entry }
    job.tell source target
    return true
  | .error fault =>
    let fault := if Disk.wantsFolder target then PathFault.notFolder else fault
    if job.moves then
      job.refuse ("cannot move ".toList ++ quote source ++ " to ".toList ++ quote target ++
        ": ".toList ++ wording fault)
    else
      job.refuse ("cannot create regular file ".toList ++ quote target ++ ": ".toList ++
        wording fault)

/-- Whether a file that is in the way may be replaced. -/
def mayReplace (job : Job) (target : Text) : Work (Option Bool) := do
  if job.has 'n' || job.has 'u' then return some false
  else if job.has 'i' && !job.has 'f' then
    if ← asks (job.name.toList ++ ": overwrite ".toList ++ quote target ++ ['?']) then
      return some true
    else return none
  else return some true

/-- Brings one thing to its place, with all in it. Each level costs one of `fuel`. -/
def bring (job : Job) (fuel : Nat) (source target : Text) : Work Bool := do
  let state ← get
  let disk := state.disk
  match fuel, disk.find (Bytes.decode source), disk.find (Bytes.decode target) with
  | _, .error fault, _ =>
    job.refuse ("cannot stat ".toList ++ quote source ++ ": ".toList ++ wording fault)
  | 0, _, _ => return true
  | fuel + 1, .ok (origin, .folder), found =>
    if !job.recurses then
      return ← job.refuse ("-r not specified; omitting directory ".toList ++ quote source)
    if let .ok (_, .file ..) := found then
      return ← job.refuse ("cannot overwrite non-directory ".toList ++ quote target ++
        " with directory ".toList ++ quote source)
    let goal? := match found with
      | .ok (location, _) => some location
      | .error _ => ((disk.place (Bytes.decode target)).toOption).map fun (folder, last) =>
        folder ++ [last]
    if job.moves && Housekeeping.endsInDots source then
      return ← job.refuse ("cannot move ".toList ++ quote source ++ " to ".toList ++
        quote target ++ ": Device or resource busy".toList)
    if goal?.any origin.isPrefixOf && !(Disk.namesIn source).getLast?.any Disk.isDots then
      return ← job.refuse (if job.moves then
          "cannot move ".toList ++ quote source ++ " to a subdirectory of itself, ".toList ++
            quote target
        else
          "cannot copy a directory, ".toList ++ quote source ++ ", into itself, ".toList ++
            quote target)
    let isNew := !found.isOk
    if job.moves then
      if let .ok (location, _) := found then
        unless isEmpty disk location do
          return ← job.refuse ("cannot move ".toList ++ quote source ++ " to ".toList ++
            quote target ++ ": Directory not empty".toList)
    let made := if isNew then disk.makeFolder (Bytes.decode target) else .ok disk
    match made with
    | .error fault =>
      if job.moves then
        job.refuse ("cannot move ".toList ++ quote source ++ " to ".toList ++ quote target ++
          ": ".toList ++ wording fault)
      else
        job.refuse ("cannot create directory ".toList ++ quote target ++ ": ".toList ++
          wording fault)
    | .ok disk =>
      set { state with disk }
      if isNew then job.tell source target
      let quiet : Job := if job.moves then { job with given := {} } else job
      let mut fine := true
      for path in inside state.disk source do
        -- A copy of a folder into itself does not copy what it has just made.
        let own := ((state.disk.find (Bytes.decode path)).toOption).map Prod.fst
        unless own.isSome && own = goal? do
          let last := PathParts.lastName path
          let lead := if target.getLast? = some '/' then target else target ++ ['/']
          unless ← quiet.bring fuel path (lead ++ last) do fine := false
      if job.moves then
        modify fun state => { state with disk := state.disk.removeAll origin }
      return fine
  | _ + 1, .ok (origin, entry), .ok (location, .file ..) =>
    if origin = location then
      return ← job.refuse (quote source ++ " and ".toList ++ quote target ++
        " are the same file".toList)
    match ← job.mayReplace target with
    | none => return job.moves
    | some false => return true
    | some true =>
      let fine ← job.place source target entry
      if fine && job.moves then
        modify fun state => { state with disk := state.disk.eraseEntry origin }
      return fine
  | _ + 1, .ok _, .ok (_, .folder) =>
    job.refuse ("cannot overwrite directory ".toList ++ quote target ++
      " with non-directory".toList)
  | _ + 1, .ok (origin, entry), .error _ =>
    let fine ← job.place source target entry
    if fine && job.moves then
      modify fun state => { state with disk := state.disk.eraseEntry origin }
    return fine

/-- Brings things into a folder. -/
def into (job : Job) (folder : Text) (sources : List Text) : Work Nat := do
  let mut status := 0
  for source in sources do
    let lead := if folder.getLast? = some '/' then folder else folder ++ ['/']
    unless ← job.bring 1000 source (lead ++ PathParts.lastName source) do status := 1
  return status

/-- Brings things to the target that was named last. -/
def run (job : Job) (usage : Usage) : Work Nat := do
  let disk := (← get).disk
  let isFolder (path : Text) : Bool := disk.isFolder (Bytes.decode path)
  let bringOne (source target : Text) : Work Nat := do
    return if ← job.bring 1000 source target then 0 else 1
  match job.given.value? 't', job.given.operands.reverse with
  | some folder, sources =>
    if sources.isEmpty then usage.refuse "missing file operand".toList
    else if isFolder folder then job.into folder sources.reverse
    else
      complain job.name ("target directory ".toList ++ quote folder ++ ": ".toList ++
        wording (if disk.has (Bytes.decode folder) then .notFolder else .missing))
      return 1
  | none, [] => usage.refuse "missing file operand".toList
  | none, [source] =>
    usage.refuse ("missing destination file operand after ".toList ++ quote source)
  | none, [target, source] =>
    if isFolder target && !job.has 'T' then job.into target [source]
    else bringOne source target
  | none, target :: sources =>
    if job.has 'T' then
      usage.refuse ("extra operand ".toList ++ quote target)
    else if isFolder target then job.into target sources.reverse
    else
      complain job.name ("target ".toList ++ quote target ++ ": ".toList ++
        wording (if disk.has (Bytes.decode target) then .notFolder else .missing))
      return 1

end Job

/-- Copies files. -/
def cp : Utility :=
  let usage : Usage :=
    { name := "cp", plain := "abdfHilLnPprRsTuvxο", valued := "tS", optional := "β"
      long := [("archive", 'a'), ("backup", 'β'), ("force", 'f'), ("interactive", 'i'),
        ("link", 'l'), ("no-clobber", 'n'), ("recursive", 'r'), ("symbolic-link", 's'),
        ("target-directory", 't'), ("no-target-directory", 'T'), ("update", 'u'),
        ("verbose", 'v'), ("preserve", 'ο'), ("suffix", 'S'), ("parents", 'ο')] }
  usage.program fun given => ({ name := "cp", moves := false, given } : Job).run usage

/-- Moves files and folders. -/
def mv : Utility :=
  let usage : Usage :=
    { name := "mv", plain := "bfinTuvZ", valued := "tS", optional := "β"
      long := [("backup", 'β'), ("force", 'f'), ("interactive", 'i'), ("no-clobber", 'n'),
        ("target-directory", 't'), ("no-target-directory", 'T'), ("update", 'u'),
        ("verbose", 'v'), ("suffix", 'S')] }
  usage.program fun given => ({ name := "mv", moves := true, given } : Job).run usage

end Docket.Shell.Moving
