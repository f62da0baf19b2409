import Docket.Shell.Housekeeping

/-! Whether files can be started, and how that is written. -/

namespace Docket.Shell.Permission

open Docket.Shell.Housekeeping (quote)

/-- Permissions as a number: reading, writing and starting for the owner, the group and others. -/
abbrev Mode := Nat

/-- The permissions of an entry. -/
def ofEntry : Entry → Mode
  | .folder => 0o755
  | .file _ true => 0o755
  | .file _ false => 0o644

/-- Whether anybody can start a file with a mode. -/
def starts (mode : Mode) : Bool :=
  mode &&& 0o111 != 0

/-- Permissions as letters. -/
def letters (mode : Mode) : Text :=
  [6, 3, 0].flatMap fun shift =>
    let part := mode >>> shift
    [if part &&& 4 != 0 then 'r' else '-', if part &&& 2 != 0 then 'w' else '-',
      if part &&& 1 != 0 then 'x' else '-']

/-- The bits that letters stand for, for all three at once. -/
def bits? (current : Mode) (isFolder : Bool) (letters : Text) : Option Mode :=
  letters.foldlM (fun found letter =>
    match letter with
    | 'r' => some (found ||| 0o444)
    | 'w' => some (found ||| 0o222)
    | 'x' => some (found ||| 0o111)
    | 'X' => some (if isFolder || starts current then found ||| 0o111 else found)
    | 's' | 't' => some found
    | _ => none) 0

/-- The mode after changes such as `+r`, for those that a mask stands for. Each change costs one of
`fuel`. -/
def changed? (fuel : Nat) (isFolder : Bool) (mask : Mode) (mode : Mode) (text : Text) :
    Option Mode :=
  match fuel, text with
  | _, [] => some mode
  | fuel + 1, sign :: rest =>
    let own := rest.takeWhile fun char => !"+-=".toList.elem char
    match bits? mode isFolder own with
    | none => none
    | some bits =>
      let bits := bits &&& mask
      let next? : Option Mode := match sign with
        | '+' => some (mode ||| bits)
        | '-' => some (mode - (mode &&& bits))
        | '=' => some ((mode - (mode &&& mask)) ||| bits)
        | _ => none
      next?.bind fun next => changed? fuel isFolder mask next (rest.drop own.length)
  | 0, _ => none

/-- The mode that a text makes of another one. -/
def after? (isFolder : Bool) (mode : Mode) (text : Text) : Option Mode :=
  if !text.isEmpty && text.all fun char => '0' ≤ char && char ≤ '7' then
    let value := (Sum.digits? 8 text).getD 0
    if value < 0o10000 then some value else none
  else
    (Filter.cutAt ',' text).foldlM (fun mode clause =>
      let who := clause.takeWhile "ugoa".toList.elem
      let mask := who.foldl (fun mask letter => mask ||| match letter with
        | 'u' => 0o700
        | 'g' => 0o070
        | 'o' => 0o007
        | _ => 0o777) 0
      let changes := clause.drop who.length
      if changes.isEmpty then none
      else if who.isEmpty then
        -- Writing is not granted to others than the owner unless that is said.
        changed? (changes.length + 1) isFolder 0o755 mode changes
      else changed? (changes.length + 1) isFolder mask mode changes) mode

/-- The options of the program. -/
def usage : Usage where
  name := "chmod"
  plain := "Rcfv"
  valued := "ρ"
  long := [("changes", 'c'), ("silent", 'f'), ("quiet", 'f'), ("verbose", 'v'),
    ("recursive", 'R'), ("reference", 'ρ')]

/-- Words in which a mode that begins with a minus sign is no option. -/
def guarded (words : List Text) : List Text :=
  words.flatMap fun word => match word with
    | '-' :: letter :: _ =>
      if "rwxXst".toList.elem letter then [['-', '-'], word] else [word]
    | _ => [word]

/-- The mode as a number with four digits. -/
def digits (mode : Mode) : Text :=
  Text.padZeros 4 (Nat.toDigits 8 mode)

/-- What a path leads to, with all in it if that is wanted. Each level costs one of `fuel`. -/
def tree (disk : Disk) (fuel : Nat) (path : Text) : List Text :=
  match fuel with
  | 0 => [path]
  | fuel + 1 =>
    path :: if disk.isFolder (Bytes.decode path) then
      (Housekeeping.inside disk path).flatMap (tree disk fuel) else []

/-- Changes the permissions of what a path leads to; tells whether it could be done. -/
def change (given : Given) (newMode : Bool → Mode → Mode) (path : Text) : Work Bool := do
  let state ← get
  match state.disk.find (Bytes.decode path) with
  | .error fault =>
    unless given.has 'f' do
      Filter.complain "chmod" ("cannot access ".toList ++ quote path ++ ": ".toList ++
        Filter.wording fault)
    return false
  | .ok (location, entry) =>
    let before := ofEntry entry
    let after := newMode (entry matches .folder) before
    if let .file content _ := entry then
      set { state with disk := state.disk.putEntry location (.file content (starts after)) }
    let named (mode : Mode) : Text := digits mode ++ " (".toList ++ letters mode ++ [')']
    if before != after && (given.has 'v' || given.has 'c') then
      State.print ("mode of ".toList ++ quote path ++ " changed from ".toList ++ named before ++
        " to ".toList ++ named after ++ ['\n'])
    else if given.has 'v' then
      State.print ("mode of ".toList ++ quote path ++ " retained as ".toList ++ named before ++
        ['\n'])
    return true

/-- Lets files be started, or not. -/
def chmod : Utility := fun words =>
  (usage.program fun given => do
    let onPaths (paths : List Text) (newMode : Bool → Mode → Mode) : Work Nat := do
      let disk := (← get).disk
      let paths := if given.has 'R' then paths.flatMap (tree disk 100) else paths
      let mut status := 0
      for path in paths do
        unless ← change given newMode path do status := 1
      return status
    match given.value? 'ρ', given.operands with
    | _, [] => usage.refuse "missing operand".toList
    | some path, paths =>
      match (← get).disk.find (Bytes.decode path) with
      | .ok (_, entry) => onPaths paths fun _ _ => ofEntry entry
      | .error fault =>
        Filter.complain "chmod" ("failed to get attributes of ".toList ++ quote path ++
          ": ".toList ++ Filter.wording fault)
        return 1
    | none, [mode] => usage.refuse ("missing operand after ".toList ++ quote mode)
    | none, mode :: paths =>
      if (after? false 0 mode).isNone then
        usage.refuse ("invalid mode: ".toList ++ quote mode)
      else onPaths paths fun isFolder before => (after? isFolder before mode).getD before)
    (guarded words)

end Docket.Shell.Permission
