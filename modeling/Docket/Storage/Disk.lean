import Docket.Storage.Path
import Docket.Table.Sheet

/-! Disks: folders and files as a pure value, and how paths lead to them. -/

namespace Docket

/-- What a file holds: a text, or bytes that are the UTF-8 form of none. -/
inductive Content where
  | text (text : Text)
  | bytes (bytes : List UInt8)
deriving DecidableEq, Inhabited

namespace Content

/-- The number of bytes. -/
def size : Content → Nat
  | .text written => Text.byteLength written
  | .bytes raw => raw.length

/-- The text, if the bytes are one. -/
def text? : Content → Option Text
  | .text written => some written
  | .bytes _ => none

end Content

/-- Where an entry lies: the names that lead to it from the root. -/
abbrev Location := List Text

/-- An entry of a disk. -/
inductive Entry where
  | folder
  | file (content : Content) (executable : Bool)
deriving DecidableEq

/-- Why a path cannot be used. -/
inductive PathFault where
  | missing
  | notFolder
  | isFolder
  | present
  | unusable
  | refused
deriving DecidableEq, Repr

/-- What will go wrong while a file is replaced. Without entries nothing does. -/
structure Trouble where
  /-- Making folders stops after so many. -/
  foldersOnly : Option Nat := none
  /-- The temporary file cannot be opened. -/
  openFails : Bool := false
  /-- Writing stops after so many characters. -/
  writesOnly : Option Nat := none
  /-- The written bytes cannot be synchronised. -/
  syncFails : Bool := false
  /-- The temporary file cannot be renamed. -/
  renameFails : Bool := false
  /-- The temporary file cannot be removed afterwards. -/
  removeFails : Bool := false
deriving DecidableEq, Inhabited

/-- A disk with the working folder of the program. Troubles strike one replacement each. -/
structure Disk where
  entries : Sheet Location Entry := .empty
  home : Location := []
  troubles : List Trouble := []
  serial : Nat := 0
deriving DecidableEq, Inhabited

namespace Disk

/-- The entry at a location; the root is always a folder. -/
def entry? (disk : Disk) (location : Location) : Option Entry :=
  if location.isEmpty then some .folder else disk.entries.get? location

/-- Puts an entry at a location. -/
def putEntry (disk : Disk) (location : Location) (entry : Entry) : Disk :=
  { disk with entries := disk.entries.put location entry }

/-- Removes the entry at a location. -/
def eraseEntry (disk : Disk) (location : Location) : Disk :=
  { disk with entries := disk.entries.erase location }

/-- Paths of 4096 bytes and NUL are not accepted. -/
def isUsable (path : Text) : Bool :=
  path.all (· != '\x00') && Text.byteLength path < 4096

/-- Names of more than 255 bytes stand for nothing in any folder. -/
def isName (name : Text) : Bool :=
  Text.byteLength name ≤ 255

/-- The location that names lead to, starting from a folder. -/
def follow (disk : Disk) (location : Location) : List Text → Except PathFault Location
  | [] => .ok location
  | name :: rest =>
    match disk.entry? location with
    | none => .error .missing
    | some (.file ..) => .error .notFolder
    | some .folder =>
      -- Double dots lead back from the folder that has been reached, so a folder must be there even
      -- if the path leaves it again.
      let next :=
        if name == ['.'] then location
        else if name == ['.', '.'] then location.dropLast
        else location ++ [name]
      -- A name is refused for its length only after its folder has been found.
      if !isName name then .error .unusable
      else if (disk.entry? next).isSome then disk.follow next rest
      else .error .missing

/-- Where a path starts. -/
def origin (disk : Disk) (path : Text) : Location :=
  if Text.startsWith path ['/'] then [] else disk.home

/-- The names in a path. -/
def namesIn (path : Text) : List Text :=
  (Path.pieces path).filter (!·.isEmpty)

/-- Whether a path ends in a slash and so must name a folder. -/
def wantsFolder (path : Text) : Bool :=
  path.getLast? == some '/'

/-- The location and the entry that a path leads to. -/
def find (disk : Disk) (path : Text) : Except PathFault (Location × Entry) := do
  if path.isEmpty then throw .missing
  unless isUsable path do throw .unusable
  let location ← disk.follow (disk.origin path) (namesIn path)
  match disk.entry? location with
  | none => throw .missing
  | some entry =>
    match entry with
    | .folder => return (location, entry)
    | .file .. => if wantsFolder path then throw .notFolder else return (location, entry)

/-- Whether a path leads to an entry. -/
def has (disk : Disk) (path : Text) : Bool :=
  (disk.find path).isOk

/-- Whether a path leads to a folder. -/
def isFolder (disk : Disk) (path : Text) : Bool :=
  match disk.find path with
  | .ok (_, .folder) => true
  | _ => false

/-- The file that a path leads to. -/
def file? (disk : Disk) (path : Text) : Option (Content × Bool) :=
  match disk.find path with
  | .ok (_, .file content executable) => some (content, executable)
  | _ => none

/-- The text of the file that a path leads to. -/
def readText (disk : Disk) (path : Text) : Except PathFault Text := do
  match (← disk.find path).2 with
  | .folder => throw .isFolder
  | .file content _ =>
    match content.text? with
    | some text => return text
    | none => throw .unusable

/-- The path from the root without detours. -/
def canonical? (disk : Disk) (path : Text) : Option Text :=
  match disk.find path with
  | .ok (location, _) => some ('/' :: Text.join ['/'] location)
  | .error _ => none

/-- The folder and the name of the entry that a path would name. -/
def place (disk : Disk) (path : Text) : Except PathFault (Location × Text) := do
  unless isUsable path do throw .unusable
  match (namesIn path).reverse with
  -- A path of slashes alone names the root, and that is there.
  | [] => if path.isEmpty then throw .missing else throw .present
  | last :: before =>
    let folder ← disk.follow (disk.origin path) before.reverse
    match disk.entry? folder with
    | none => throw .missing
    | some (.file ..) => throw .notFolder
    | some .folder => if isName last then return (folder, last) else throw .unusable

/-- Whether a name stands for a folder by its position only. -/
def isDots (name : Text) : Bool :=
  name == ['.'] || name == ['.', '.']

/-- Makes one folder. -/
def makeFolder (disk : Disk) (path : Text) : Except PathFault Disk := do
  let (folder, last) ← disk.place path
  -- The folder of dots was found on the way.
  if isDots last then throw .present
  let location := folder ++ [last]
  match disk.entry? location with
  | some _ => throw .present
  | none => return disk.putEntry location .folder

/-- Opens a file for writing, empty. An executable file stays one. -/
def openEmpty (disk : Disk) (path : Text) : Except PathFault (Location × Disk) := do
  if wantsFolder path then throw .isFolder
  let (folder, last) ← disk.place path
  if isDots last then throw .isFolder
  let location := folder ++ [last]
  match disk.entry? location with
  | some .folder => throw .isFolder
  | some (.file _ executable) =>
    return (location, disk.putEntry location (.file (.text []) executable))
  | none => return (location, disk.putEntry location (.file (.text []) false))

/-- Puts the file at a location under the name that a path stands for. A file under that name is
replaced; a folder is not. -/
def renameOver (disk : Disk) (source : Location) (path : Text) : Except PathFault Disk := do
  if wantsFolder path then throw .notFolder
  let (folder, last) ← disk.place path
  if isDots last then throw .isFolder
  let target := folder ++ [last]
  match disk.entry? target, disk.entry? source with
  | some .folder, _ => throw .isFolder
  | _, none => throw .missing
  | _, some entry =>
    -- Renaming a file to its own name does nothing.
    if target = source then return disk else return (disk.eraseEntry source).putEntry target entry

/-- Removes a location with everything below it. -/
def removeAll (disk : Disk) (location : Location) : Disk :=
  disk.entries.keys.foldl
    (fun disk other => if location.isPrefixOf other then disk.eraseEntry other else disk) disk

/-- Makes a folder and the folders above it that are missing. `allowed` bounds how many folders
can be made. -/
def makeFolders (allowed : Option Nat) (disk : Disk) (path : Text) :
    Except PathFault Unit × Disk :=
  -- The nearest folder that exists, or can be made, comes first; the others follow downwards.
  let lineage := Path.lineage path.length path
  go allowed disk lineage.reverse
where
  /-- Makes the folders of a line of paths, outermost first. -/
  go (allowed : Option Nat) (disk : Disk) : List Text → Except PathFault Unit × Disk
    | [] => (.ok (), disk)
    | path :: rest =>
      -- A folder that is there costs nothing of what is allowed.
      if path.isEmpty || disk.isFolder path then go allowed disk rest
      else match allowed with
        | some 0 => (.error .refused, disk)
        | _ =>
          match disk.makeFolder path with
          | .ok disk => go (allowed.map (· - 1)) disk rest
          | .error fault => (.error fault, disk)

end Disk

end Docket
