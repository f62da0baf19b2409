import Docket.CommandLine.Run
import Docket.Shell.Execute
import Std.Time.Zoned

/-! The program: it takes a picture of the disk, runs a command line on it, and writes what has
changed. -/

namespace Docket.Picture

/-- The names in a path from the root. -/
def locationOf (path : String) : Location :=
  Disk.namesIn path.toList

/-- The path of a location. -/
def pathOf (location : Location) : String :=
  String.ofList ('/' :: Text.join ['/'] location)

/-- What bytes hold. -/
def contentOf (bytes : ByteArray) : Content :=
  let raw := bytes.toList
  (Text.ofUtf8? raw).elim (.bytes raw) .text

/-- The bytes of what a file holds. -/
def bytesOf (content : Content) : ByteArray :=
  match content with
  | .text text => ⟨(Text.utf8 text).toArray⟩
  | .bytes raw => ⟨raw.toArray⟩

/-- A disk with the folders that lead to a location. -/
def withFolders (disk : Disk) (location : Location) : Disk :=
  (List.range location.length).foldl
    (fun disk count => disk.putEntry (location.take (count + 1)) .folder) disk

/-- Adds the file at a location to a picture. A file can be started if it is a script. -/
def addFile (disk : Disk) (location : Location) : IO Disk := do
  try
    let content := contentOf (← IO.FS.readBinFile (pathOf location))
    let executable := match content with
      | .text ('#' :: '!' :: _) => true
      | _ => false
    return disk.putEntry location (.file content executable)
  catch _ => return disk

/-- Adds what is in a folder to a picture, down to a depth. -/
def addFolder (depth : Nat) (disk : Disk) (location : Location) : IO Disk := do
  match depth with
  | 0 => return disk
  | depth + 1 =>
    let folder ← IO.FS.realPath (pathOf location)
    let mut disk := withFolders disk location
    for entry in ← folder.readDir do
      let inner := location ++ [entry.fileName.toList]
      if ← entry.path.isDir then disk ← addFolder depth disk inner
      else disk ← addFile disk inner
    return disk

/-- Adds the file that a word names, wherever it lies, and the folders that lead to it. -/
def addWord (disk : Disk) (word : String) : IO Disk := do
  try
    let parent := (Path.parent? word.toList).getD []
    let folder ← IO.FS.realPath (if parent.isEmpty then "." else String.ofList parent)
    let location := locationOf folder.toString
    let disk := withFolders disk location
    match Path.fileName? word.toList with
    | none => return disk
    | some name =>
      let inner := location ++ [name]
      if (disk.entry? inner).isSome then return disk
      else addFile disk inner
  catch _ => return disk

/-- How deep the picture of the working folder goes. -/
def pictureDepth : Nat := 8

/-- A picture of the disk, as far as a command line may need it. -/
def ofWords (words : List String) : IO Disk := do
  let home := locationOf (← IO.currentDir).toString
  let disk ← addFolder pictureDepth { home } home
  words.foldlM addWord disk

/-- Writes a file as a whole: it holds either all or what it held before. -/
def writeWhole (path : String) (content : Content) : IO Unit := do
  let draft := path ++ ".draft"
  IO.FS.writeBinFile draft (bytesOf content)
  IO.FS.rename draft path

/-- Writes what has changed between two pictures. -/
def writeChanges (before after : Disk) : IO Unit := do
  for (location, entry) in after.entries.entries do
    if before.entries.get? location != some entry then
      match entry with
      | .folder => IO.FS.createDirAll (pathOf location)
      | .file content _ => writeWhole (pathOf location) content
  for (location, entry) in before.entries.entries.reverse do
    unless after.entries.has location do
      match entry with
      | .folder => IO.FS.removeDir (pathOf location)
      | .file .. => IO.FS.removeFile (pathOf location)

/-- The local time. -/
def localTime : IO Instant := do
  let now ← Std.Time.PlainDateTime.now
  return {
    year := now.year.toInt
    month := now.month.toNat
    day := now.day.toNat
    hour := now.hour.toNat
    minute := now.minute.toNat
    second := now.second.val.toNat }

end Docket.Picture

/-- Runs the program. -/
def main (words : List String) : IO UInt32 := do
  let before ← Docket.Picture.ofWords words
  let setting := ⟨Docket.Shell.host, ← Docket.Picture.localTime⟩
  let (outcome, after) := Docket.CommandLine.run setting (words.map String.toList) before
  Docket.Picture.writeChanges before after
  IO.print (String.ofList outcome.output)
  IO.eprint (String.ofList outcome.errors)
  return UInt32.ofNat outcome.exit
