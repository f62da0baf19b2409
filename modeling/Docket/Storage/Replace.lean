import Docket.Storage.Disk
import Docket.Text.Integer

/-! Replacing files as a whole: write a temporary neighbour, then rename it over the target. -/

namespace Docket.Disk

/-- The name of the temporary file beside a file. -/
def temporaryName (name : Text) (serial : Nat) : Text :=
  '.' :: name ++ ".tmp.1.".toList ++ Text.ofNat serial

/-- Why a file was not replaced. -/
inductive ReplaceFault where
  | nameless
  | path (fault : PathFault)
deriving DecidableEq, Repr

/-- Removes the temporary file, unless that fails too. -/
def discard (trouble : Trouble) (location : Location) (disk : Disk) : Disk :=
  if trouble.removeFails then disk else disk.eraseEntry location

/-- The part of a content that is written before trouble strikes. -/
def written (content : Content) (count : Nat) : Content :=
  match content with
  | .text text => .text (text.take count)
  | .bytes bytes => .bytes (bytes.take count)

/-- Makes the folders above a path, if its parent is missing. -/
def prepare (trouble : Trouble) (path : Text) (disk : Disk) : Except PathFault Unit × Disk :=
  match Path.parent? path with
  | none => (.ok (), disk)
  | some parent =>
    -- What is there need not be a folder: if it is none, opening the temporary file fails.
    if parent.isEmpty || disk.has parent then (.ok (), disk)
    else makeFolders trouble.foldersOnly disk parent

/-- Writes a content to a temporary file and renames that over the path. A step that fails leaves
the temporary file to be discarded. -/
def writeThrough (trouble : Trouble) (path temporary : Text) (content : Content) (disk : Disk) :
    Except PathFault Unit × Disk :=
  if trouble.openFails then (.error .refused, disk)
  else match disk.openEmpty temporary with
    -- No file was opened, so there is none to discard.
    | .error fault => (.error fault, disk)
    | .ok (location, disk) =>
      match trouble.writesOnly with
      | some count =>
        let disk := disk.putEntry location (.file (written content count) false)
        (.error .refused, discard trouble location disk)
      | none =>
        let disk := disk.putEntry location (.file content false)
        if trouble.syncFails || trouble.renameFails then
          (.error .refused, discard trouble location disk)
        else match disk.renameOver location path with
          | .ok disk => (.ok (), disk)
          | .error fault => (.error fault, discard trouble location disk)

/-- Replaces the content of a path as a whole; on failure the path keeps what it had. -/
def replace (path : Text) (content : Content) (disk : Disk) :
    Except ReplaceFault Unit × Disk :=
  let trouble := disk.troubles.headD {}
  -- Each replacement uses up its entry, even if it fails before trouble strikes.
  let disk := { disk with troubles := disk.troubles.tail }
  match prepare trouble path disk with
  | (.error fault, disk) => (.error (.path fault), disk)
  | (.ok (), disk) =>
    -- The folders are there before it turns out that a path has no name at its end.
    match Path.fileName? path with
    | none => (.error .nameless, disk)
    | some name =>
      let temporary := Path.sibling path (temporaryName name disk.serial)
      -- The number is used up, whether or not the writing succeeds.
      let disk := { disk with serial := disk.serial + 1 }
      match writeThrough trouble path temporary content disk with
      | (.error fault, disk) => (.error (.path fault), disk)
      | (.ok (), disk) => (.ok (), disk)

end Docket.Disk
