import Docket.Calendar.Instant
import Docket.Expression.Reference
import Docket.Number.Binary64
import Docket.Storage.Disk

/-! Contexts: the variables that describe a document, its file and its folders. -/

namespace Docket

/-- A context holds variables, and knows how many folder levels it publishes. -/
structure Context where
  depth : Nat
  bindings : Variables

namespace Context

/-- The folder levels that are published unless a configuration says otherwise. -/
def standardDepth : Nat := 5

/-- Sets a variable. -/
def set (context : Context) (name value : Text) : Context :=
  { context with bindings := context.bindings.put name value }

/-- Sets variables, in order. -/
def setAll (context : Context) (pairs : List (Text × Text)) : Context :=
  { context with bindings := context.bindings.putAll pairs }

/-- The name of the variable of a folder level. -/
def levelName (level : Nat) : Text :=
  "level".toList ++ Text.ofNat level

/-- The variables of a time. -/
def timeVariables (now : Instant) : List (Text × Text) :=
  let values : List (String × Text) := [
    ("Date", now.isoDate),
    ("DateDE", now.pointDate),
    ("Time", now.clockTime '-'),
    ("TimeColon", now.clockTime ':'),
    ("DateTime", now.isoDate ++ '_' :: now.clockTime '-'),
    ("DateTimeDE", now.pointDate ++ ' ' :: now.clockTime ':'),
    ("Year", Instant.calendarYear now.year),
    ("Month", Instant.twoDigits now.month),
    ("MonthName", now.monthName),
    ("Day", Instant.twoDigits now.day),
    ("Hour", Instant.twoDigits now.hour),
    ("Minute", Instant.twoDigits now.minute),
    ("Second", Instant.twoDigits now.second),
    ("Weekday", now.weekdayName),
    ("WeekdayShort", Instant.abbreviate now.weekdayName),
    ("WeekNumber", Instant.twoDigits now.isoWeek),
    ("Timestamp", Text.ofInt now.epochSeconds)]
  values.map fun (name, value) => (name.toList, value)

/-- The context of a time, with empty folder levels. -/
def start (now : Instant) (depth : Nat) : Context :=
  let levels := (List.range (depth + 1)).map fun level => (levelName level, [])
  setAll ⟨depth, .empty⟩ (timeVariables now ++ levels)

/-- The variables of a file. The sizes are zero if there is no such file. -/
def fileVariables (path : Text) (disk : Disk) : List (Text × Text) :=
  let (size, megabytes) := match disk.file? path with
    | some (content, _) => (Text.ofNat content.size, Number.megabytes content.size)
    | none => (['0'], ['0'])
  let values : List (String × Text) := [
    ("FileName", (Path.stem? path).getD []),
    ("FileExtension", ((Path.ending? path).map ('.' :: ·)).getD []),
    ("FullFileName", (Path.fileName? path).getD []),
    ("FilePath", (Path.parent? path).getD []),
    ("FullPath", path),
    ("FileSize", size),
    ("FileSizeMB", megabytes)]
  values.map fun (name, value) => (name.toList, value)

/-- Adds the variables of a file. -/
def withFile (context : Context) (path : Text) (disk : Disk) : Context :=
  context.setAll (fileVariables path disk)

/-- The folders between a root and a file below it; none if the file lies elsewhere. -/
def foldersBetween (file root : Text) : List Text :=
  match Path.below? file root with
  | none => []
  | some steps =>
    let names := steps.filterMap fun
      | .name name => some name
      | _ => none
    -- The last name is that of the file.
    names.dropLast

/-- Adds the folder levels of a file below a root. Both are taken without detours if both exist. -/
def withHierarchy (context : Context) (file root : Text) (disk : Disk) : Context :=
  let (place, top) := match disk.canonical? file, disk.canonical? root with
    | some file, some root => (file, root)
    | _, _ => (file, root)
  let folders := foldersBetween place top
  let levels := (List.range context.depth).map fun index =>
    -- Levels deeper than the file are empty.
    (levelName (index + 1), folders.getD index [])
  context.setAll
    ((levelName 0, (Path.fileName? top).getD []) :: (levels ++ [("InputPath".toList, root)]))

/-- What stands before the names of recognized texts. -/
def recognized : Text :=
  "OCR_".toList

/-- Adds a recognized text. -/
def withText (context : Context) (text : Text) : Context :=
  context.set (recognized ++ "FullText".toList) text

/-- The variables of a recognized zone: its name, and a second one unless the name has it. -/
def zoneVariables (name text : Text) : List (Text × Text) :=
  if Text.startsWith name recognized then [(name, text)]
  else [(recognized ++ name, text), (name, text)]

/-- Adds recognized zones. -/
def withZones (context : Context) (zones : List (Text × Text)) : Context :=
  -- In order: where names meet, the later zone has the last word.
  context.setAll (zones.flatMap fun (name, text) => zoneVariables name text)

end Context

end Docket
