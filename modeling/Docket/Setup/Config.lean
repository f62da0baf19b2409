import Docket.Json.Reader
import Docket.Json.Value
import Docket.Storage.Disk
import Docket.Table.Index

/-! The configuration of an engine, and its JSON form. -/

namespace Docket

/-- How scripts are run. -/
structure Scripting where
  /-- Whether scripts may run at all. -/
  enabled : Bool
  /-- The time limit of one run in milliseconds. -/
  timeout : Nat
  /-- The words that start a script, by the ending of its name in small letters. Without words
  the script itself is started. -/
  interpreters : Index (List Text)
deriving DecidableEq

namespace Scripting

/-- The interpreters that are known from the start. -/
def knownInterpreters : Index (List Text) :=
  let known : List (String × List String) := [
    ("bat", ["cmd", "/C"]), ("cmd", ["cmd", "/C"]), ("vbs", ["cscript", "//NoLogo"]),
    ("ps1", ["powershell", "-NoProfile", "-ExecutionPolicy", "Bypass", "-File"]),
    ("py", ["python"]), ("sh", ["sh"]), ("exe", [])]
  Index.ofPairs (known.map fun (ending, words) => (ending.toList, words.map String.toList))

/-- The settings when none are given. -/
def standard : Scripting :=
  ⟨true, 30000, knownInterpreters⟩

instance : Inhabited Scripting := ⟨standard⟩

/-- The words that start a script, if its ending is known; a name without ending needs none. -/
def interpreterFor? (scripting : Scripting) (path : Text) : Option (List Text) :=
  match Path.ending? path with
  | some ending => scripting.interpreters.get? (Text.asciiLower ending)
  | none => some []

/-- The settings that a JSON value holds; what is missing keeps its standard value. -/
def ofJson? (json : Json) : Option Scripting :=
  match Json.fields? [["enabled".toList], ["timeout_ms".toList], ["interpreters".toList]] json with
  | some [enabled, timeout, interpreters] => do
    let enabled ← Json.fieldOr? Json.bool? standard.enabled enabled
    let timeout ← Json.fieldOr? Json.word? standard.timeout timeout
    let words (json : Json) := (json.membersOf? (Json.itemsOf? Json.text?)).map Index.ofPairs
    let interpreters ← Json.fieldOr? words standard.interpreters interpreters
    return ⟨enabled, timeout, interpreters⟩
  | _ => none

/-- The JSON form of the settings. -/
def toJson (scripting : Scripting) : Json :=
  let words := scripting.interpreters.entries.map fun (ending, words) =>
    (ending, Json.array (words.map .string))
  .object [("enabled".toList, .bool scripting.enabled),
    ("timeout_ms".toList, .integer scripting.timeout), ("interpreters".toList, .object words)]

end Scripting

/-- The configuration of an engine. -/
structure Config where
  /-- How deep calls may be nested. -/
  maxNesting : Nat
  /-- How many patterns are kept for reuse. -/
  patternCapacity : Nat
  /-- How many folder levels below the root are published. -/
  hierarchyDepth : Nat
  /-- The counter file of the command line when none is given. -/
  countersPath : Option Text
  scripting : Scripting
deriving DecidableEq

/-- Why a configuration was not loaded. -/
inductive ConfigFailure where
  | unreadable (path : Text)
  | invalid (path : Text)
deriving DecidableEq, Repr

/-- The wording of a failure. -/
def ConfigFailure.message : ConfigFailure → Text
  | unreadable path => "Failed to read config ".toList ++ path
  | invalid path => "Invalid config ".toList ++ path

namespace Config

/-- The configuration when none is given. -/
def standard : Config :=
  ⟨64, 128, 5, none, .standard⟩

instance : Inhabited Config := ⟨standard⟩

/-- The configuration that starts no program. -/
def sandboxed : Config :=
  { standard with scripting := { Scripting.standard with enabled := false } }

/-- A path, or nothing. -/
def optionalText? : Json → Option (Option Text)
  | .null => some none
  | .string text => some (some text)
  | _ => none

/-- The configuration that a JSON value holds; what is missing keeps its standard value. -/
def ofJson? (json : Json) : Option Config :=
  let names := ["max_nesting_depth", "regex_cache_size", "hierarchy_depth", "counters_path",
    "scripting"]
  match Json.fields? (names.map fun name => [name.toList]) json with
  | some [nesting, capacity, depth, counters, scripting] => do
    let nesting ← Json.fieldOr? Json.word? standard.maxNesting nesting
    let capacity ← Json.fieldOr? Json.word? standard.patternCapacity capacity
    let depth ← Json.fieldOr? Json.word? standard.hierarchyDepth depth
    let counters ← Json.fieldOr? optionalText? standard.countersPath counters
    let scripting ← Json.fieldOr? Scripting.ofJson? standard.scripting scripting
    return ⟨nesting, capacity, depth, counters, scripting⟩
  | _ => none

/-- The JSON form of a configuration. -/
def toJson (config : Config) : Json :=
  .object [("max_nesting_depth".toList, .integer config.maxNesting),
    ("regex_cache_size".toList, .integer config.patternCapacity),
    ("hierarchy_depth".toList, .integer config.hierarchyDepth),
    ("counters_path".toList, (config.countersPath.map Json.string).getD .null),
    ("scripting".toList, config.scripting.toJson)]

/-- Loads the configuration in a file. -/
def load (path : Text) (disk : Disk) : Except ConfigFailure Config :=
  match disk.readText path with
  | .error _ => .error (.unreadable path)
  | .ok text =>
    match (Json.read? text).bind ofJson? with
    | some config => .ok config
    | none => .error (.invalid path)

/-- Limits script runs to a number of seconds and nanoseconds. -/
def withScriptTimeout (config : Config) (seconds nanoseconds : Nat) : Config :=
  let timeout := min (1000 * seconds + nanoseconds / 1000000) (Text.wordCount - 1)
  { config with scripting := { config.scripting with timeout := timeout } }

end Config

end Docket
