import Docket.CommandLine.Findings
import Docket.Counter.Store

/-! Requests: what a command line asks for. -/

namespace Docket.CommandLine

/-- What every command accepts. -/
structure Common where
  config : Option Text
  counters : Option Text
  verbose : Bool
deriving DecidableEq, Repr

/-- What describes the document at hand. -/
structure Description where
  bindings : List (Text × Text)
  file : Option Text
  root : Option Text
  text : Option Text
deriving DecidableEq, Repr

/-- What is to be done with counters. -/
inductive CounterAction where
  | list (category : Option Counter.Category)
  | get (name : Text) (category : Counter.Category)
  | set (name : Text) (category : Counter.Category) (value : Int64)
  | delete (name : Text) (category : Counter.Category)
deriving DecidableEq

/-- What is to be done. -/
inductive Action where
  | evaluate (expression : Text) (description : Description)
  | fields (definitions : Text) (document output : Option Text) (description : Description)
  | counters (action : CounterAction)
  | functions
  | check (definitions : Text)
deriving DecidableEq

/-- A request. -/
structure Request where
  common : Common
  action : Action
deriving DecidableEq

/-- The name of the program, as its users type it. -/
def programName : Text :=
  "docflow-expr".toList

/-- The version of the program. -/
def programVersion : Text :=
  "0.2.0".toList

namespace Form

/-- A switch that takes a value. -/
def valued (name : String) (kind : ValueKind) (description : String) : Switch :=
  ⟨name.toList, none, .value kind false, description.toList⟩

/-- The switches that are understood before and after every command. -/
def everywhere : List Switch := [
  valued "config" .path "Engine configuration file (JSON)",
  valued "counters" .path "Counter file; overrides the configured path",
  ⟨"verbose".toList, some 'v', .mark, "Log debug output".toList⟩,
  ⟨"help".toList, some 'h', .help, "Print help".toList⟩]

/-- The switches that describe the document at hand. -/
def describing : List Switch := [
  ⟨"var".toList, none, .value .assignment true, "Variable as NAME=VALUE (repeatable)".toList⟩,
  valued "file" .path "Input file providing the file variables",
  valued "root" .path "Watched root folder providing level0..levelN",
  valued "text" .path "Text file with the recognized text of the document"]

/-- The switch for the category of a counter. -/
def categorySwitch : Switch :=
  valued "category" .category "Category of the counter [default: auto]"

/-- An operand. -/
def operandOf (name : String) (kind : ValueKind) (description : String) : Slot :=
  ⟨name.toList, kind, false, description.toList⟩

/-- The form of a command without commands of its own. -/
def simple (description : String) (switches : List Switch) (operands : List Slot) : Form :=
  ⟨description.toList, switches ++ everywhere, operands, []⟩

/-- The form of a command that another command follows. -/
def grouping (description : String) (switches : List Switch) (commands : List String) : Form :=
  ⟨description.toList, everywhere ++ switches, [], (commands ++ ["help"]).map String.toList⟩

/-- The operand that names a field definition file. -/
def definitions : Slot :=
  operandOf "definitions" .path "JSON array of field definitions"

/-- The operand that names a counter. -/
def counterName : Slot :=
  operandOf "name" .text "Name of the counter"

/-- The form that a path of commands leads to. -/
def reached? (path : List Text) : Option Form :=
  match path.map String.ofList with
  | [] => some <| grouping "Evaluate document expressions, field definitions and counters"
      [⟨"version".toList, some 'V', .version, "Print version".toList⟩]
      ["evaluate", "fields", "counters", "functions", "check"]
  | ["evaluate"] => some <| simple "Evaluate one expression" describing
      [operandOf "expression" .text "Expression to evaluate"]
  | ["fields"] => some <| simple "Evaluate a field definition file in order"
      (valued "document" .path "Previously stored field document to update" ::
        ⟨"output".toList, some 'o', .value .path false,
          "Where to write the resulting document (stdout if omitted)".toList⟩ :: describing)
      [definitions]
  | ["counters"] => some <| grouping "Inspect or change persistent counters" []
      ["list", "get", "set", "reset", "delete"]
  | ["functions"] => some <| simple "Print the function catalogue as markdown" [] []
  | ["check"] => some <| simple
      "Report forward references and cycles in a field definition file" [] [definitions]
  | ["counters", "list"] => some <| simple "List counters"
      [valued "category" .category "Only this category"] []
  | ["counters", "get"] => some <| simple "Print a counter's next value" [categorySwitch]
      [counterName]
  | ["counters", "set"] => some <| simple "Set a counter's next value" [categorySwitch]
      [counterName, operandOf "value" .integer "Value handed out next"]
  | ["counters", "reset"] => some <| simple "Restart a counter"
      [valued "value" .integer "Value handed out next [default: 1]", categorySwitch]
      [counterName]
  | ["counters", "delete"] => some <| simple "Delete a counter" [categorySwitch] [counterName]
  | _ => none

/-- The help on the form that a path of commands leads to. -/
def helpAt (path : List Text) : Text :=
  match reached? path with
  | none => "Print this message or the help of the given subcommand(s)\n".toList
  | some form =>
    form.help (programName :: path) <| form.commands.map fun command =>
      (command, ((reached? (path ++ [command])).map (·.description)).getD
        "Print this message or the help of the given subcommand(s)".toList)

end Form

/-- The command that asks for help on the commands after it. -/
def helpCommand : Text :=
  "help".toList

/-- Looks for the form that the words after the help command lead to. -/
def helpOn (path : List Text) (form : Form) : List Text → Stop
  | [] => .help path
  | word :: rest =>
    if !form.commands.contains word then .fault (.unknownCommand word)
    else match Form.reached? (path ++ [word]) with
      | some inner => helpOn (path ++ [word]) inner rest
      | none => if rest.isEmpty then .help (path ++ [word]) else .fault (.unknownCommand word)

/-- Reads words that follow a path of commands. Gives the whole path, and the findings of all
forms, those of the last form first. Each further command costs one of `fuel`. -/
def findings (fuel : Nat) (path : List Text) (words : List Text) :
    Except Stop (List Text × Findings) :=
  match fuel, Form.reached? path with
  | fuel + 1, some form => do
    let (reading, next) ← Reading.takeAll { form, commands := path } words
    match next with
    | none => return (path, ← reading.finish false)
    | some (command, rest) =>
      if command = helpCommand then throw (helpOn path form rest)
      else
        let (path, inner) ← findings fuel (path ++ [command]) rest
        let outer ← reading.finish true
        return (path, inner ++ outer)
  | _, _ => .error (.fault .noCommand)

namespace Findings

/-- The text under a name. -/
def text? (found : Findings) (name : String) : Option Text :=
  match found.lookup name.toList with
  | some (.text text) => some text
  | _ => none

/-- The integer under a name. -/
def integer? (found : Findings) (name : String) : Option Int64 :=
  match found.lookup name.toList with
  | some (.integer value) => some value
  | _ => none

/-- The category under its name. -/
def category? (found : Findings) : Option Counter.Category :=
  match found.lookup "category".toList with
  | some (.category category) => some category
  | _ => none

/-- The category of a counter; the automatic one unless another is given. -/
def category (found : Findings) : Counter.Category :=
  found.category?.getD .auto

/-- All assignments. -/
def assignments (found : Findings) : List (Text × Text) :=
  found.filterMap fun
    | (_, .assignment name text) => some (name, text)
    | _ => none

/-- What every command accepts. -/
def common (found : Findings) : Common :=
  ⟨found.text? "config", found.text? "counters", (found.lookup "verbose".toList).isSome⟩

/-- What describes the document at hand; a root needs a file. -/
def description (found : Findings) : Except Stop Description :=
  if (found.text? "root").isSome && (found.text? "file").isNone then
    .error (.fault (.missing "file".toList))
  else .ok ⟨found.assignments, found.text? "file", found.text? "root", found.text? "text"⟩

/-- What is to be done, after a path of commands. -/
def action (found : Findings) (path : List Text) : Except Stop Action := do
  let name := (found.text? "name").getD []
  let definitions := (found.text? "definitions").getD []
  match path.map String.ofList with
  | ["evaluate"] =>
    return .evaluate ((found.text? "expression").getD []) (← found.description)
  | ["fields"] =>
    return .fields definitions (found.text? "document") (found.text? "output")
      (← found.description)
  | ["functions"] => return .functions
  | ["check"] => return .check definitions
  | ["counters", "list"] => return .counters (.list found.category?)
  | ["counters", "get"] => return .counters (.get name found.category)
  | ["counters", "set"] =>
    return .counters (.set name found.category ((found.integer? "value").getD 0))
  | ["counters", "reset"] =>
    return .counters (.set name found.category
      ((found.integer? "value").getD Counter.restartValue))
  | ["counters", "delete"] => return .counters (.delete name found.category)
  | _ => throw (.fault .noCommand)

end Findings

/-- The request of a command line. -/
def Request.ofWords (words : List Text) : Except Stop Request := do
  let (path, found) ← findings (words.length + 1) [] words
  return ⟨found.common, ← found.action path⟩

end Docket.CommandLine
