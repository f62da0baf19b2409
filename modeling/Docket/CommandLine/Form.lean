import Docket.Counter.Category
import Docket.Text.Integer

/-! Forms of command lines: the switches, operands and commands that may stand on them. -/

namespace Docket.CommandLine

/-- What the value of a switch or an operand must be. -/
inductive ValueKind where
  | text
  /-- A path that is not empty. -/
  | path
  /-- A name that is not empty, an equals sign, and a text. -/
  | assignment
  | category
  | integer
deriving DecidableEq, Repr

/-- A value that has been read. -/
inductive Value where
  | text (text : Text)
  | assignment (name text : Text)
  | category (category : Counter.Category)
  | integer (value : Int64)
  /-- The switch stands there, and has no value. -/
  | mark
deriving DecidableEq

/-- Reads a value of a kind. -/
def ValueKind.read? (kind : ValueKind) (argument : Text) : Option Value :=
  match kind with
  | text => some (.text argument)
  | path => if argument.isEmpty then none else some (.text argument)
  | assignment =>
    match Text.splitOnce? '=' argument with
    | some (first :: rest, given) => some (.assignment (first :: rest) given)
    | _ => none
  | category => (Counter.Category.parse? argument).map .category
  | integer => (Text.integer? argument).map .integer

/-- A value that may be given, under a name. -/
structure Slot where
  name : Text
  kind : ValueKind
  repeatable : Bool := false
  description : Text := []
deriving DecidableEq, Repr

/-- What a switch does. -/
inductive Effect where
  /-- It takes the value after it. -/
  | value (kind : ValueKind) (repeatable : Bool)
  | mark
  | help
  | version
deriving DecidableEq, Repr

/-- A switch: a name after two dashes, and perhaps a letter after one. -/
structure Switch where
  name : Text
  letter : Option Char := none
  effect : Effect
  description : Text
deriving DecidableEq, Repr

/-- What may stand on a command line up to a command, which opens a form of its own. -/
structure Form where
  description : Text
  switches : List Switch
  operands : List Slot := []
  commands : List Text := []
deriving DecidableEq, Repr

namespace Form

/-- The switch of a name. -/
def switch? (form : Form) (name : Text) : Option Switch :=
  form.switches.find? (·.name == name)

/-- The switch of a letter. -/
def letter? (form : Form) (letter : Char) : Option Switch :=
  form.switches.find? (·.letter == some letter)

/-- How a switch is written. -/
def switchUsage (switch : Switch) : Text :=
  let letter := match switch.letter with
    | some letter => ['-', letter, ',', ' ']
    | none => List.replicate 4 ' '
  let value := match switch.effect with
    | .value .assignment _ => " <NAME=VALUE>".toList
    | .value _ _ => " <".toList ++ switch.name.map Char.toUpper ++ ['>']
    | _ => []
  letter ++ "--".toList ++ switch.name ++ value

/-- How an operand is written. -/
def operandUsage (operand : Slot) : Text :=
  '<' :: operand.name.map Char.toUpper ++ ['>']

/-- Lines of two columns, under a heading. -/
def columns (heading : String) (lines : List (Text × Text)) : Text :=
  let width := lines.foldl (fun width line => max width line.1.length) 0
  if lines.isEmpty then []
  else '\n' :: heading.toList ++ ":\n".toList ++ lines.flatMap fun (left, right) =>
    "  ".toList ++ left ++ List.replicate (width + 2 - left.length) ' ' ++ right ++ ['\n']

/-- The help on a form, which is reached by the words `before` it. The second argument describes
each command. -/
def help (form : Form) (before : List Text) (commands : List (Text × Text)) : Text :=
  let usage := before ++ ["[OPTIONS]".toList] ++ form.operands.map operandUsage ++
    if form.commands.isEmpty then [] else ["<COMMAND>".toList]
  form.description ++ "\n\nUsage: ".toList ++ Text.join [' '] usage ++ ['\n'] ++
    columns "Commands" commands ++
    columns "Arguments" (form.operands.map fun operand =>
      (operandUsage operand, operand.description)) ++
    columns "Options" (form.switches.map fun switch => (switchUsage switch, switch.description))

end Form

end Docket.CommandLine
