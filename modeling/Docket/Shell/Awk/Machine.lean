import Docket.Shell.Awk.Format
import Docket.Shell.Awk.Table
import Docket.Shell.Filter

/-! What scripts work with: variables, arrays, the current record, and streams. -/

namespace Docket.Shell.Awk

/-- What a name stands for. -/
inductive Slot where
  | value (value : Value)
  | table (number : Nat)
  /-- Not used so far; it is an array as soon as there is one of that number. -/
  | vacant (number : Nat)

/-- A file or a command that lines are taken from. -/
structure Input where
  origin : Origin
  name : Text
  rest : Text
  status : Nat := 0

/-- A file or a command that is written to. -/
structure Output where
  direction : Direction
  name : Text
  channel : Channel
  /-- What has not been handed on yet, the last piece first. -/
  pending : List Text := []

/-- The state of a script that runs. -/
structure Machine where
  launch : Launcher
  functions : Std.HashMap Text Function := {}
  globals : Std.HashMap Text Slot := {}
  /-- What the names of the current function stand for. -/
  locals : Std.HashMap Text Slot := {}
  tables : Std.HashMap Nat Table := {}
  nextTable : Nat := 0
  /-- How many functions wait for each other. -/
  depth : Nat := 0
  record : Value := .unset
  fields : Array Value := #[]
  /-- What is left of the file whose records are read. -/
  current : Option Text := none
  /-- The place of the next file among the arguments. -/
  nextFile : Nat := 1
  /-- Whether a file has been found among the arguments. -/
  hasFile : Bool := false
  isOver : Bool := false
  /-- What has been printed and not been handed on, the last piece first. -/
  pending : List Text := []
  inputs : List Input := []
  outputs : List Output := []
  regexes : Std.HashMap Text Regex := {}
  /-- The ranges whose ends have not been found. -/
  open_ : List Nat := []
  seed : Value := .unset
  status : Nat := 0

/-- Why the statements that follow are not run. -/
inductive Stop where
  | next
  | nextFile
  | exit
  | leave
  | goOn
  | return (value : Value)
  /-- Something went wrong at a record. -/
  | fault (message : Text)
  /-- Something cannot be done, whatever the record. -/
  | refusal (message : Text)
  /-- The time is up. -/
  | late

/-- What works on the state of a script. -/
abbrev Play := ExceptT Stop (StateT Machine Work)

namespace Play

/-- Work on the state of the shell. -/
def work {α : Type} (work : Work α) : Play α :=
  ExceptT.lift (StateT.lift work)

/-- Refuses what is asked for. -/
def refuse {α : Type} (message : Text) : Play α :=
  throw (.refusal message)

/-- Complains about what is done with a record. -/
def complain {α : Type} (message : Text) : Play α :=
  throw (.fault message)

end Play

namespace Machine

/-- What a name stands for, if anything. -/
def slot? (machine : Machine) (name : Text) : Option Slot :=
  (machine.locals.get? name).or (machine.globals.get? name)

/-- Lets a name stand for something. -/
def putSlot (name : Text) (slot : Slot) : Play Unit :=
  modify fun machine =>
    if machine.locals.contains name then
      { machine with locals := machine.locals.insert name slot }
    else { machine with globals := machine.globals.insert name slot }

/-- The array of a number. -/
def table (machine : Machine) (number : Nat) : Table :=
  (machine.tables.get? number).getD {}

/-- Changes an array. -/
def putTable (number : Nat) (table : Table) : Play Unit :=
  modify fun machine => { machine with tables := machine.tables.insert number table }

/-- Takes an array out of the machine, so that nothing else refers to it, and works on it. -/
def workTable {α : Type} (number : Nat) (work : Table → α × Table) : Play α := do
  let table := (← get).table number
  modify fun machine => { machine with tables := machine.tables.erase number }
  let (result, table) := work table
  putTable number table
  return result

/-- A number for an array. -/
def newTable : Play Nat := do
  let number := (← get).nextTable
  modify fun machine => { machine with nextTable := number + 1 }
  return number

/-- What a name stands for that a function is called with. -/
def lend (name : Text) : Play Slot := do
  match (← get).slot? name with
  | none | some (.value .unset) =>
    let slot := Slot.vacant (← newTable)
    putSlot name slot
    return slot
  | some slot => return slot

/-- The number of the array that a name stands for. -/
def tableOf (name : Text) : Play Nat := do
  match ← lend name with
  | .table number => return number
  | .vacant number =>
    putSlot name (.table number)
    unless (← get).tables.contains number do putTable number {}
    return number
  | .value _ => Play.refuse ("illegal reference to variable ".toList ++ name)

/-- The variable that tells how many fields there are. -/
def fieldCount : Text := "NF".toList

/-- The value of a variable. -/
def value (name : Text) : Play Value := do
  let machine ← get
  if name = fieldCount then return .ofNat machine.fields.size
  match machine.slot? name with
  | none => return .unset
  | some (.value found) => return found
  | some (.vacant number) =>
    if machine.tables.contains number then
      Play.refuse ("illegal reference to array ".toList ++ name)
    else return .unset
  | some (.table _) => Play.refuse ("illegal reference to array ".toList ++ name)

/-- The text of the value of a variable. -/
def textOf (name : String) : Play Text := do
  match (← get).globals.get? name.toList with
  | some (.value (.text found)) | some (.value (.numeral found _)) => return found
  | some (.value (.number found)) => return textOfNumber "%.6g".toList found
  | _ => return []

/-- The text of a value. -/
def text (value : Value) : Play Text := do
  match value with
  | .text found | .numeral found _ => return found
  | .unset => return []
  | .number found =>
    match asWord? found with
    | some word => return Text.ofInt word
    | none => return textOfNumber (← textOf "CONVFMT") found

/-- The text of a value as it is printed. -/
def printedText (value : Value) : Play Text := do
  match value with
  | .number found => return textOfNumber (← textOf "OFMT") found
  | value => text value

/-- The regular expression of a text. -/
def regex (source : Text) : Play Regex := do
  match (← get).regexes.get? source with
  | some found => return found
  | none =>
    match Regex.read? dialect source with
    | .ok found =>
      modify fun machine => { machine with regexes := machine.regexes.insert source found }
      return found
    | .error fault => Play.complain (regexFault source fault)

/-- The key that values stand for. -/
def key (values : List Value) : Play Key := do
  match values with
  | [.number found] =>
    match asWord? found with
    | some word => return .number word
    | none => return .text (← text (.number found))
  | [found] => return .text (← text found)
  | values => return .text (Text.join (← textOf "SUBSEP") (← values.mapM text))

end Machine

end Docket.Shell.Awk
