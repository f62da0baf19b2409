import Docket.CommandLine.Form

/-! Findings: the values that the words of a command line give to the slots of a form. -/

namespace Docket.CommandLine

/-- Why a command line is not understood. -/
inductive Fault where
  | unexpected (word : Text)
  | noValue (name : Text)
  | badValue (name word : Text)
  | repeated (name : Text)
  | missing (name : Text)
  | unknownCommand (word : Text)
  | noCommand
deriving DecidableEq, Repr

/-- The wording of a fault. -/
def Fault.message : Fault → Text
  | unexpected word => "unexpected argument '".toList ++ word ++ "' found".toList
  | noValue name =>
    "a value is required for '".toList ++ name ++ "' but none was supplied".toList
  | badValue name word =>
    "invalid value '".toList ++ word ++ "' for '".toList ++ name ++ ['\'']
  | repeated name =>
    "the argument '".toList ++ name ++ "' cannot be used multiple times".toList
  | missing name =>
    "the following required arguments were not provided: ".toList ++ name
  | unknownCommand word => "unrecognized subcommand '".toList ++ word ++ ['\'']
  | noCommand => "a subcommand is required but one was not provided".toList

/-- Why nothing is to be done for a command line. -/
inductive Stop where
  | fault (fault : Fault)
  /-- Help was asked for, on the form that the commands lead to. -/
  | help (commands : List Text)
  | version
deriving DecidableEq, Repr

/-- Values by the names of their slots, in the order of the words. -/
abbrev Findings := List (Text × Value)

/-- A slot whose value is still to be read: its word may not have come yet. -/
structure Waiting where
  slot : Slot
  word : Option Text
deriving DecidableEq

/-- How far the words of a form have been read. -/
structure Reading where
  form : Form
  /-- The commands that lead to the form. -/
  commands : List Text
  found : Findings := []
  waiting : Option Waiting := none
  /-- The operands that have not been given. -/
  operands : List Slot := form.operands
  /-- Whether all words are operands, as two dashes have been read. -/
  onlyOperands : Bool := false

namespace Reading

/-- Puts a value into its slot. -/
def record (reading : Reading) (slot : Slot) (value : Value) : Except Stop Reading :=
  if !slot.repeatable && reading.found.any (·.1 == slot.name) then
    .error (.fault (.repeated slot.name))
  else .ok { reading with found := reading.found ++ [(slot.name, value)], waiting := none }

/-- Reads the value of a slot. -/
def fill (reading : Reading) (slot : Slot) (word : Text) : Except Stop Reading :=
  match slot.kind.read? word with
  | some value => reading.record slot value
  | none => .error (.fault (.badValue slot.name word))

/-- Reads the value that is waiting. -/
def settle (reading : Reading) : Except Stop Reading :=
  match reading.waiting with
  | none => .ok reading
  | some ⟨slot, some word⟩ => { reading with waiting := none }.fill slot word
  | some ⟨slot, none⟩ => .error (.fault (.noValue slot.name))

/-- Follows a switch, with the value that is attached to it. -/
def follow (reading : Reading) (switch : Switch) (attached : Option Text) :
    Except Stop Reading := do
  let reading ← reading.settle
  match switch.effect, attached with
  | .value kind repeatable, some word => reading.fill ⟨switch.name, kind, repeatable, []⟩ word
  | .value kind repeatable, none =>
    return { reading with waiting := some ⟨⟨switch.name, kind, repeatable, []⟩, none⟩ }
  | _, some word => throw (.fault (.unexpected word))
  | .mark, none => reading.record ⟨switch.name, .text, false, []⟩ .mark
  | .help, none => throw (.help reading.commands)
  | .version, none => throw .version

/-- Whether the letters of a switch end the word: what follows them is its value. -/
def takesRest (switch : Switch) : Bool :=
  match switch.effect with
  | .value _ _ => true
  | _ => false

/-- Follows switches that are written as letters after one dash. -/
def followLetters (reading : Reading) : Text → Except Stop Reading
  | [] => .ok reading
  | letter :: rest =>
    match reading.form.letter? letter with
    | none => .error (.fault (.unexpected ['-', letter]))
    | some switch =>
      if takesRest switch then
        reading.follow switch <|
          match rest with
          | [] => none
          | '=' :: word => some word
          | word => some word
      else do
        let reading ← reading.follow switch none
        reading.followLetters rest

/-- Follows a switch that is written with two dashes; its value may follow an equals sign. -/
def followName (reading : Reading) (word : Text) : Except Stop Reading :=
  let (name, attached) := match Text.splitOnce? '=' word with
    | some (name, value) => (name, some value)
    | none => (word, none)
  match reading.form.switch? name with
  | some switch => reading.follow switch attached
  | none => .error (.fault (.unexpected ("--".toList ++ word)))

/-- Takes a word as the next operand. -/
def operand (reading : Reading) (word : Text) : Except Stop Reading := do
  match reading.operands with
  | [] =>
    throw (.fault (if reading.form.commands.isEmpty then .unexpected word
      else .unknownCommand word))
  | slot :: rest =>
    let reading ← reading.settle
    return { reading with waiting := some ⟨slot, some word⟩, operands := rest }

/-- Whether the next word is the value of a switch, unless it begins with a dash. -/
def wantsWord (reading : Reading) : Bool :=
  reading.waiting.any fun waiting => waiting.word.isNone

/-- Takes a word that is no command. -/
def take (reading : Reading) (word : Text) : Except Stop Reading :=
  if reading.onlyOperands then reading.operand word
  else match word with
    | ['-', '-'] => .ok { reading with onlyOperands := true }
    | '-' :: '-' :: rest => reading.followName rest
    | '-' :: letter :: rest => reading.followLetters (letter :: rest)
    | word =>
      match reading.waiting with
      | some ⟨slot, none⟩ => .ok { reading with waiting := some ⟨slot, some word⟩ }
      | _ => reading.operand word

/-- Whether a word is a command here. -/
def isCommand (reading : Reading) (word : Text) : Bool :=
  !reading.onlyOperands && !reading.wantsWord && reading.form.commands.contains word

/-- Takes words up to the first command, which comes with the words after it. -/
def takeAll (reading : Reading) : List Text → Except Stop (Reading × Option (Text × List Text))
  | [] => .ok (reading, none)
  | word :: rest =>
    if reading.isCommand word then .ok (reading, some (word, rest))
    else do
      let reading ← reading.take word
      reading.takeAll rest

/-- The findings of a form that has been read, if nothing is missing. -/
def finish (reading : Reading) (hasCommand : Bool) : Except Stop Findings := do
  let reading ← reading.settle
  if !hasCommand && !reading.form.commands.isEmpty then throw (.fault .noCommand)
  match reading.operands with
  | slot :: _ => throw (.fault (.missing slot.name))
  | [] => return reading.found

end Reading

end Docket.CommandLine
