import Docket.Shell.Awk.Reader
import Docket.Shell.Awk.Run

/-! The command line of scripts that work on records. -/

namespace Docket.Shell.Awk

/-- What a command line asks for. -/
structure Request where
  separator : Option Text := none
  assignments : List (Text × Value) := []
  /-- The files with the script. -/
  files : List Text := []
  operands : List Text := []
  wantsVersion : Bool := false
  wantsHelp : Bool := false

namespace Request

/-- What is wrong with a word that should be an assignment. -/
def improper (word : Text) : Text :=
  "improper assignment: -v ".toList ++ word

/-- A request with an option and its value. -/
def withOption (request : Request) (letter : Char) (value : Text) : Except Text Request :=
  match letter with
  | 'F' => .ok { request with separator := some (Token.unescape (value.length + 1) value) }
  | 'f' => .ok { request with files := request.files ++ [value] }
  | _ =>
    match Argument.assignment? value with
    | some assignment => .ok { request with assignments := request.assignments ++ [assignment] }
    | none => .error (improper value)

/-- Whether a word is the beginning of another one. -/
def begins (word : Text) (whole : String) : Bool :=
  !word.isEmpty && Text.startsWith whole.toList word

/-- Reads a command line, or tells what is wrong with it. Each word costs one of `fuel`. -/
def read? (fuel : Nat) (request : Request) (words : List Text) : Except Text Request :=
  match fuel, words with
  | _, ['-', '-'] :: rest => .ok { request with operands := rest }
  | fuel + 1, ('-' :: '-' :: word) :: rest =>
    if begins word "version" then .ok { request with wantsVersion := true }
    else if begins word "help" || begins word "usage" then
      .ok { request with wantsHelp := true }
    else if begins word "lint" then read? fuel request rest
    else .error ("not an option: --".toList ++ word)
  | fuel + 1, ('-' :: letter :: value) :: rest =>
    if "Fvf".toList.elem letter then
      match value, rest with
      | [], [] => .error ("option -".toList ++ letter :: " lacks argument".toList)
      | [], value :: rest => (request.withOption letter value).bind (read? fuel · rest)
      | value, rest => (request.withOption letter value).bind (read? fuel · rest)
    else if letter = 'W' then
      let (word, rest) := if value.isEmpty then (rest.head?.getD [], rest.drop 1)
        else (value, rest)
      if begins word "version" then .ok { request with wantsVersion := true }
      else if begins word "help" || begins word "usage" then
        .ok { request with wantsHelp := true }
      else read? fuel request rest
    else .error ("not an option: -".toList ++ letter :: value)
  | _, rest => .ok { request with operands := rest }

end Request

/-- How the program is used. -/
def help : List String := [
  "Usage: mawk [Options] [Program] [file ...]",
  "",
  "Program:",
  "    The -f option value is the name of a file containing program text.",
  "    If no -f option is given, a \"--\" ends option processing; the following",
  "    parameters are the program text.",
  "",
  "Options:",
  "    -f program-file  Program  text is read from file instead of from the",
  "                     command-line.  Multiple -f options are accepted.",
  "    -F value         sets the field separator, FS, to value.",
  "    -v var=value     assigns value to program variable var.",
  "    --               unambiguous end of options.",
  "",
  "    Implementation-specific options are prefixed with \"-W\".  They can be",
  "    abbreviated:",
  "",
  "    -W version       show version information and exit.",
  "    -W compat        pre-POSIX 2001.",
  "    -W dump          show assembler-like listing of program and exit.",
  "    -W help          show this message and exit.",
  "    -W interactive   set unbuffered output, line-buffered input.",
  "    -W exec file     use file as program as well as last option.",
  "    -W posix         stricter POSIX checking.",
  "    -W random=number set initial random seed.",
  "    -W sprintf=number adjust size of sprintf buffer.",
  "    -W usage         show this message and exit."]

/-- Which version of the program this is. -/
def version : List String := [
  "mawk 1.3.4 20240123",
  "compiled limits:",
  "sprintf buffer      8192",
  "maximum-integer     9223372036854775808"]

/-- Lines as they are printed. -/
def shown (lines : List String) : Text :=
  Filter.unlines (lines.map String.toList)

/-- Refuses to work, with a message. -/
def refused (message : Text) : Work Nat := do
  State.complain ("awk: ".toList ++ message)
  return 2

/-- What is said about a script that cannot be read. `file` is where it comes from. -/
def Fault.shown (fault : Fault) (file : Option Text) : Text :=
  let line := (fault.line.elim [] Text.ofNat) ++ ": ".toList
  if Text.startsWith fault.message "unexpected character".toList then line ++ fault.message
  else (file.elim [] fun name => name ++ ": ".toList) ++ "line ".toList ++ line ++ fault.message

/-- A machine before it has done anything. -/
def Machine.fresh (launch : Launcher) (script : Script) : Machine :=
  let preset : List (String × Value) := [
    ("FS", .text [' ']), ("OFS", .text [' ']), ("RS", .text ['\n']), ("ORS", .text ['\n']),
    ("SUBSEP", .text ['\x1c']), ("CONVFMT", .text "%.6g".toList), ("OFMT", .text "%.6g".toList),
    ("NR", .ofNat 0), ("FNR", .ofNat 0), ("RSTART", .ofNat 0), ("RLENGTH", .number (-1)),
    ("FILENAME", .text [])]
  let named := preset.foldl
    (fun (globals : Std.HashMap Text Slot) (name, value) =>
      globals.insert name.toList (.value value)) {}
  let functions := script.functions.foldl
    (fun (known : Std.HashMap Text Function) (name, function) => known.insert name function) {}
  { launch, functions, globals := named }

/-- Makes an array of a name. -/
def Machine.fill (name : String) (entries : List (Key × Value)) : Play Unit := do
  let number ← tableOf name.toList
  putTable number (entries.foldl (fun table (key, value) => table.put key value) {})

/-- Sets the variables that tell of the command line, and runs the script. -/
def perform (request : Request) (script : Script) (operands : List Text) : Play Unit := do
  let state ← Play.work get
  let exported := state.bindings.entries.filter fun (name, _) => state.exported.contains name
  Machine.fill "ENVIRON" (exported.map fun (name, value) => (.text name, .ofInput value))
  let words := "awk".toList :: operands
  Machine.fill "ARGV" (words.zipIdx.map fun (word, index) =>
    (.number (Int.ofNat index), .ofInput word))
  Machine.assign "ARGC".toList (.ofNat words.length)
  if let some separator := request.separator then
    Machine.assign "FS".toList (.text separator)
  for (name, value) in request.assignments do Machine.assign name value
  let _ ← Separator.ofText (← Machine.textOf "FS")
  Run.script script

/-- Ends a script for some reason: all that is written to is closed, and the status is told. -/
def ending (launch : Launcher) (script : Script) (request : Request) (operands : List Text) :
    Work Nat := do
  let (stop, machine) ← ((perform request script operands).run).run (Machine.fresh launch script)
  let closed : Work Unit := do
    let _ ← ((Stream.closeAll).run).run machine
  match stop with
  | .error (.fault message) =>
    closed
    let named (name : String) : Text := match machine.globals.get? name.toList with
      | some (.value found) => found.toText "%.6g".toList
      | _ => []
    refused ("run time error: ".toList ++ message ++ "\n\tFILENAME=\"".toList ++
      named "FILENAME" ++ "\" FNR=".toList ++ named "FNR" ++ " NR=".toList ++ named "NR")
  | .error (.refusal message) =>
    closed
    refused message
  | .error .late =>
    State.stop .late
    return machine.status
  | _ => return machine.status

/-- The texts of files one after the other, or the first that cannot be read. -/
def sources (files : List Text) : Work (Except Text Text) := do
  let mut found := []
  for file in files do
    match ← Filter.read file with
    | .ok text => found := found ++ [text]
    | .error fault => return .error (Stream.refusal file fault)
  return .ok found.flatten

/-- Works on records with a script. -/
def program (launch : Launcher) : Utility := fun words => do
  match Request.read? (words.length + 1) {} words with
  | .error message => refused message
  | .ok request =>
    if request.wantsVersion then
      State.print (shown version)
      return 0
    else if request.wantsHelp then
      State.print (shown help)
      return 0
    else match request.files, request.operands with
      | [], [] =>
        State.writeTo State.errorDescriptor (shown help)
        return 0
      | [], source :: operands =>
        match Script.read? source with
        | .error fault => refused (fault.shown none)
        | .ok script => ending launch script request operands
      | files, operands =>
        match ← sources files with
        | .error message => refused message
        | .ok source =>
          match Script.read? source with
          | .error fault => refused (fault.shown files.getLast?)
          | .ok script => ending launch script request operands

end Docket.Shell.Awk
