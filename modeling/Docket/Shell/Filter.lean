import Docket.Shell.Printing
import Docket.Shell.State
import Docket.Text.Order

/-! Filters: programs that print texts, or what they make of the texts they read. -/

namespace Docket.Shell

/-- A program does its work with its arguments and ends with a status. -/
abbrev Utility := List Text → Work Nat

/-- What starts another program with arguments, waits for it and tells its status. -/
abbrev Launcher := Text → List Text → Work (Except PathFault Nat)

namespace Filter

/-- Writes a message of a program. -/
def complain (name : String) (message : Text) : Work Unit :=
  State.complain (name.toList ++ ": ".toList ++ message)

/-- Writes a message of a program, and how to get help. -/
def complainWithHint (name : String) (message : Text) : Work Nat := do
  complain name message
  State.complain ("Try '".toList ++ name.toList ++ " --help' for more information.".toList)
  return 1

/-- The wording of the fault of a path. -/
def wording : PathFault → Text
  | .missing => "No such file or directory".toList
  | .notFolder => "Not a directory".toList
  | .isFolder => "Is a directory".toList
  | .present => "File exists".toList
  | .unusable => "File name too long".toList
  | .refused => "Permission denied".toList

/-- How much is read of what has no end, as no reader wants more. -/
def abundance : Nat := 0x40000

/-- The text that a path leads to; a dash leads to the input. -/
def read (path : Text) : Work (Except PathFault Text) := do
  if path = ['-'] then return .ok (← State.readAll State.inputDescriptor)
  if path = "/dev/null".toList then return .ok []
  if path = "/dev/zero".toList then return .ok (List.replicate abundance '\x00')
  let state ← get
  match state.disk.find (Bytes.decode path) with
  | .error fault => return .error fault
  | .ok (_, .folder) => return .error .isFolder
  | .ok _ => return .ok ((state.fileBytes? path).getD [])

/-- The options in front of other arguments, and those arguments. Two dashes end the options. -/
def options : List Text → List Text × List Text
  | [] => ([], [])
  | ['-', '-'] :: rest => ([], rest)
  | ('-' :: letter :: letters) :: rest =>
    let (found, others) := options rest
    (('-' :: letter :: letters) :: found, others)
  | rest => ([], rest)

/-- Whether a letter is among options. -/
def hasLetter (letter : Char) (options : List Text) : Bool :=
  options.any fun option => List.elem letter (option.drop 1)

/-- A text cut at a mark. -/
def cutAt (mark : Char) (text : Text) : List Text :=
  text.foldr
    (fun char pieces => if char = mark then [] :: pieces else
      match pieces with
      | piece :: others => (char :: piece) :: others
      | [] => [[char]]) [[]]

/-- The pieces of a text that a mark ends, without the mark. -/
def linesAt (mark : Char) (text : Text) : List Text :=
  let pieces := cutAt mark text
  if pieces.getLast? = some [] then pieces.dropLast else pieces

/-- The lines of a text, without their ends. -/
def lines (text : Text) : List Text :=
  linesAt '\n' text

/-- Lines with their ends. -/
def unlines (lines : List Text) : Text :=
  lines.flatMap (· ++ ['\n'])

/-- Works on each of the files, or on the input if there are none. -/
def overFiles (name : String) (files : List Text) (work : Text → Text → Work Unit) :
    Work Nat := do
  let mut status := 0
  for path in if files.isEmpty then [['-']] else files do
    match ← read path with
    | .ok text => work path text
    | .error fault =>
      complain name (path ++ ": ".toList ++ wording fault)
      status := 1
  return status

/-- The number that digits stand for in a base of at most sixteen. -/
def numeral (base : Nat) (digits : Text) : Nat :=
  digits.foldl (fun value digit =>
    value * base + "0123456789abcdef".toList.idxOf digit.toLower) 0

/-- A text with its escapes replaced, of which each costs one of `fuel`, and whether one of them
ended it. -/
def unescaped (fuel : Nat) (text : Text) : Text × Bool :=
  let plain : List (Char × Char) := [('a', '\x07'), ('b', '\x08'), ('e', '\x1b'), ('f', '\x0c'),
    ('n', '\n'), ('r', '\x0d'), ('t', '\t'), ('v', '\x0b'), ('\\', '\\')]
  match fuel, text with
  | fuel + 1, '\\' :: letter :: rest =>
    let adding (shown rest : Text) : Text × Bool :=
      let (others, ended) := unescaped fuel rest
      (shown ++ others, ended)
    let octal := ((if letter = '0' then rest else letter :: rest).takeWhile fun char =>
      '0' ≤ char && char ≤ '7').take 3
    let hex := (rest.takeWhile fun char =>
      "0123456789abcdefABCDEF".toList.elem char).take 2
    let byte (value : Nat) : Text := [Char.ofNat (value % 256)]
    if letter = 'c' then ([], true)
    else if '0' ≤ letter && letter ≤ '7' then
      adding (byte (numeral 8 octal))
        ((if letter = '0' then rest else letter :: rest).drop octal.length)
    else if letter = 'x' && !hex.isEmpty then
      adding (byte (numeral 16 hex)) (rest.drop hex.length)
    else match plain.lookup letter with
      | some char => adding [char] rest
      | none => adding ['\\', letter] rest
  | fuel + 1, char :: rest =>
    let (others, ended) := unescaped fuel rest
    (char :: others, ended)
  | _, _ => ([], false)

/-- Echoes words on a line; options in front leave out its end or follow escapes. -/
def echo : Utility := fun arguments => do
  let isOption (word : Text) : Bool :=
    1 < word.length && word.head? == some '-' &&
      (word.drop 1).all fun char => "neE".toList.elem char
  let options := arguments.takeWhile isOption
  let text := Text.join [' '] (arguments.drop options.length)
  let escapes := (options.flatten.reverse.find? fun char => char == 'e' || char == 'E') = some 'e'
  let (shown, ended) := if escapes then unescaped (text.length + 1) text else (text, false)
  State.print (if ended || hasLetter 'n' options then shown else shown ++ ['\n'])
  return 0

/-- The milliseconds of a time with a unit. -/
def duration? (word : Text) : Option Nat :=
  let (digits, unit) := match word.getLast? with
    | some 's' => (word.dropLast, 1)
    | some 'm' => (word.dropLast, 60)
    | some 'h' => (word.dropLast, 3600)
    | some 'd' => (word.dropLast, 86400)
    | _ => (word, 1)
  match if digits.head? = some '-' then none else Binary64.read? digits with
  | some (.finite units) => some (units.natAbs * unit * 1000 / Binary64.unitsInOne)
  | some (.infinite _) => some Text.wordCount
  | _ => none

/-- Repeats words on lines as long as they are read. -/
def yes : Utility := fun arguments => do
  let line := (if arguments.isEmpty then ['y'] else Text.join [' '] arguments) ++ ['\n']
  let state ← get
  let own := state.channels.get? State.outputDescriptor
  if own.all (fun channel => channel = .nowhere || channel = .buffer 0) then State.stop .late
  else State.print ((List.replicate (abundance / line.length) line).flatten)
  return 0

/-- Waits. -/
def sleep : Utility := fun arguments => do
  match arguments.find? fun argument => (duration? argument).isNone with
  | some argument =>
    complainWithHint "sleep" ("invalid time interval '".toList ++ argument ++ ['\''])
  | none =>
    if arguments.isEmpty then complainWithHint "sleep" "missing operand".toList
    else
      State.pass ((arguments.filterMap duration?).foldl (· + ·) 0)
      return 0

end Filter

end Docket.Shell
