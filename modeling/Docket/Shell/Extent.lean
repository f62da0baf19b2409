import Docket.Shell.Usage

/-! Files shown: one after the other, with what cannot be seen made visible, or their fronts and
ends. -/

namespace Docket.Shell.Extent

/-- A text up to and with so many marks. -/
def takeLines (mark : Char) : Nat → Text → Text
  | 0, _ => []
  | _, [] => []
  | count + 1, char :: rest =>
    if char = mark then char :: takeLines mark count rest
    else char :: takeLines mark (count + 1) rest

/-- A text after so many marks. -/
def dropLines (mark : Char) : Nat → Text → Text
  | 0, text => text
  | _, [] => []
  | count + 1, char :: rest =>
    if char = mark then dropLines mark count rest else dropLines mark (count + 1) rest

/-- How many units a letter stands for. -/
def unit? (text : Text) : Option Nat :=
  let powers := "kMGTPEZYRQ".toList
  match text with
  | [] => some 1
  | ['b'] => some 512
  | letter :: rest =>
    let letter := if letter = 'K' then 'k' else if letter = 'm' then 'M' else letter
    let place := powers.idxOf letter
    if place = powers.length then none
    else if rest.isEmpty || rest = "iB".toList then some (Nat.pow 1024 (place + 1))
    else if rest = ['B'] then some (Nat.pow 1000 (place + 1))
    else none

/-- The number that digits and a unit stand for. -/
def count? (text : Text) : Option Nat := do
  let digits := text.takeWhile Char.isDigit
  let count ← Text.natural? digits
  return count * (← unit? (text.drop digits.length))

/-- Which part of a text is asked for. -/
structure Wish where
  bytes : Bool := false
  /-- A sign in front of the number. -/
  sign : Option Char := none
  count : Nat := 10
  mark : Char := '\n'

/-- The number of the parts of a text that a mark ends. -/
def lineCount (mark : Char) (text : Text) : Nat :=
  (Filter.linesAt mark text).length

/-- The front of a text; with a minus sign, all but so much at the end. -/
def Wish.front (wish : Wish) (text : Text) : Text :=
  let fromEnd := wish.sign = some '-'
  if wish.bytes then
    text.take (if fromEnd then text.length - wish.count else wish.count)
  else
    takeLines wish.mark
      (if fromEnd then lineCount wish.mark text - wish.count else wish.count) text

/-- The end of a text; with a plus sign, all from a position on. -/
def Wish.back (wish : Wish) (text : Text) : Text :=
  let fromFront := wish.sign = some '+'
  if wish.bytes then
    text.drop (if fromFront then wish.count - 1 else text.length - wish.count)
  else
    dropLines wish.mark
      (if fromFront then wish.count - 1 else lineCount wish.mark text - wish.count) text

/-- The options of a program. -/
def usage (name others : String) : Usage where
  name := name
  plain := "qvz" ++ others
  valued := "cn"
  long := [("bytes", 'c'), ("lines", 'n'), ("quiet", 'q'), ("silent", 'q'), ("verbose", 'v'),
    ("zero-terminated", 'z')] ++ if others.isEmpty then [] else [("follow", 'f')]

/-- Words in which a number of lines alone is spelled as an option, with other letters behind. -/
def spelled (words : List Text) : List Text :=
  match words with
  | ('-' :: first :: rest) :: others =>
    let digits := (first :: rest).takeWhile Char.isDigit
    let letters := (first :: rest).drop digits.length
    if digits.isEmpty then words
    else if letters.all "cqvz".toList.elem then
      let kind := if List.elem 'c' letters then "-c" else "-n"
      let options := letters.filter (· != 'c')
      (kind.toList ++ digits) :: (options.map fun letter => ['-', letter]) ++ others
    else words
  | words => words

/-- The same for the end of one file. Here a plus sign counts from the front, and the letter of a
unit and one that waits for more may follow. -/
def spelledBack (words : List Text) : List Text :=
  let isOption : Text → Bool
    | '-' :: _ :: _ => true
    | _ => false
  let isAlone := match words with
    | [_] => true
    | [_, file] => !isOption file
    | [_, mark, _] => mark = ['-', '-']
    | _ => false
  match words with
  | (sign :: first :: rest) :: others =>
    let digits := (first :: rest).takeWhile Char.isDigit
    let letters := (first :: rest).drop digits.length
    let unit := letters.takeWhile "bcl".toList.elem
    let after := letters.drop unit.length
    if (sign = '-' || sign = '+') && isAlone && !digits.isEmpty && unit.length < 2 &&
        (after = [] || after = ['f']) then
      let kind := if unit = [] || unit = ['l'] then "-n" else "-c"
      let count := if unit = ['b'] then digits ++ ['b'] else digits
      (kind.toList ++ sign :: count) :: (after.map fun letter => ['-', letter]) ++ others
    else words
  | words => words

/-- A digit that stands as an option where it must not. -/
def strayDigit? (given : Given) : Option Char :=
  (given.options.map Prod.fst).find? Char.isDigit

/-- What is asked for, or what is wrong with it. -/
def wish? (given : Given) : Except Text Wish :=
  let mark := if given.has 'z' then '\x00' else '\n'
  let sized := given.options.filter fun (letter, _) => letter = 'c' || letter = 'n'
  let wrong? := sized.find? fun (_, value) =>
    (count? (if "+-".toList.any (some · = value.head?) then value.drop 1 else value)).isNone
  match wrong?, sized.getLast? with
  | some (letter, value), _ =>
    let kind := if letter = 'c' then "bytes" else "lines"
    .error (("invalid number of " ++ kind ++ ": '").toList ++ value ++ ['\''])
  | none, none => .ok { mark }
  | none, some (letter, value) =>
    let sign := value.head?.filter "+-".toList.elem
    .ok { bytes := letter = 'c', sign, mark
          count := (count? (if sign.isSome then value.drop 1 else value)).getD 0 }

/-- Prints a part of each file. -/
def partOf (usage : Usage) (spell : List Text → List Text) (part : Wish → Text → Text) :
    Utility := fun words =>
  (usage.program fun given => do
    if let some digit := strayDigit? given then
      Filter.complain usage.name ("option used in invalid context -- ".toList ++ [digit])
      return 1
    match wish? given with
    | .error message =>
      Filter.complain usage.name message
      return 1
    | .ok wish =>
      if usage.name = "tail" && wish.count = 0 && wish.sign != some '+' && !given.has 'f' then
        return 0
      let paths := if given.operands.isEmpty then [['-']] else given.operands
      let many := (1 < paths.length || given.has 'v') && !given.has 'q'
      let mut status := 0
      let mut isFirst := true
      for path in paths do
        let name := if path = ['-'] then "standard input".toList else path
        let heading := (if isFirst then [] else ['\n']) ++ "==> ".toList ++ name ++
          " <==\n".toList
        match ← Filter.read path with
        | .ok text =>
          if many then State.print heading
          isFirst := false
          State.print (part wish text)
        | .error .isFolder =>
          if many then State.print heading
          isFirst := false
          Filter.complain usage.name ("error reading '".toList ++ path ++
            "': Is a directory".toList)
          status := 1
        | .error fault =>
          Filter.complain usage.name
            ("cannot open '".toList ++ path ++ "' for reading: ".toList ++ Filter.wording fault)
          status := 1
      if given.has 'f' && !given.operands.isEmpty then State.stop .late
      return status) (spell words)

/-- The front of each file. -/
def head : Utility :=
  partOf (usage "head" "") spelled Wish.front

/-- The end of each file. -/
def tail : Utility :=
  partOf (usage "tail" "fF0123456789") spelledBack Wish.back

end Docket.Shell.Extent

namespace Docket.Shell.Showing

/-- The options of the program. -/
def usage : Usage where
  name := "cat"
  plain := "AbeEnstTuv"
  long := [("number-nonblank", 'b'), ("number", 'n'), ("squeeze-blank", 's'),
    ("show-nonprinting", 'v'), ("show-ends", 'E'), ("show-tabs", 'T'), ("show-all", 'A')]

/-- How text is shown. -/
structure Manner where
  ends : Bool
  tabs : Bool
  controls : Bool
  numbers : Bool
  /-- Only lines with something in them are numbered. -/
  numbersFilled : Bool
  squeezes : Bool

/-- The manner that options ask for. -/
def Manner.ofGiven (given : Given) : Manner :=
  let has (letters : String) : Bool := letters.toList.any given.has
  { ends := has "AeE", tabs := has "AtT", controls := has "Aetv", numbers := has "n"
    numbersFilled := has "b", squeezes := has "s" }

/-- A character as it is shown. -/
def Manner.char (manner : Manner) (char : Char) : Text :=
  let code := char.toNat
  let plain (code : Nat) : Text :=
    if code < 32 then ['^', Char.ofNat (code + 64)]
    else if code = 127 then ['^', '?'] else [Char.ofNat code]
  if char = '\t' then if manner.tabs then ['^', 'I'] else [char]
  else if !manner.controls then [char]
  else if code < 128 then plain code
  else ['M', '-'] ++ plain (code - 128)

/-- The front of a line with a number. -/
def numbered (number : Nat) : Text :=
  let digits := Text.ofNat number
  List.replicate (6 - digits.length) ' ' ++ digits ++ ['\t']

/-- A line as it is shown. -/
def Manner.line (manner : Manner) (line : Text) : Text :=
  let isReturned := manner.ends && line.getLast? = some '\r' && !manner.controls
  if isReturned then line.dropLast.flatMap manner.char ++ "^M".toList
  else line.flatMap manner.char

/-- Lines as they are shown. `number` is that of the line before, and `blank` tells that it was
empty. The last line has no end. -/
def Manner.lines (manner : Manner) (number : Nat) (blank : Bool) : List Text → Text
  | [] => []
  | [last] =>
    if last.isEmpty then []
    else (if manner.numbers || manner.numbersFilled then numbered (number + 1) else []) ++
      last.flatMap manner.char
  | line :: rest =>
    if manner.squeezes && blank && line.isEmpty then manner.lines number true rest
    else
      let counts := if manner.numbersFilled then !line.isEmpty else manner.numbers
      let front := if counts then numbered (number + 1) else []
      let close : Text := if manner.ends then ['$', '\n'] else ['\n']
      front ++ manner.line line ++ close ++
        manner.lines (if counts then number + 1 else number) line.isEmpty rest

/-- Whether a file is where output goes. -/
def isOutput (path text : Text) : Work Bool := do
  let state ← get
  match state.channels.get? State.outputDescriptor, state.disk.find (Bytes.decode path) with
  | some (.file target), .ok (location, _) => return target = location && !text.isEmpty
  | _, _ => return false

/-- Prints files one after the other. -/
def program : Utility := usage.program fun given => do
  let mut texts := []
  let mut status := 0
  for path in if given.operands.isEmpty then [['-']] else given.operands do
    match ← Filter.read path with
    | .ok text =>
      if ← isOutput path text then
        Filter.complain "cat" (path ++ ": input file is output file".toList)
        status := 1
      else texts := text :: texts
    | .error fault =>
      Filter.complain "cat" (path ++ ": ".toList ++ Filter.wording fault)
      status := 1
  let text := texts.reverse.flatten
  if given.options.all (·.1 == 'u') then State.print text
  else State.print ((Manner.ofGiven given).lines 0 false (Filter.cutAt '\n' text))
  return status

end Docket.Shell.Showing
