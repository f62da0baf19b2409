import Docket.Shell.Regex.Reader
import Docket.Shell.Usage

/-! Numbering the lines of files, which may have sections. -/

namespace Docket.Shell.Numbering

/-- Which lines have numbers. -/
inductive Choice where
  | all
  | filled
  | none
  | matching (regex : Regex)

/-- The parts of a page, and how their lines are numbered. -/
structure Choices where
  header : Choice := .none
  body : Choice := .filled
  footer : Choice := .none

/-- How numbers are written. -/
structure Manner where
  first : Int := 1
  step : Int := 1
  /-- How many empty lines count as one. -/
  joined : Nat := 1
  width : Nat := 6
  /-- Whether zeros stand in front, blanks in front, or blanks behind. -/
  layout : Text := "rn".toList
  separator : Text := ['\t']
  marks : Text := "\\:".toList
  /-- Whether numbers go on from page to page. -/
  goesOn : Bool := false

/-- The usage of the program. -/
def usage : Usage :=
  { name := "nl", plain := "p", valued := "bdfhilnsvw", long := [
      ("header-numbering", 'h'), ("body-numbering", 'b'), ("footer-numbering", 'f'),
      ("starting-line-number", 'v'), ("line-increment", 'i'), ("no-renumber", 'p'),
      ("join-blank-lines", 'l'), ("number-separator", 's'), ("number-width", 'w'),
      ("number-format", 'n'), ("section-delimiter", 'd')] }

/-- The choice that a word stands for. -/
def choice? : Text → Except (Option Regex.Fault) Choice
  | ['a'] => .ok .all
  | ['t'] => .ok .filled
  | ['n'] => .ok .none
  | 'p' :: expression =>
    match Regex.read? { lenient := true } expression with
    | .ok regex => .ok (.matching regex)
    | .error fault => .error (some fault)
  | _ => .error none

/-- A number as it is written. -/
def Manner.number (manner : Manner) (number : Int) : Text :=
  let digits := Text.ofInt number
  let gap := List.replicate (manner.width - digits.length) ' '
  match String.ofList manner.layout with
  | "ln" => digits ++ gap
  | "rz" =>
    if number < 0 then '-' :: Text.padZeros (manner.width - 1) (digits.drop 1)
    else Text.padZeros manner.width digits
  | _ => gap ++ digits

/-- How far numbering has come: the next number, the choice in the current part, and how many empty
lines stand before. -/
structure Progress where
  number : Int
  current : Choice
  empty : Nat := 0

/-- The part that a line begins. -/
def section? (manner : Manner) (choices : Choices) (line : Text) : Option Choice :=
  let marks := manner.marks
  if marks.isEmpty then none
  else if line = marks ++ marks ++ marks then some choices.header
  else if line = marks ++ marks then some choices.body
  else if line = marks then some choices.footer
  else none

/-- What becomes of a line, and how far numbering has come with it. -/
def numbered (manner : Manner) (choices : Choices) (progress : Progress) (line : Text) :
    Text × Progress :=
  match section? manner choices line with
  | some current =>
    (['\n'], { progress with
      current, number := if manner.goesOn then progress.number else manner.first })
  | none =>
    let count := if line.isEmpty then progress.empty + 1 else progress.empty
    let counts : Bool := match progress.current with
      | .all => manner.joined ≤ 1 || !line.isEmpty || count = manner.joined
      | .filled => !line.isEmpty
      | .none => false
      | .matching regex => regex.isIn {} line
    if counts then
      (manner.number progress.number ++ manner.separator ++ line ++ ['\n'],
        { progress with number := progress.number + manner.step, empty := 0 })
    else
      (List.replicate (manner.width + manner.separator.length) ' ' ++ line ++ ['\n'],
        { progress with empty := count })

/-- The lines with their numbers, and how far numbering has come. -/
def pages (manner : Manner) (choices : Choices) :
    Progress → List Text → Text × Progress
  | progress, [] => ([], progress)
  | progress, line :: rest =>
    let (shown, progress) := numbered manner choices progress line
    let (others, progress) := pages manner choices progress rest
    (shown ++ others, progress)

/-- The whole number that an option asks for. -/
def number? (text : Text) : Option Int :=
  (Text.integer? text).map Int64.toInt

/-- The layout that options ask for, if there is such a one. -/
def layout? (given : Given) : Except Text Text :=
  let layout := (given.value? 'n').getD "rn".toList
  if ["ln", "rn", "rz"].contains (String.ofList layout) then .ok layout
  else .error layout

/-- The manner that options ask for with a layout, or what is wrong with them. -/
def manner? (given : Given) (layout : Text) : Except Text Manner := do
  let numeric (letter : Char) (default : Int) (least : Int) (what : String) :
      Except Text Int :=
    match given.value? letter with
    | none => .ok default
    | some text =>
      match number? text with
      | some number =>
        if least ≤ number then .ok number
        else .error ("invalid ".toList ++ what.toList ++ ": '".toList ++ text ++
          "': Numerical result out of range".toList)
      | none => .error ("invalid ".toList ++ what.toList ++ ": '".toList ++ text ++ ['\''])
  let marks := match (given.value? 'd').getD "\\:".toList with
    | [mark] => [mark, ':']
    | marks => marks
  return {
    first := ← numeric 'v' 1 (-Text.negativeCount) "starting line number"
    step := ← numeric 'i' 1 (-Text.negativeCount) "line number increment"
    joined := (← numeric 'l' 1 1 "line number of blank lines").toNat
    width := (← numeric 'w' 6 1 "line number field width").toNat
    layout, marks
    separator := (given.value? 's').getD ['\t']
    goesOn := given.has 'p' }

/-- The choices that options ask for, or what is wrong with them and whether it is the style. -/
def choices? (given : Given) : Except (Bool × Text) Choices := do
  let chosen (letter : Char) (default : Text) (part : String) : Except (Bool × Text) Choice :=
    let word := (given.value? letter).getD default
    (choice? word).mapError fun
      | some fault => (false, fault.message.toList)
      | none =>
        (true, "invalid ".toList ++ part.toList ++ " numbering style: '".toList ++ word ++ ['\''])
  return {
    header := ← chosen 'h' ['n'] "header"
    body := ← chosen 'b' ['t'] "body"
    footer := ← chosen 'f' ['n'] "footer" }

/-- Numbers the lines of files. -/
def program : Utility :=
  usage.program fun given => do
    let layout? := layout? given
    let layout := match layout? with
      | .ok layout => layout
      | .error layout => layout
    match choices? given, layout?, manner? given layout with
    | .error (true, message), _, _ => Filter.complainWithHint "nl" message
    | _, .error word, _ =>
      Filter.complainWithHint "nl" ("invalid line numbering format: '".toList ++ word ++ ['\''])
    | .error (false, message), _, _ | _, _, .error message =>
      Filter.complain "nl" message
      return 1
    | .ok choices, _, .ok manner =>
      let mut progress : Progress := { number := manner.first, current := choices.body }
      let mut status := 0
      for path in if given.operands.isEmpty then [['-']] else given.operands do
        match ← Filter.read path with
        | .ok text =>
          let (shown, next) := pages manner choices progress (Filter.lines text)
          State.print shown
          progress := next
        | .error fault =>
          Filter.complain "nl" (path ++ ": ".toList ++ Filter.wording fault)
          status := 1
      return status

end Docket.Shell.Numbering
