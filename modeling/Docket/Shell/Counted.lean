import Docket.Number.Notation
import Docket.Shell.Printing
import Docket.Shell.Usage

/-! Rows of numbers. -/

namespace Docket.Shell.Counted

/-- A decimal number: its digits, how many of them are places, and the width in which it is
written. -/
structure Decimal where
  digits : Int
  places : Nat
  width : Nat

namespace Decimal

/-- The number of a text. -/
def read? (text : Text) : Option Decimal := do
  let trimmed := text.dropWhile fun char => char == ' ' || char == '\t'
  let word := if trimmed.head? = some '+' then trimmed.drop 1 else trimmed
  let negative := word.head? = some '-'
  let size := if negative then word.drop 1 else word
  let whole := size.takeWhile Char.isDigit
  let rest := size.drop whole.length
  let hasPoint := rest.head? = some '.'
  let fraction := if hasPoint then (rest.drop 1).takeWhile Char.isDigit else []
  let rest := if hasPoint then rest.drop (fraction.length + 1) else rest
  let exponent : Int ← match rest with
    | [] => some 0
    | mark :: after =>
      if mark != 'e' && mark != 'E' then none
      else match after with
        | '-' :: digits => (Text.natural? digits).map fun count => -Int.ofNat count
        | '+' :: digits => (Text.natural? digits).map Int.ofNat
        | digits => (Text.natural? digits).map Int.ofNat
  let value ← Text.natural? (whole ++ fraction)
  let places := fraction.length
  let signed : Int := if negative then -Int.ofNat value else value
  let written : Int := Int.ofNat (word.length - rest.length) +
    (if !hasPoint then 0 else if places = 0 then -1 else if whole.isEmpty then 1 else 0)
  if exponent < 0 then
    let more := exponent.natAbs
    let point : Int := if hasPoint && places != 0 then 0 else 1
    return ⟨signed, places + more, (written + more + point).toNat⟩
  else
    let count := exponent.toNat
    let point : Int := if places != 0 && places ≤ count then -1 else 0
    return ⟨signed * Int.ofNat (Nat.pow 10 (count - places)), places - count,
      (written + Int.ofNat (count - places) + point).toNat⟩

/-- The digits of a number that has so many places. -/
def scaled (number : Decimal) (places : Nat) : Int :=
  number.digits * Int.ofNat (Nat.pow 10 (places - number.places))

end Decimal

/-- A format: what stands in front of the number, how it is written, and what follows. -/
structure Format where
  lead : Text := []
  directive : Printing.Directive
  tail : Text := []

namespace Format

/-- A text with double percent signs made single, up to a directive; and the directive and the rest,
if there is one. -/
def literal (fuel : Nat) (text : Text) : Text × Option Text :=
  match fuel, text with
  | fuel + 1, '%' :: '%' :: rest =>
    let (found, after) := literal fuel rest
    ('%' :: found, after)
  | _ + 1, '%' :: rest => ([], some rest)
  | fuel + 1, char :: rest =>
    let (found, after) := literal fuel rest
    (char :: found, after)
  | _, _ => ([], none)

/-- The format of a text. -/
def read? (text : Text) : Except Text Format := do
  let shown := "format '".toList ++ text ++ "' ".toList
  match literal (text.length + 1) text with
  | (_, none) => throw (shown ++ "has no % directive".toList)
  | (lead, some rest) =>
    let flags := rest.takeWhile "-+#0 '".toList.elem
    let rest := rest.drop flags.length
    let width := rest.takeWhile Char.isDigit
    let rest := rest.drop width.length
    let (places, rest) := match rest with
      | '.' :: rest =>
        let digits := rest.takeWhile Char.isDigit
        (some ((Text.natural? digits).getD 0), rest.drop digits.length)
      | rest => (none, rest)
    let rest := if rest.head? = some 'L' then rest.drop 1 else rest
    match rest with
    | [] => throw (shown ++ "ends in %".toList)
    | conversion :: rest =>
      if !"efgaEFGA".toList.elem conversion then
        throw (shown ++ "has unknown %".toList ++ conversion :: " directive".toList)
      match literal (rest.length + 1) rest with
      | (_, some _) => throw (shown ++ "has too many % directives".toList)
      | (tail, none) =>
        return ⟨lead, ⟨flags, (Text.natural? width).getD 0, places, conversion⟩, tail⟩

/-- A number with so many places in a format. -/
def text (format : Format) (digits : Int) (places : Nat) : Text :=
  let directive := format.directive
  let size := directive.decimal digits.natAbs (Nat.pow 10 places)
  format.lead ++
    Printing.pad directive (directive.has '0') (directive.sign (digits < 0) ++ size) ++
      format.tail

end Format

/-- The options of the program. -/
def usage : Usage where
  name := "seq"
  plain := "w"
  valued := "fs"
  long := [("equal-width", 'w'), ("format", 'f'), ("separator", 's')]
  strict := true

/-- Words in which numbers are no options. -/
def guarded : List Text → List Text
  | [] => []
  | word :: rest =>
    match word with
    | '-' :: next :: _ =>
      if next.isDigit || next = '.' then ['-', '-'] :: word :: rest
      else if word = ['-', '-'] then word :: rest
      else if word = ['-', 's'] || word = ['-', 'f'] then
        word :: (rest.take 1 ++ guarded (rest.drop 1))
      else word :: guarded rest
    | _ => word :: rest
termination_by words => words.length
decreasing_by all_goals simp; try omega

/-- The format in which numbers are written if none was given. -/
def usualFormat (isWide : Bool) (first step last : Decimal) : Format :=
  let places := max first.places step.places
  let widthOf (number : Decimal) : Nat := number.width + (places - number.places) +
    (if number.places = 0 && 0 < places then 1 else 0)
  let lastWidth := if places < last.places then
      last.width - (last.places - places) - (if places = 0 then 1 else 0)
    else widthOf last
  { directive :=
      ⟨['0'], if isWide then max (widthOf first) lastWidth else 0, some places, 'f'⟩ }

/-- The most numbers that are printed, as no reader wants more. -/
def abundance : Nat := 3000000

/-- The numbers from one to another. -/
def row (first step last : Decimal) : List Int × Nat :=
  let places := max (max first.places step.places) last.places
  let start := first.scaled places
  let width := step.scaled places
  let count := ((last.scaled places - start) / width + 1).toNat
  ((List.range (min count abundance)).map fun index => start + width * Int.ofNat index, places)

/-- Prints a row of numbers. -/
def program : Utility := fun words =>
  (usage.program fun given => do
    match given.operands.find? fun word => (Decimal.read? word).isNone with
    | some word =>
      usage.refuse ("invalid floating point argument: '".toList ++ word ++ ['\''])
    | none =>
      let one : Decimal := ⟨1, 0, 1⟩
      let numbered (first step last : Decimal) : Work Nat := do
        if step.digits = 0 then
          usage.refuse ("invalid Zero increment value: '".toList ++
            (given.operands[1]?).getD [] ++ ['\''])
        else if given.has 'f' && given.has 'w' then
          usage.refuse ("format string may not be specified" ++
            " when printing equal width strings").toList
        else
          match (given.value? 'f').map Format.read? with
          | some (.error message) =>
            Filter.complain "seq" message
            return 1
          | found =>
            let format := match found with
              | some (.ok format) => format
              | _ => usualFormat (given.has 'w') first step last
            let (numbers, places) := row first step last
            let between := (given.value? 's').getD ['\n']
            let texts := numbers.map fun digits => format.text digits places
            unless texts.isEmpty do State.print (Text.join between texts ++ ['\n'])
            return 0
      match given.operands.filterMap Decimal.read? with
      | [last] => numbered one one last
      | [first, last] => numbered first one last
      | [first, step, last] => numbered first step last
      | [] => usage.refuse "missing operand".toList
      | _ =>
        usage.refuse ("extra operand '".toList ++ (given.operands[3]?).getD [] ++ ['\'']))
    (guarded words)

end Docket.Shell.Counted
