import Docket.Shell.Numeral
import Docket.Text.Order

/-! Orders of lines: as texts, as numbers of several kinds, and by parts of the lines. -/

namespace Docket.Shell.Sorting

/-- What a part of a line is taken for. -/
inductive Kind where
  | text
  | number
  /-- A number with an exponent. -/
  | general
  /-- A number with a letter for its unit. -/
  | human
  | month
  | version
deriving DecidableEq

/-- How parts of lines are compared. -/
structure Manner where
  kind : Kind := .text
  reverse : Bool := false
  anyCase : Bool := false
  /-- Only letters, digits and blanks count. -/
  dictionary : Bool := false
  /-- Only characters that can be seen count. -/
  visible : Bool := false
  skipsBlanks : Bool := false
  skipsBlanksAtStop : Bool := false
deriving DecidableEq

/-- A part of lines: from a character of a field, both counted from zero, up to another one. The
end of a part is so many fields and characters into the line. -/
structure Key where
  field : Nat := 0
  char : Nat := 0
  stop : Option (Nat × Nat) := none
  manner : Manner := {}

/-- The order of two texts. -/
def compareTexts (left right : Text) : Ordering :=
  if Text.before left right then .lt else if Text.before right left then .gt else .eq

/-- Whether a character is blank. -/
def isBlank (char : Char) : Bool :=
  char == ' ' || char == '\t' || char == '\n'

/-- A number of any size. -/
structure Decimal where
  negative : Bool
  whole : Text
  fraction : Text

namespace Decimal

/-- The number at the front of a text, and what follows it. -/
def leading (text : Text) : Decimal × Text :=
  let trimmed := text.dropWhile isBlank
  let (negative, size) := match trimmed with
    | '-' :: rest => (true, rest)
    | rest => (false, rest)
  let whole := size.takeWhile Char.isDigit
  let rest := size.drop whole.length
  let fraction := match rest with
    | '.' :: rest => rest.takeWhile Char.isDigit
    | _ => []
  ({ negative, whole := whole.dropWhile (· == '0')
     fraction := (fraction.reverse.dropWhile (· == '0')).reverse },
    if fraction.isEmpty then rest else rest.drop (fraction.length + 1))

/-- Whether a number is zero. -/
def isZero (number : Decimal) : Bool :=
  number.whole.isEmpty && number.fraction.isEmpty

/-- The order of the sizes of two numbers. -/
def compareSizes (left right : Decimal) : Ordering :=
  ((compare left.whole.length right.whole.length).then (compareTexts left.whole right.whole)).then
    (compareTexts left.fraction right.fraction)

/-- The order of two numbers. -/
def order (left right : Decimal) : Ordering :=
  if left.isZero && right.isZero then .eq
  else if left.isZero then if right.negative then .gt else .lt
  else if right.isZero then if left.negative then .lt else .gt
  else if left.negative != right.negative then if left.negative then .lt else .gt
  else if left.negative then compareSizes right left
  else compareSizes left right

end Decimal

/-- The order of two texts as numbers with exponents; what is no number comes first. -/
def compareGeneral (left right : Text) : Ordering :=
  let rank (text : Text) : Nat × Float :=
    let (value, rest) := Numeral.leading text
    if rest.length = text.length then (0, 0) else if value != value then (1, 0) else (2, value)
  let (first, low) := rank left
  let (second, high) := rank right
  (compare first second).then (if low < high then .lt else if high < low then .gt else .eq)

/-- The order of two texts as numbers with units. -/
def compareHuman (left right : Text) : Ordering :=
  let rank (text : Text) : Int × Decimal :=
    let (number, rest) := Decimal.leading text
    let place := match rest with
      | 'k' :: _ => 1
      | unit :: _ =>
        let found := "KMGTPEZYRQ".toList.idxOf unit
        if found < 10 then found + 1 else 0
      | [] => 0
    (if number.isZero then 0 else if number.negative then -Int.ofNat place else place, number)
  let (first, low) := rank left
  let (second, high) := rank right
  if low.negative == high.negative || low.isZero || high.isZero then
    (compare first second).then (low.order high)
  else low.order high

/-- The number of the month at the front of a text, or zero. -/
def monthOf (text : Text) : Nat :=
  let name := ((text.dropWhile isBlank).take 3).map Char.toUpper
  let months := ["JAN", "FEB", "MAR", "APR", "MAY", "JUN", "JUL", "AUG", "SEP", "OCT", "NOV",
    "DEC"]
  let found := months.idxOf (String.ofList name)
  if found < 12 then found + 1 else 0

namespace Version

/-- The rank of the first character of a text among characters that are no digits. -/
def rank : Text → Int
  | [] => -1
  | char :: _ =>
    if char.isDigit then 0
    else if char.isAlpha then Int.ofNat char.toNat
    else if char = '~' then -2
    else Int.ofNat char.toNat + 256

/-- The order of two texts in which numbers count as numbers. Each step costs one of `fuel`. -/
def comparePlain (fuel : Nat) (left right : Text) : Ordering :=
  let isOther (text : Text) : Bool := text.head?.any fun char => !char.isDigit
  match fuel with
  | 0 => .eq
  | fuel + 1 =>
    if left.isEmpty && right.isEmpty then .eq
    else if isOther left || isOther right then
      (compare (rank left) (rank right)).then (comparePlain fuel (left.drop 1) (right.drop 1))
    else
      let digits (text : Text) : Text := text.takeWhile Char.isDigit
      let low := (digits left).dropWhile (· == '0')
      let high := (digits right).dropWhile (· == '0')
      ((compare low.length high.length).then (compareTexts low high)).then
        (comparePlain fuel (left.drop (digits left).length) (right.drop (digits right).length))

/-- A text without endings that begin with a dot and a letter. Each step costs one of `fuel`, and
`kept` is what stays in any case, last character first. -/
def stem (fuel : Nat) (kept text : Text) : Text :=
  let isPart (char : Char) : Bool := char.isAlphanum || char == '~'
  let rec ending (fuel : Nat) (text : Text) : Text :=
    match fuel, text with
    | fuel + 1, '.' :: first :: rest =>
      if first.isAlpha || first = '~' then ending fuel (rest.dropWhile isPart) else text
    | _, text => text
  match fuel, text with
  | fuel + 1, char :: rest =>
    let after := ending rest.length rest
    if after.isEmpty then (char :: kept).reverse
    else
      let passed := rest.take (rest.length - after.length)
      stem fuel (passed.reverse ++ char :: kept) after
  | _, _ => kept.reverse

/-- The order of two texts as names with versions. -/
def order (left right : Text) : Ordering :=
  let dots : Text → Nat
    | [] => 0
    | ['.'] => 1
    | ['.', '.'] => 2
    | '.' :: _ => 3
    | _ => 4
  let fuel := left.length + right.length + 2
  ((compare (dots left) (dots right)).then
    (comparePlain fuel (stem fuel [] left) (stem fuel [] right))).then
      (comparePlain fuel left right)

end Version

namespace Manner

/-- The part of a text that counts, as it is compared. -/
def seen (manner : Manner) (text : Text) : Text :=
  let counts (char : Char) : Bool :=
    (!manner.dictionary || char.isAlphanum || char == ' ' || char == '\t') &&
      (!manner.visible || ' ' ≤ char && char ≤ '~')
  let kept := if manner.dictionary || manner.visible then text.filter counts else text
  if manner.anyCase then kept.map Char.toUpper else kept

/-- The order of two parts. -/
def order (manner : Manner) (left right : Text) : Ordering :=
  let plain := match manner.kind with
    | .text => compareTexts (manner.seen left) (manner.seen right)
    | .number => (Decimal.leading left).1.order (Decimal.leading right).1
    | .general => compareGeneral left right
    | .human => compareHuman left right
    | .month => compare (monthOf left) (monthOf right)
    | .version => Version.order left right
  if manner.reverse then plain.swap else plain

end Manner

namespace Key

/-- A text behind its first field. With a mark, that is what follows the mark; otherwise blanks
belong to the field behind them. -/
def pastField (mark : Option Char) (text : Text) : Text :=
  match mark with
  | some mark => (text.dropWhile (· != mark)).drop 1
  | none => (text.dropWhile isBlank).dropWhile (!isBlank ·)

/-- A text behind so many fields. -/
def pastFields (mark : Option Char) : Nat → Text → Text
  | 0, text => text
  | count + 1, text => if text.isEmpty then [] else pastFields mark count (pastField mark text)

/-- The part of a line that a key stands for. -/
def partOf (key : Key) (mark : Option Char) (line : Text) : Text :=
  let blanksOff (skips : Bool) (text : Text) : Text :=
    if skips then text.dropWhile isBlank else text
  let start := blanksOff key.manner.skipsBlanks (pastFields mark key.field line)
  let start := start.drop key.char
  match key.stop with
  | none => start
  | some (fields, 0) =>
    let before := pastFields mark fields line
    let after := match mark with
      | some mark => before.dropWhile (· != mark)
      | none => pastField none before
    start.take (start.length - after.length)
  | some (fields, chars) =>
    let after := (blanksOff key.manner.skipsBlanksAtStop (pastFields mark fields line)).drop chars
    start.take (start.length - after.length)

end Key

end Docket.Shell.Sorting
