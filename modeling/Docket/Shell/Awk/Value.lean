import Docket.Number.Binary64
import Docket.Number.Notation
import Docket.Shell.Awk.Token

/-! Values of scripts: numbers, texts, and texts of the input that may look like numbers. -/

namespace Docket.Shell.Awk

/-- A value. -/
inductive Value where
  /-- What a variable holds before it is set: nothing and zero. -/
  | unset
  | number (value : Float)
  | text (text : Text)
  /-- A text that looks like a number. -/
  | numeral (text : Text) (value : Float)

/-- The whole part of a number; what is no number is zero, and what is infinite is very large. -/
def whole (value : Float) : Int :=
  match Binary64.ofFloat value with
  | .finite units => units.tdiv Binary64.unitsInOne
  | .infinite true => -(Text.wordCount * Text.wordCount : Nat)
  | .infinite false => (Text.wordCount * Text.wordCount : Nat)
  | .nan => 0

/-- The text of what is no finite number. -/
def unusual (value : Float) : Text :=
  match Binary64.ofFloat value with
  | .infinite true => "-inf".toList
  | .infinite false => "inf".toList
  | _ => "-nan".toList

/-- Whether a number is neither infinite nor no number at all. -/
def isUsual (value : Float) : Bool :=
  Binary64.ofFloat value matches .finite _

/-- A number without fraction whose word the machine can hold, as that word. -/
def asWord? (value : Float) : Option Int :=
  if !isUsual value then none
  else
    let found := whole value
    let limit := Text.negativeCount
    if value != value.floor then none
    else if found < limit then if -limit ≤ found then some found else none
    else if found ≤ Text.wordCount then some (min found (Text.wordCount - 1)) else none

namespace Value

/-- A text of the input, which may look like a number. -/
def ofInput (text : Text) : Value :=
  let trimmed := ((text.dropWhile Numeral.isGap).reverse.dropWhile Numeral.isGap).reverse
  let begins := trimmed.head?.any fun char => char.isDigit || "+-.".toList.elem char
  let ends := trimmed.getLast?.any fun char => char.isDigit || char == '.'
  match if begins && ends then some (Numeral.leading trimmed) else none with
  | some (value, []) => .numeral text value
  | _ => .text text

/-- The number of a value. -/
def toNumber : Value → Float
  | unset => 0
  | .number value => value
  | .text found => (Numeral.leading found).1
  | .numeral _ value => value

/-- Whether a value holds as a condition. -/
def holds : Value → Bool
  | unset => false
  | .number value => value != 0
  | .text found => !found.isEmpty
  | .numeral _ value => value != 0

/-- One for what holds, and zero for what does not. -/
def ofBool (holds : Bool) : Value :=
  .number (if holds then 1 else 0)

/-- The value of a whole number. -/
def ofNat (value : Nat) : Value :=
  .number (Float.ofNat value)

end Value

end Docket.Shell.Awk
