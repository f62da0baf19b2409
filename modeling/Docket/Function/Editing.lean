import Docket.Function.Basic
import Docket.Text.Case
import Docket.Text.Extract

/-! Functions that take texts apart, search them and change them. -/

namespace Docket.Function

/-- A parameter that every call has an argument for. -/
def need (name : String) : Parameter :=
  .required name.toList

/-- Whether an optional flag at the end of the arguments is on: it is unless it says otherwise. -/
def isOn (flag : Option Text) : Bool :=
  flag.all (Text.sameIgnoringAsciiCase · "true".toList)

/-- The text without white space at its ends. -/
def trim : Function where
  signature := ⟨"TRIM".toList, [need "text"], false⟩
  title := "Trim".toList
  documentation :=
    "Removes leading and trailing whitespace. `TRIM(\"  A-17 \")` yields `A-17`.".toList
  isPure := true
  fallback := firstArgument
  run := pureRun fun arguments => .ok (Text.trim (firstArgument arguments))

/-- The first characters of a text. -/
def left : Function where
  signature := ⟨"LEFT".toList, [need "text", need "n"], false⟩
  title := "Left".toList
  documentation :=
    ("Returns the first n characters. A negative n removes characters from the end. " ++
      "Falls back to the unchanged text when n is not a number.").toList
  isPure := true
  fallback := firstArgument
  run := pureRun fun arguments => do
    let count ← integer 1 (argument arguments 1)
    return Text.left (firstArgument arguments) count.toInt

/-- The last characters of a text. -/
def right : Function where
  signature := ⟨"RIGHT".toList, [need "text", need "n"], false⟩
  title := "Right".toList
  documentation :=
    "Returns the last n characters. A negative n removes characters from the start.".toList
  isPure := true
  fallback := firstArgument
  run := pureRun fun arguments => do
    let count ← integer 1 (argument arguments 1)
    return Text.right (firstArgument arguments) count.toInt

/-- The characters of a text from a position on. -/
def mid : Function where
  signature := ⟨"MID".toList, [need "text", need "start", .left "length".toList], false⟩
  title := "Mid".toList
  documentation :=
    ("Returns `length` characters starting at the 1-based position `start`, or the rest " ++
      "of the text when `length` is omitted or empty. Positions below 1 count as 1.").toList
  isPure := true
  fallback := firstArgument
  run := pureRun fun arguments => do
    let start ← integer 1 (argument arguments 1)
    let length := argument arguments 2
    -- An empty length counts as one that is left out.
    if length.isEmpty then
      return Text.mid (firstArgument arguments) start.toInt none
    let length ← integer 2 length
    return Text.mid (firstArgument arguments) start.toInt (some length.toInt)

/-- The text in upper case. -/
def toUpper : Function where
  signature := ⟨"TOUPPER".toList, [need "text"], false⟩
  title := "To Upper".toList
  isPure := true
  fallback := firstArgument
  run := pureRun fun arguments => .ok (Text.upper (firstArgument arguments))

/-- The text in lower case. -/
def toLower : Function where
  signature := ⟨"TOLOWER".toList, [need "text"], false⟩
  title := "To Lower".toList
  isPure := true
  fallback := firstArgument
  run := pureRun fun arguments => .ok (Text.lower (firstArgument arguments))

/-- The number of characters of a text. -/
def length : Function where
  signature := ⟨"LEN".toList, [need "text"], false⟩
  title := "Length".toList
  isPure := true
  fallback := fun _ => ['0']
  run := pureRun fun arguments => .ok (Text.ofNat (firstArgument arguments).length)

/-- The text filled up with zeros to the number of signs in a pattern. -/
def format : Function where
  signature := ⟨"FORMAT".toList, [need "value", need "pattern"], false⟩
  title := "Format".toList
  documentation :=
    ("Pads the value with leading zeros to the number of `#` in the pattern: " ++
      "`FORMAT(\"42\", \"#####\")` yields `00042`. Longer values and patterns without " ++
      "`#` leave the value unchanged.").toList
  isPure := true
  fallback := firstArgument
  run := pureRun fun arguments =>
    .ok (Text.zeroFill ((argument arguments 1).count '#') (firstArgument arguments))

/-- The position at which a text occurs in another one. -/
def indexOf : Function where
  signature := ⟨"INDEXOF".toList, [need "start", need "text", need "search",
    .withDefault "caseSensitive".toList "true".toList], false⟩
  title := "Index Of".toList
  documentation :=
    ("Searches `text` for `search`, skipping the first `start` characters. Returns the " ++
      "1-based position or `0`. Any `caseSensitive` value other than `true` compares " ++
      "case-insensitively.").toList
  isPure := true
  fallback := fun _ => ['0']
  run := pureRun fun arguments => do
    let start ← integer 0 (argument arguments 0)
    -- Both texts are lowered as wholes, before one is searched for in the other.
    let shape := if isOn arguments[3]? then id else Text.lower
    return Text.ofNat (Text.position start.toInt (shape (argument arguments 1))
      (shape (argument arguments 2)))

end Docket.Function
