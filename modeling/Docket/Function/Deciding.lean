import Docket.Calendar.DatePattern
import Docket.Function.Editing
import Docket.Number.Binary64
import Docket.Text.Basic
import Docket.Text.Order

/-! Comparisons of texts, by number where both sides are numbers, the function that chooses between
two texts by one, and the function that shows the date. -/

namespace Docket

/-- The ways to compare two texts. -/
inductive Comparison where
  | equal
  | notEqual
  | greater
  | less
  | greaterOrEqual
  | lessOrEqual
  | contains
  | startsWith
  | endsWith
deriving DecidableEq, Repr

namespace Comparison

/-- The written forms. -/
def symbols : List (String × Comparison) := [
  ("=", equal), ("==", equal), ("!=", notEqual), (">", greater), ("<", less),
  (">=", greaterOrEqual), ("<=", lessOrEqual), ("contains", contains),
  ("startswith", startsWith), ("endswith", endsWith)]

/-- The comparison of a written form; white space around it does not matter. -/
def parse? (text : Text) : Option Comparison :=
  (symbols.find? fun (symbol, _) => symbol.toList == Text.trim text).map Prod.snd

/-- The order of two texts by code points. -/
def textOrder (left right : Text) : Ordering :=
  if left = right then .eq else if Text.before left right then .lt else .gt

/-- The order of two texts: by number if both are numbers, else by code points. Without a number
on one side of a numeric comparison there is no order. -/
def order? (left right : Text) : Option Ordering :=
  match Binary64.read? (Text.trim left), Binary64.read? (Text.trim right) with
  -- Two numbers without an order are not compared as texts instead.
  | some left, some right => left.compare? right
  | _, _ => some (textOrder left right)

/-- Whether a comparison holds. -/
def holds (comparison : Comparison) (left right : Text) : Bool :=
  match comparison with
  | equal => left == right
  | notEqual => left != right
  | greater => order? left right == some .gt
  | less => order? left right == some .lt
  | greaterOrEqual => (order? left right).any (· != .lt)
  | lessOrEqual => (order? left right).any (· != .gt)
  | contains => Text.contains left right
  | startsWith => Text.startsWith left right
  | endsWith => Text.endsWith left right

end Comparison

end Docket

namespace Docket.Function

/-- One of two texts, as a comparison of two others decides. -/
def choose : Function where
  signature := ⟨"IF".toList, [need "value", need "operator", need "compare", need "then",
    need "else", .withDefault "caseSensitive".toList "true".toList], false⟩
  title := "If".toList
  documentation :=
    ("Returns `then` when `value operator compare` holds and `else` otherwise. Operators: " ++
      "`=` `==` `!=` `>` `<` `>=` `<=` `contains` `startswith` `endswith`. Unknown " ++
      "operators are false.").toList
  isPure := true
  fallback := fun arguments => argument arguments 4
  run := pureRun fun arguments =>
    let shape := if isOn arguments[5]? then id else Text.lower
    -- A comparison that is not known does not hold.
    let holds := (Comparison.parse? (argument arguments 1)).any fun comparison =>
      comparison.holds (shape (argument arguments 0)) (shape (argument arguments 2))
    .ok (argument arguments (if holds then 3 else 4))

/-- The time of the evaluation in a pattern. -/
def formatDate : Function where
  signature := ⟨"FORMATDATE".toList, [need "pattern"], false⟩
  title := "Format Date".toList
  documentation :=
    ("Formats the current date and time. Tokens: `yyyy` `yy` `y` (year), `mmmm` `mmm` " ++
      "`mm` `m` (month name, abbreviation, padded, plain), `dddd` `ddd` `dd` `d` " ++
      "(weekday name, abbreviation, padded day, plain day), `hh` `h` (hour), `MM` `M` " ++
      "(minute), `ss` `s` (second), `ww` (ISO week), `tt` `t` (AM/PM, A/P). Other " ++
      "characters are copied.").toList
  run := fun environment arguments resources =>
    (.ok (DatePattern.format (firstArgument arguments) environment.now), resources)

end Docket.Function
