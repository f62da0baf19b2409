import Docket.Shell.Awk.Machine

/-! Records and their fields, and what scripts calculate from them: arithmetic, comparisons, and
the functions that need nothing but texts. -/

namespace Docket.Shell.Awk

/-- What stands between the pieces of a text. -/
inductive Separator where
  /-- Any number of blanks, which may also stand around the pieces. -/
  | blanks
  | char (char : Char)
  /-- Nothing: every character is a piece. -/
  | nothing
  | regex (regex : Regex)

namespace Separator

/-- Whether a character is one of the blanks between fields. -/
def isBlank (char : Char) : Bool :=
  char == ' ' || char == '\t' || char == '\n'

/-- The words between blanks. -/
def words (text : Text) : List Text :=
  (text.foldr (fun char (pieces : List Text × Bool) =>
    if isBlank char then (pieces.1, false)
    else match pieces with
      | (piece :: others, true) => ((char :: piece) :: others, true)
      | (pieces, _) => ([char] :: pieces, true)) ([], false)).1

/-- The pieces of a text between matches, the first of which begins at a position. -/
def between (text : Text) (position : Nat) : List Regex.Found → List Text
  | [] => [text]
  | found :: rest =>
    text.take (found.start - position) ::
      between (text.drop (found.stop - position)) found.stop rest

/-- The pieces of a text. -/
def cut (separator : Separator) (text : Text) : List Text :=
  if text.isEmpty then []
  else match separator with
    | .blanks => words text
    | .char mark => Filter.cutAt mark text
    | .nothing => text.map fun char => [char]
    | .regex found =>
      between text 0 ((found.allMatches {} text).filter (!·.text.isEmpty))

/-- The separator that a text stands for. -/
def ofText (text : Text) : Play Separator := do
  match text with
  | [' '] => return .blanks
  | [] => return .nothing
  | [mark] => return .char mark
  | source => return .regex (← Machine.regex source)

end Separator

namespace Record

/-- Sets the record to a text, and cuts it into fields. -/
def set (text : Text) : Play Unit := do
  let separator ← Separator.ofText (← Machine.textOf "FS")
  let fields := ((separator.cut text).map Value.ofInput).toArray
  modify fun machine => { machine with record := .ofInput text, fields }

/-- Joins the fields to a new record. -/
def join : Play Unit := do
  let between ← Machine.textOf "OFS"
  let texts ← (← get).fields.toList.mapM Machine.text
  modify fun machine => { machine with record := .ofInput (Text.join between texts) }

/-- The value of a field; the record itself is number zero. -/
def field (index : Nat) : Play Value := do
  let machine ← get
  if index = 0 then return machine.record
  else return machine.fields.getD (index - 1) (.text [])

/-- The most fields that a record can have. -/
def most : Nat := 32767

/-- The index of a field that a number stands for. -/
def index (number : Float) : Play Nat := do
  let found := whole number
  if found < 0 then Play.complain ("negative field index $".toList ++ Text.ofInt found)
  else if most < found then
    Play.complain ("maximum number of fields (".toList ++ Text.ofNat most ++ ") exceeded".toList)
  else return found.toNat

/-- Fields with others behind them, so that there are at least so many. -/
def widen (fields : Array Value) (count : Nat) : Array Value :=
  fields ++ Array.replicate (count - fields.size) (.text [])

/-- Changes a field, and with it the record. -/
def putField (index : Nat) (value : Value) : Play Unit := do
  if index = 0 then set (← Machine.text value)
  else
    modify fun machine =>
      { machine with fields := (widen machine.fields index).setIfInBounds (index - 1) value }
    join

/-- Changes the number of fields, and with it the record. -/
def resize (value : Value) : Play Unit := do
  let found := whole value.toNumber
  if found < 0 then Play.complain "negative value assigned to NF".toList
  else if most < found then
    Play.complain ("maximum number of fields (".toList ++ Text.ofNat most ++ ") exceeded".toList)
  else
    modify fun machine =>
      { machine with fields := (widen machine.fields found.toNat).extract 0 found.toNat }
    join

/-- The lines up to an empty one, and what follows the empty lines. -/
def paragraph (text : Text) : Text × Text :=
  match text with
  | [] => ([], [])
  | ['\n'] => ([], [])
  | '\n' :: '\n' :: rest => ([], rest.dropWhile (· == '\n'))
  | char :: rest =>
    let (found, after) := paragraph rest
    (char :: found, after)

/-- The next record of a text, and what follows it. -/
def next? (text : Text) : Play (Option (Text × Text)) := do
  match ← Machine.textOf "RS" with
  | [] =>
    let text := text.dropWhile (· == '\n')
    return if text.isEmpty then none else some (paragraph text)
  | [mark] =>
    return if text.isEmpty then none else some ((Text.splitOnce? mark text).getD (text, []))
  | source =>
    if text.isEmpty then return none
    match ((← Machine.regex source).allMatches {} text).find? (!·.text.isEmpty) with
    | some found => return some (text.take found.start, text.drop found.stop)
    | none => return some (text, [])

end Record

/-- Sets a variable. -/
def Machine.assign (name : Text) (value : Value) : Play Unit := do
  if name = fieldCount then Record.resize value
  else match (← get).slot? name with
    | some (.table _) => Play.refuse ("illegal reference to array ".toList ++ name)
    | _ => putSlot name (.value value)

/-- What is left of a number after a division without fraction; it has the sign of the number. -/
def remainder (dividend divisor : Float) : Float :=
  match Binary64.ofFloat dividend, Binary64.ofFloat divisor with
  | .finite units, .finite parts =>
    if parts = 0 then 0 / 0 else
      let rest := units.tmod parts
      let excess := rest.natAbs.log2 - 52
      let size := Float.scaleB (Float.ofNat (rest.natAbs >>> excess)) (excess - 1074)
      if rest < 0 then -size else size
  | .finite _, .infinite _ => dividend
  | _, _ => 0 / 0

/-- What an operation makes of two numbers. -/
def Operation.apply : Operation → Float → Float → Float
  | add, left, right => left + right
  | subtract, left, right => left - right
  | multiply, left, right => left * right
  | divide, left, right => left / right
  | remainder, left, right => Awk.remainder left right
  | power, left, right => Float.pow left right

/-- Whether a relation holds for what is in some order. -/
def Relation.holdsFor : Relation → Ordering → Bool
  | less, order => order = .lt
  | atMost, order => order != .gt
  | equal, order => order = .eq
  | differs, order => order != .eq
  | atLeast, order => order != .lt
  | more, order => order = .gt

namespace Value

/-- Whether a value is compared as a number. -/
def isNumeric : Value → Bool
  | .text _ => false
  | _ => true

/-- The order of two values: as numbers if neither is just a text. -/
def compare (left right : Value) : Play Ordering := do
  if left.isNumeric && right.isNumeric then
    let first := left.toNumber
    let second := right.toNumber
    return if first < second then .lt else if second < first then .gt else .eq
  else
    return Ord.compare (← Machine.text left) (← Machine.text right)

end Value

/-- The part of a text from a position on. A part that would begin before the text is longer by as
much as the position lies before the first character. -/
def part (text : Text) (start : Float) (length : Option Float) : Text :=
  let first := whole start
  let count? := length.map fun length =>
    whole length + if first < 1 then -first else 0
  let rest := text.drop (first - 1).toNat
  match count? with
  | none => rest
  | some count => rest.take count.toNat

/-- The position of a text in another one, from one on; zero if it is not there, and one for
nothing. -/
def position (text wanted : Text) : Nat :=
  let rec find (index : Nat) : Text → Nat
    | [] => 0
    | char :: rest => if Text.startsWith (char :: rest) wanted then index else find (index + 1) rest
  if wanted.isEmpty then 1 else find 1 text

/-- A piece of what takes the place of a match. -/
inductive Piece where
  | char (char : Char)
  /-- The match itself. -/
  | found

/-- The pieces of what takes the place of a match: an ampersand stands for the match, unless an odd
number of backslashes stands in front of it. -/
def pieces : Text → List Piece
  | [] => []
  | '&' :: rest => .found :: pieces rest
  | '\\' :: rest =>
    let marks := rest.takeWhile (· == '\\')
    match rest.dropWhile (· == '\\') with
    | '&' :: _ =>
      if marks.isEmpty then match rest with
        | _ :: rest => .char '&' :: pieces rest
        | [] => []
      else match rest with
        | _ :: rest => .char '\\' :: pieces rest
        | [] => []
    | _ => .char '\\' :: pieces rest
  | char :: rest => .char char :: pieces rest

/-- A text with other texts in the places of matches, the first of which begins at a position or
later. -/
def replaced (parts : List Piece) (text : Text) (index : Nat) : List Regex.Found → Text
  | [] => text
  | found :: rest =>
    let value := parts.flatMap fun
      | .char char => [char]
      | .found => found.text
    text.take (found.start - index) ++ value ++
      replaced parts (text.drop (found.stop - index)) found.stop rest

/-- The matches to replace: all of them or the first one. -/
def matchesIn (regex : Regex) (all : Bool) (text : Text) : List Regex.Found :=
  if all then regex.allMatches {} text else (regex.search? {} (.start text)).toList

/-- The function of a number with a name. -/
def function? (name : String) : Option (Float → Float) :=
  match name with
  | "sin" => some Float.sin
  | "cos" => some Float.cos
  | "exp" => some Float.exp
  | "log" => some Float.log
  | "sqrt" => some Float.sqrt
  | "int" => some fun value => if value < 0 then value.ceil else value.floor
  | _ => none

end Docket.Shell.Awk
