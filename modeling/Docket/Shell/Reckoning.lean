import Docket.Shell.Regex.Reader
import Docket.Shell.Usage

/-! Reckoning with words: each word of an expression is an operator or an operand. -/

namespace Docket.Shell.Reckoning

/-- A value: a number, or a text that may look like one. -/
inductive Value where
  | number (value : Int)
  | text (text : Text)
deriving DecidableEq

namespace Value

/-- The number that a value stands for. -/
def number? : Value → Option Int
  | Value.number value => some value
  | .text ('-' :: digits) => (Text.natural? digits).map fun size => -Int.ofNat size
  | .text digits => (Text.natural? digits).map Int.ofNat

/-- The text of a value. -/
def toText : Value → Text
  | Value.number value => Text.ofInt value
  | .text found => found

/-- Whether a value counts as nothing: an empty text, or a zero. -/
def isNull : Value → Bool
  | Value.number value => value == 0
  | .text found => found.isEmpty || (Value.text found).number? == some 0

/-- One for what holds, and zero for what does not. -/
def ofBool (holds : Bool) : Value :=
  .number (if holds then 1 else 0)

end Value

/-- Why an expression has no value. -/
inductive Fault where
  | missing (last : Text)
  | unexpected (word : Text)
  | unclosed (last : Text)
  | expected (word : Text)
  | closing
  | notNumber
  | division
  | regex (fault : Regex.Fault)

/-- The wording of a fault. -/
def Fault.message : Fault → Text
  | missing last => "syntax error: missing argument after '".toList ++ last ++ ['\'']
  | unexpected word => "syntax error: unexpected argument '".toList ++ word ++ ['\'']
  | unclosed last => "syntax error: expecting ')' after '".toList ++ last ++ ['\'']
  | expected word => "syntax error: expecting ')' instead of '".toList ++ word ++ ['\'']
  | closing => "syntax error: unexpected ')'".toList
  | notNumber => "non-integer argument".toList
  | division => "division by zero".toList
  | regex fault => fault.message.toList

/-- The words that are left, and the one before them. -/
structure Words where
  last : Text := []
  rest : List Text

/-- What reads words. -/
abbrev Reading := StateT Words (Except Fault)

/-- Takes the next word, which must be there. -/
def next : Reading Text := do
  match (← get).rest with
  | word :: rest =>
    set { last := word, rest : Words }
    return word
  | [] => throw (.missing (← get).last)

/-- Takes the next word if it is one of some. -/
def oneOf? (words : List String) : Reading (Option String) := do
  match (← get).rest with
  | word :: rest =>
    if words.contains (String.ofList word) then
      set { last := word, rest : Words }
      return some (String.ofList word)
    else return none
  | [] => return none

/-- What an expression matches at the front of a text: its first group, or the number of
characters. -/
def front (subject : Text) (expression : Text) : Except Fault Value :=
  match Regex.read? { lenient := true } expression with
  | .error fault => .error (.regex fault)
  | .ok regex =>
    let found := regex.matchAt? {} (.start subject)
    if 0 < Regex.groupCount regex then
      .ok (.text ((found.map (·.group 1)).getD []))
    else .ok (.number ((found.map (·.text.length)).getD 0 : Nat))

/-- The place of the first character that is one of some, or zero. -/
def place (subject chars : Text) : Nat :=
  match subject.findIdx? chars.elem with
  | some index => index + 1
  | none => 0

/-- A part of a text from a place on. -/
def part (subject : Text) (start length : Value) : Text :=
  match start.number?, length.number? with
  | some start, some length =>
    if start ≤ 0 then [] else (subject.drop (start.toNat - 1)).take length.toNat
  | _, _ => []

/-- The numbers of two values. -/
def numbers (left right : Value) : Except Fault (Int × Int) :=
  match left.number?, right.number? with
  | some left, some right => .ok (left, right)
  | _, _ => .error .notNumber

/-- The value of an operator between two values. -/
def apply (operator : String) (left right : Value) : Except Fault Value := do
  let compared (holds : Ordering → Bool) : Value :=
    .ofBool <| holds <| match left.number?, right.number? with
      | some left, some right => compare left right
      | _, _ =>
        if left.toText = right.toText then .eq
        else if Text.before left.toText right.toText then .lt else .gt
  match operator with
  | "<" => return compared (· == .lt)
  | "<=" => return compared (· != .gt)
  | "=" | "==" => return compared (· == .eq)
  | "!=" => return compared (· != .eq)
  | ">=" => return compared (· != .lt)
  | ">" => return compared (· == .gt)
  | "+" => return .number ((← numbers left right).1 + (← numbers left right).2)
  | "-" => return .number ((← numbers left right).1 - (← numbers left right).2)
  | "*" => return .number ((← numbers left right).1 * (← numbers left right).2)
  | ":" => front left.toText right.toText
  | _ =>
    let (left, right) ← numbers left right
    if right = 0 then throw .division
    return .number (if operator = "/" then left.tdiv right else left.tmod right)

/-- The operators, from those that bind least. -/
def levels : List (List String) :=
  [["|"], ["&"], ["<", "<=", "=", "==", "!=", ">=", ">"], ["+", "-"], ["*", "/", "%"], [":"]]

/-- The operators of a level. -/
def operators (level : Nat) : List String :=
  (levels[level]?).getD []

/-- The value of two operands, of which the second one may not have been looked at. -/
def joined (operator : String) (left right : Value) (counts : Bool) : Reading Value :=
  match operator with
  | "|" => return if !left.isNull then left else if right.isNull then .number 0 else right
  | "&" => return if left.isNull || right.isNull then .number 0 else left
  | _ => if counts then apply operator left right else return left

mutual

/-- The value of an operand; it may not count, and then it has no faults but those of its words. -/
def operand (fuel : Nat) (counts : Bool) : Reading Value := do
  match fuel with
  | 0 => throw (.missing (← get).last)
  | fuel + 1 =>
    match String.ofList (← next) with
    | "+" => return .text (← next)
    | "length" => return .number ((← operand fuel counts).toText.length : Nat)
    | "match" =>
      let subject ← operand fuel counts
      let expression ← operand fuel counts
      if counts then front subject.toText expression.toText else return subject
    | "index" =>
      let subject ← operand fuel counts
      return .number (place subject.toText (← operand fuel counts).toText : Nat)
    | "substr" =>
      let subject ← operand fuel counts
      let start ← operand fuel counts
      return .text (part subject.toText start (← operand fuel counts))
    | "(" =>
      let value ← level fuel 0 counts
      match (← get).rest with
      | [')'] :: rest =>
        set { last := [')'], rest : Words }
        return value
      | word :: _ => throw (.expected word)
      | [] => throw (.unclosed (← get).last)
    | ")" => throw .closing
    | word => return .text word.toList

/-- The value of operands with operators of a level or one that binds more. -/
def level (fuel : Nat) (depth : Nat) (counts : Bool) : Reading Value := do
  match fuel with
  | 0 => throw (.missing (← get).last)
  | fuel + 1 =>
    if levels.length ≤ depth then operand fuel counts
    else more fuel depth counts (← level fuel (depth + 1) counts)

/-- The value of what follows a value at a level. -/
def more (fuel : Nat) (depth : Nat) (counts : Bool) (left : Value) : Reading Value := do
  match fuel with
  | 0 => throw (.missing (← get).last)
  | fuel + 1 =>
    match ← oneOf? (operators depth) with
    | none => return left
    | some operator =>
      let needed := match operator with
        | "|" => left.isNull
        | "&" => !left.isNull
        | _ => true
      let right ← level fuel (depth + 1) (counts && needed)
      more fuel depth counts (← joined operator left right counts)

end

/-- The value of the words of an expression. -/
def value? (words : List Text) : Except Fault Value := do
  let (value, left) ← (level (16 * words.length + 16) 0 true).run { rest := words }
  match left.rest with
  | [] => return value
  | word :: _ => throw (.unexpected word)

/-- Prints the value of an expression. -/
def program : Utility := fun arguments => do
  let words := if arguments.head? = some ['-', '-'] then arguments.drop 1 else arguments
  if words.isEmpty then
    let _ ← Filter.complainWithHint "expr" "missing operand".toList
    return 2
  else match value? words with
    | .error fault =>
      Filter.complain "expr" fault.message
      return 2
    | .ok value =>
      State.print (value.toText ++ ['\n'])
      return if value.isNull then 1 else 0

end Docket.Shell.Reckoning
