import Docket.Shell.State

/-! Conditions: what `test` decides about texts, numbers and files. -/

namespace Docket.Shell.Condition

/-- The role of a word in a condition. -/
inductive Role where
  | unary
  | binary
  | negation
  | both
  | either
  | opening
  | closing
deriving DecidableEq, Repr

/-- The role of a word, if it is an operator. -/
def role? (word : Text) : Option Role :=
  let known (role : Role) (words : List String) : Option Role :=
    if words.contains (String.ofList word) then some role else none
  (known .negation ["!"]).or <| (known .both ["-a"]).or <| (known .either ["-o"]).or <|
    (known .opening ["("]).or <| (known .closing [")"]).or <|
    (known .binary ["=", "!=", "<", ">", "-eq", "-ne", "-ge", "-gt", "-le", "-lt", "-nt", "-ot",
      "-ef"]).or <|
    known .unary ["-r", "-w", "-x", "-e", "-f", "-d", "-c", "-b", "-p", "-u", "-g", "-k", "-s",
      "-t", "-z", "-n", "-h", "-L", "-O", "-G", "-S"]

/-- The role of the word in front; an operator with nothing to work on is a plain word. -/
def frontRole? (words : List Text) : Option Role :=
  match words with
  | [] => none
  | word :: rest =>
    match role? word, rest with
    | some .unary, [] => none
    | some .unary, [_] => some .unary
    | some .unary, next :: _ => if role? next = some .binary then none else some .unary
    | some .opening, [] => none
    | role, _ => role

/-- The number that a word names. -/
def number (word : Text) : Except Text Int :=
  let blank (char : Char) : Bool := " \t\n".toList.elem char
  let trimmed := ((word.dropWhile blank).reverse.dropWhile blank).reverse
  match Text.integer? trimmed with
  | some value => .ok value.toInt
  | none => .error ("Illegal number: ".toList ++ word)

/-- Decides about a file. -/
def fileHolds (state : State) (operator : String) (path : Text) : Bool :=
  let path := Bytes.decode path
  match operator, state.disk.find path with
  | _, .error _ => false
  | "-f", .ok (_, entry) => entry != .folder
  | "-d", .ok (_, entry) => entry == .folder
  | "-x", .ok (_, .file _ executable) => executable
  | "-s", .ok (_, .file content _) => content.size != 0
  | "-e", _ => true
  | "-r", _ => true
  | "-w", _ => true
  | "-x", _ => true
  | "-s", _ => true
  | "-O", _ => true
  | "-G", _ => true
  | _, _ => false

/-- Decides about one word. -/
def unaryHolds (state : State) (operator : String) (word : Text) : Bool :=
  match operator with
  | "-z" => word.isEmpty
  | "-n" => !word.isEmpty
  | "-t" => false
  | operator => fileHolds state operator word

/-- Decides about two words. -/
def binaryHolds (operator : String) (left right : Text) : Except Text Bool := do
  let compare (holds : Int → Int → Bool) : Except Text Bool := do
    return holds (← number left) (← number right)
  match operator with
  | "=" => return left == right
  | "!=" => return left != right
  | "<" => return left < right
  | ">" => return right < left
  | "-eq" => compare (· == ·)
  | "-ne" => compare (· != ·)
  | "-lt" => compare (· < ·)
  | "-le" => compare (· ≤ ·)
  | "-gt" => compare (· > ·)
  | "-ge" => compare (· ≥ ·)
  | _ => return false

/-- A decision, and the words after those that it rests on. -/
abbrev Decision := Except Text (Bool × List Text)

/-- Decides about a word, or about it and another one with an operator between them. -/
def operand (word : Text) (rest : List Text) : Decision :=
  match frontRole? rest, rest with
  | some .binary, operator :: right :: after =>
    (binaryHolds (String.ofList operator) word right).map fun holds => (holds, after)
  | some .binary, [operator] => .error (operator ++ ": argument expected".toList)
  | _, rest => .ok (!word.isEmpty, rest)

mutual

/-- Decides a condition with alternatives. -/
def either (fuel : Nat) (state : State) (words : List Text) : Decision :=
  match fuel with
  | 0 => .ok (false, words)
  | fuel + 1 => do
    let (first, rest) ← both fuel state words
    if frontRole? rest = some .either then
      let (second, rest) ← either fuel state (rest.drop 1)
      return (first || second, rest)
    else return (first, rest)

/-- Decides conditions that must all hold. -/
def both (fuel : Nat) (state : State) (words : List Text) : Decision :=
  match fuel with
  | 0 => .ok (false, words)
  | fuel + 1 => do
    let (first, rest) ← negation fuel state words
    if frontRole? rest = some .both then
      let (second, rest) ← both fuel state (rest.drop 1)
      return (first && second, rest)
    else return (first, rest)

/-- Decides a condition that may be negated. -/
def negation (fuel : Nat) (state : State) (words : List Text) : Decision :=
  match fuel with
  | 0 => .ok (false, words)
  | fuel + 1 =>
    if frontRole? words = some .negation then
      (negation fuel state (words.drop 1)).map fun (holds, rest) => (!holds, rest)
    else primary fuel state words

/-- Decides a single condition. -/
def primary (fuel : Nat) (state : State) (words : List Text) : Decision :=
  match fuel, words with
  | fuel + 1, word :: rest =>
    match frontRole? words with
    | some .opening =>
      if frontRole? rest = some .closing then .ok (false, rest.drop 1)
      else do
        let (holds, rest) ← either fuel state rest
        if frontRole? rest = some .closing then return (holds, rest.drop 1)
        else throw "closing paren expected".toList
    | some .unary =>
      .ok (unaryHolds state (String.ofList word) (rest.head?.getD []), rest.drop 1)
    | _ => operand word rest
  | _, words => .ok (false, words)

end

/-- Decides a condition of which nothing may be left. -/
def general (state : State) (words : List Text) : Except Text Bool := do
  let (holds, rest) ← either (6 * words.length + 6) state words
  if rest.isEmpty then return holds
  else throw ((words[words.length - rest.length - 1]?).getD [] ++
    ": unexpected operator".toList)

/-- Decides a condition. With few words, the number of words tells what they mean. -/
def holds (state : State) (words : List Text) : Except Text Bool :=
  match words with
  | [] => .ok false
  | [left, operator, right] =>
    if role? operator = some .binary then binaryHolds (String.ofList operator) left right
    else if left = ['('] && right = [')'] then general state [operator]
    else if left = ['!'] then (general state [operator, right]).map (!·)
    else general state words
  | first :: second :: third :: [last] =>
    if first = ['('] && last = [')'] then general state [second, third]
    else if first = ['!'] then
      if role? third = some .binary then
        (binaryHolds (String.ofList third) second last).map (!·)
      else (general state [second, third, last]).map (!·)
    else general state words
  | words => general state words

end Docket.Shell.Condition
