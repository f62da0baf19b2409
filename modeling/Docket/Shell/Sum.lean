import Docket.Shell.Word
import Docket.Table.Sheet
import Docket.Text.Integer

/-! Arithmetic expressions of shells, in integers of 64 bits. -/

namespace Docket.Shell

/-- An arithmetic expression. -/
inductive Sum where
  | number (value : Int64)
  | stored (name : Text)
  | unary (operator : String) (operand : Sum)
  | binary (operator : String) (left right : Sum)
  /-- The value of one of two expressions. -/
  | choice (condition first second : Sum)
  | assign (name : Text) (value : Sum)

namespace Sum

/-- A token of an arithmetic expression. -/
inductive Symbol where
  | number (value : Int64)
  | name (name : Text)
  | sign (sign : String)
deriving DecidableEq, Repr

/-- Signs, longest first. -/
def signs : List String :=
  ["<<=", ">>=", "<<", ">>", "<=", ">=", "==", "!=", "&&", "||", "+=", "-=", "*=", "/=", "%=",
    "&=", "|=", "^=", "+", "-", "*", "/", "%", "<", ">", "&", "|", "^", "!", "~", "(", ")", "?",
    ":", "="]

/-- The value of a digit in a base. -/
def digit? (base : Nat) (char : Char) : Option Nat :=
  let value :=
    if '0' ≤ char && char ≤ '9' then char.toNat - '0'.toNat
    else if 'a' ≤ char && char ≤ 'f' then char.toNat - 'a'.toNat + 10
    else if 'A' ≤ char && char ≤ 'F' then char.toNat - 'A'.toNat + 10
    else base
  if value < base then some value else none

/-- The value of digits in a base. -/
def digits? (base : Nat) (text : Text) : Option Nat :=
  if text.isEmpty then none
  else text.foldl
    (fun value char => do return base * (← value) + (← digit? base char)) (some 0)

/-- The value of a number; a zero in front makes it octal, and `0x` hexadecimal. -/
def literal? (text : Text) : Option Int64 :=
  let value := match text with
    | '0' :: 'x' :: rest => digits? 16 rest
    | '0' :: 'X' :: rest => digits? 16 rest
    | '0' :: first :: rest => digits? 8 (first :: rest)
    | text => digits? 10 text
  value.map fun value => Int64.ofInt (Text.saturate value)

/-- The symbols of an expression, if there are no others. Each costs one of `fuel`. -/
def symbols? (fuel : Nat) (text : Text) : Option (List Symbol) :=
  match fuel, text with
  | fuel + 1, char :: rest =>
    if " \t\n".toList.elem char then symbols? fuel rest
    else if Word.isNameChar char then
      let word := text.takeWhile Word.isNameChar
      let symbol := if char.isDigit then (literal? word).map .number else some (.name word)
      symbol.bind fun symbol => (symbols? fuel (text.drop word.length)).map (symbol :: ·)
    else do
      let sign ← signs.find? fun sign => Text.startsWith text sign.toList
      (symbols? fuel (text.drop sign.length)).map (.sign sign :: ·)
  | _, _ => some []

/-- How strongly a sign binds its operands. -/
def strength (sign : String) : Option Nat :=
  match sign with
  | "||" => some 1
  | "&&" => some 2
  | "|" => some 3
  | "^" => some 4
  | "&" => some 5
  | "==" | "!=" => some 6
  | "<" | ">" | "<=" | ">=" => some 7
  | "<<" | ">>" => some 8
  | "+" | "-" => some 9
  | "*" | "/" | "%" => some 10
  | _ => none

/-- The sign inside a sign of assignment. -/
def assigned? (sign : String) : Option String :=
  if sign = "=" then some ""
  else if ["<<=", ">>=", "+=", "-=", "*=", "/=", "%=", "&=", "|=", "^="].contains sign then
    some (String.ofList sign.toList.dropLast)
  else none

mutual

/-- Reads a choice or an assignment. -/
def read? (fuel : Nat) (symbols : List Symbol) : Option (Sum × List Symbol) :=
  match fuel with
  | 0 => none
  | fuel + 1 =>
    let choice : Option (Sum × List Symbol) := do
      let (condition, rest) ← chain? fuel 1 symbols
      match rest with
      | .sign "?" :: rest =>
        let (first, rest) ← read? fuel rest
        match rest with
        | .sign ":" :: rest =>
          let (second, rest) ← read? fuel rest
          return (.choice condition first second, rest)
        | _ => none
      | rest => return (condition, rest)
    match symbols with
    | .name name :: .sign sign :: rest =>
      match assigned? sign with
      | some operator => do
        let (value, rest) ← read? fuel rest
        return (.assign name
          (if operator = "" then value else .binary operator (.stored name) value), rest)
      | none => choice
    | _ => choice

/-- Reads operands with signs between them that bind at least as strongly as given. -/
def chain? (fuel least : Nat) (symbols : List Symbol) : Option (Sum × List Symbol) :=
  match fuel with
  | 0 => none
  | fuel + 1 => do
    let (first, rest) ← operand? fuel symbols
    links? fuel least first rest

/-- Reads the signs and operands after an operand. -/
def links? (fuel least : Nat) (left : Sum) (symbols : List Symbol) : Option (Sum × List Symbol) :=
  match fuel, symbols with
  | fuel + 1, .sign sign :: rest =>
    match strength sign with
    | some power =>
      if power < least then some (left, symbols)
      else do
        let (right, rest) ← chain? fuel (power + 1) rest
        links? fuel least (.binary sign left right) rest
    | none => some (left, symbols)
  | _, symbols => some (left, symbols)

/-- Reads an operand. -/
def operand? (fuel : Nat) (symbols : List Symbol) : Option (Sum × List Symbol) :=
  match fuel, symbols with
  | _ + 1, .number value :: rest => some (.number value, rest)
  | _ + 1, .name name :: rest => some (.stored name, rest)
  | fuel + 1, .sign sign :: rest =>
    if sign = "(" then do
      let (inner, rest) ← read? fuel rest
      match rest with
      | .sign ")" :: rest => return (inner, rest)
      | _ => none
    else if ["-", "+", "!", "~"].contains sign then do
      let (inner, rest) ← operand? fuel rest
      return (.unary sign inner, rest)
    else none
  | _, _ => none

end

/-- The wording of a fault in an expression. -/
def complaint (fault : String) (text : Text) : Text :=
  "arithmetic expression: ".toList ++ fault.toList ++ ": \"".toList ++ text ++ ['"']

/-- The expression of a text; a fault comes with its wording. -/
def ofText (text : Text) : Except Text Sum :=
  match symbols? (text.length + 1) text with
  | none => .error (complaint "expecting EOF" text)
  | some symbols =>
    match read? (12 * symbols.length + 12) symbols with
    | none => .error (complaint "expecting primary" text)
    | some (sum, rest) => if rest.isEmpty then .ok sum else .error (complaint "expecting EOF" text)

/-- The number of a condition. -/
def ofBool (condition : Bool) : Int64 :=
  if condition then 1 else 0

/-- Applies a sign to two numbers; there is no quotient by zero. -/
def combined? (sign : String) (left right : Int64) : Option Int64 :=
  match sign with
  | "+" => some (left + right)
  | "-" => some (left - right)
  | "*" => some (left * right)
  | "/" => if right = 0 then none else some (left / right)
  | "%" => if right = 0 then none else some (left % right)
  | "<<" => some (left <<< right)
  | ">>" => some (left >>> right)
  | "<" => some (ofBool (left < right))
  | ">" => some (ofBool (right < left))
  | "<=" => some (ofBool (left ≤ right))
  | ">=" => some (ofBool (right ≤ left))
  | "==" => some (ofBool (left == right))
  | "!=" => some (ofBool (left != right))
  | "&" => some (left &&& right)
  | "|" => some (left ||| right)
  | "^" => some (left ^^^ right)
  | _ => some 0

/-- The number in a variable. -/
def storedNumber (bindings : Sheet Text Text) (name : Text) : Except Text Int64 :=
  match bindings.get? name with
  | none => .ok 0
  | some text =>
    let (negative, size) := match text with
      | '-' :: rest => (true, rest)
      | '+' :: rest => (false, rest)
      | text => (false, text)
    match if text.isEmpty then some 0 else literal? size with
    | some value => .ok (if negative then -value else value)
    | none => .error ("Illegal number: ".toList ++ text)

/-- The value of an expression in a text, and the variables afterwards. A fault comes with its
wording. -/
def value (text : Text) (sum : Sum) (bindings : Sheet Text Text) :
    Except Text (Int64 × Sheet Text Text) :=
  match sum with
  | number value => .ok (value, bindings)
  | stored name => (storedNumber bindings name).map fun value => (value, bindings)
  | unary sign operand => do
    let (value, bindings) ← value text operand bindings
    let result := match sign with
      | "-" => -value
      | "!" => ofBool (value == 0)
      | "~" => ~~~value
      | _ => value
    return (result, bindings)
  | binary sign left right => do
    let (first, bindings) ← value text left bindings
    if sign = "&&" && first == 0 then return (0, bindings)
    if sign = "||" && first != 0 then return (1, bindings)
    let (second, bindings) ← value text right bindings
    if sign = "&&" || sign = "||" then return (ofBool (second != 0), bindings)
    match combined? sign first second with
    | some value => return (value, bindings)
    | none => throw (complaint "division by zero" text)
  | choice condition first second => do
    let (decision, bindings) ← value text condition bindings
    if decision != 0 then value text first bindings else value text second bindings
  | assign name operand => do
    let (value, bindings) ← value text operand bindings
    return (value, bindings.put name (Text.ofInt64 value))

end Sum

end Docket.Shell
