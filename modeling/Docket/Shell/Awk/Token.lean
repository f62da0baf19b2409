import Docket.Shell.Numeral
import Docket.Shell.Regex.Reader

/-! Scripts that work on records of text, rules with patterns and actions, and their tokens. -/

namespace Docket.Shell.Awk

/-- What is done with two numbers. -/
inductive Operation where
  | add
  | subtract
  | multiply
  | divide
  | remainder
  | power
deriving DecidableEq

/-- How two values are compared. -/
inductive Relation where
  | less
  | atMost
  | equal
  | differs
  | atLeast
  | more
deriving DecidableEq

/-- Where a line is taken from. -/
inductive Origin where
  | records
  | file
  | command
deriving DecidableEq

/-- An expression. -/
inductive Expression where
  | number (value : Float)
  | text (text : Text)
  | regex (regex : Regex)
  | named (name : Text)
  | field (place : Expression)
  | element (name : Text) (places : List Expression)
  | calculation (operation : Operation) (left right : Expression)
  | comparison (relation : Relation) (left right : Expression)
  | joined (left right : Expression)
  | matched (wanted : Bool) (subject expression : Expression)
  | member (places : List Expression) (name : Text)
  | both (left right : Expression)
  | either (left right : Expression)
  | opposite (operand : Expression)
  | negative (operand : Expression)
  | positive (operand : Expression)
  | choice (condition first second : Expression)
  | assign (operation : Option Operation) (target value : Expression)
  /-- Counts up or down, and has the value before or after that. -/
  | step (up isBefore : Bool) (target : Expression)
  | call (name : Text) (arguments : List Expression)
  | builtin (name : String) (arguments : List Expression)
  | line (origin : Origin) (source target : Option Expression)

/-- Where output goes. -/
inductive Direction where
  | file
  | append
  | command
deriving DecidableEq

/-- A statement. -/
inductive Statement where
  | print (values : List Expression) (route : Option (Direction × Expression))
  | format (values : List Expression) (route : Option (Direction × Expression))
  | evaluate (value : Expression)
  | block (statements : List Statement)
  | when (condition : Expression) (first : Statement) (second : Option Statement)
  | repeatWhile (condition : Expression) (body : Statement)
  /-- Has its condition behind its body. -/
  | repeatUntil (body : Statement) (condition : Expression)
  | count (start : Option Statement) (condition : Option Expression) (step : Option Statement)
    (body : Statement)
  | forEach (name array : Text) (body : Statement)
  | next
  | nextFile
  | exit (status : Option Expression)
  | leave
  | goOn
  | return (value : Option Expression)
  /-- Deletes an element, or without places all of them. -/
  | delete (name : Text) (places : Option (List Expression))

/-- For which records a rule holds. -/
inductive Pattern where
  | always
  | one (condition : Expression)
  | range (first last : Expression)

/-- A function with the names of its parameters. -/
structure Function where
  parameters : List Text
  body : List Statement

/-- A script. -/
structure Script where
  begins : List Statement := []
  /-- Rules; those without an action print the record. -/
  rules : List (Pattern × Option (List Statement)) := []
  ends : List Statement := []
  hasEnd : Bool := false
  functions : List (Text × Function) := []

/-- What is wrong with a script, and in which line if that is known. -/
structure Fault where
  line : Option Nat
  message : Text

/-- How regular expressions are written in scripts. -/
def dialect : Regex.Dialect :=
  { extended := true, controls := true, shielded := true, lenient := true, strict := true }

/-- What is said about an expression that is none. -/
def regexFault (source : Text) (fault : Regex.Fault) : Text :=
  let reason := match fault with
    | .openGroup => "missing ')'"
    | .bracket | .className | .collation | .range | .unfinished =>
      "bad class -- [], [^] or ["
    | .bounds | .brace | .size => "bad interval expression"
    | _ => "missing operand"
  ("regular expression compile failed (" ++ reason ++ ")\n").toList ++ source

/-- A token. -/
inductive Token where
  | newline
  | number (value : Float)
  | text (text : Text)
  | regex (source : Text)
  | name (name : Text)
  /-- A name with a parenthesis directly behind it. -/
  | function (name : Text)
  | keyword (word : String)
  | builtin (name : String)
  | sign (sign : String)

/-- A token with its line, and how messages show it. -/
structure Located where
  token : Token
  line : Nat
  shown : Text

namespace Token

/-- The words with a meaning of their own. -/
def keywords : List String :=
  ["BEGIN", "END", "if", "else", "while", "for", "do", "break", "continue", "next", "nextfile",
    "exit", "return", "delete", "in", "function", "func", "getline", "print", "printf"]

/-- The functions that every script has. -/
def builtins : List String :=
  ["length", "substr", "index", "split", "sub", "gsub", "match", "sprintf", "sin", "cos", "atan2",
    "exp", "log", "sqrt", "int", "rand", "srand", "tolower", "toupper", "system", "close",
    "fflush", "systime"]

/-- Signs, longest first. -/
def signs : List String :=
  ["&&", "||", "++", "--", "+=", "-=", "*=", "/=", "%=", "^=", "==", "<=", ">=", "!=", "!~", ">>",
    "\x7b", "\x7d", "(", ")", "[", "]", ";", ",", "+", "-", "*", "/", "%", "^", "!", ">", "<", "|",
    "?", ":", "~", "$", "="]

/-- Whether a value may end with a token, so that a slash behind it divides. -/
def endsValue : Token → Bool
  | .number _ | .text _ | .regex _ | .name _ => true
  | .builtin found => found = "length"
  | .sign found => [")", "]", "++", "--"].contains found
  | _ => false

/-- The character of hexadecimal or octal digits in a text. -/
def ofDigits (base : Nat) (digits : Text) : Char :=
  Char.ofNat (digits.foldl (fun value digit =>
    value * base + ("0123456789abcdef".toList.idxOf digit.toLower)) 0 % 256)

/-- The text of a string without its escapes. Each character costs one of `fuel`. -/
def unescape (fuel : Nat) (text : Text) : Text :=
  match fuel, text with
  | fuel + 1, '\\' :: rest =>
    let octal := (rest.take 3).takeWhile fun char => '0' ≤ char && char ≤ '7'
    if !octal.isEmpty then ofDigits 8 octal :: unescape fuel (rest.drop octal.length)
    else match rest with
      | 'x' :: rest =>
        let hex := (rest.take 2).takeWhile fun char =>
          "0123456789abcdefABCDEF".toList.elem char
        if hex.isEmpty then '\\' :: 'x' :: unescape fuel rest
        else ofDigits 16 hex :: unescape fuel (rest.drop hex.length)
      | '\n' :: rest => unescape fuel rest
      | letter :: rest =>
        let known : List (Char × Char) :=
          [('"', '"'), ('\\', '\\'), ('n', '\n'), ('t', '\t'), ('f', '\x0c'), ('b', '\x08'),
            ('r', '\r'), ('a', '\x07'), ('v', '\x0b')]
        match known.lookup letter with
        | some char => char :: unescape fuel rest
        | none => '\\' :: letter :: unescape fuel rest
      | [] => ['\\']
  | fuel + 1, char :: rest => char :: unescape fuel rest
  | _, _ => []

/-- The text up to a closing mark that no backslash stands in front of, and what follows the mark.
Brackets protect the mark if `brackets` says so. -/
def closed? (mark : Char) (brackets : Bool) (inside : Bool) : Text → Option (Text × Text)
  | [] => none
  | '\\' :: char :: rest =>
    (closed? mark brackets inside rest).map fun (found, after) => ('\\' :: char :: found, after)
  | char :: rest =>
    if char = mark && !inside then some ([], rest)
    else if char = '\n' then none
    else
      let inside := brackets && (char = '[' || inside && char != ']')
      (closed? mark brackets inside rest).map fun (found, after) => (char :: found, after)

/-- The first token of a text that does not begin with a blank, its length, and how it is shown.
`divides` tells that a slash is a sign. -/
def first? (divides : Bool) (text : Text) : Except Text (Token × Nat) :=
  match text with
  | [] => .ok (.newline, 0)
  | '\n' :: _ => .ok (.newline, 1)
  | '"' :: rest =>
    match closed? '"' false false rest with
    | some (found, _) => .ok (.text (unescape (found.length + 1) found), found.length + 2)
    | none =>
      .error ("runaway string constant \"".toList ++ (rest.takeWhile (· != '\n')).take 10 ++
        " ...".toList)
  | '/' :: rest =>
    if divides then
      if rest.head? = some '=' then .ok (.sign "/=", 2) else .ok (.sign "/", 1)
    else match closed? '/' true false rest with
      | some (found, _) => .ok (.regex found, found.length + 2)
      | none =>
        .error ("runaway regular expression /".toList ++ (rest.takeWhile (· != '\n')).take 10 ++
          " ...".toList)
  | char :: rest =>
    if char.isDigit || char = '.' && rest.head?.any Char.isDigit then
      let digits := Numeral.digitsOf text
      .ok (.number (Numeral.value digits), digits.length)
    else if char.isAlpha || char = '_' then
      let word := text.takeWhile fun char => char.isAlphanum || char == '_'
      let name := String.ofList word
      let token := if keywords.contains name then .keyword name
        else if builtins.contains name then .builtin name
        else if (text.drop word.length).head? = some '(' then .function word
        else .name word
      .ok (token, word.length)
    else match signs.find? fun found => Text.startsWith text found.toList with
      | some found => .ok (.sign found, found.length)
      | none => .error ("unexpected character '".toList ++ char :: ['\''])

/-- The tokens of a script. Each one costs one of `fuel`. -/
def all (fuel : Nat) (line : Nat) (divides : Bool) (text : Text) :
    Except Fault (List Located) :=
  match fuel, text with
  | _, [] => .ok []
  | 0, _ => .ok []
  | fuel + 1, ' ' :: rest | fuel + 1, '\t' :: rest | fuel + 1, '\r' :: rest =>
    all fuel line divides rest
  | fuel + 1, '\\' :: '\n' :: rest => all fuel (line + 1) divides rest
  | fuel + 1, '#' :: rest => all fuel line divides (rest.dropWhile (· != '\n'))
  | fuel + 1, text =>
    match first? divides text with
    | .error message => .error ⟨some line, message⟩
    | .ok (token, length) =>
      let shown := match token with
        | .newline => "end of line".toList
        | _ => text.take length
      let after := match token with
        | .newline => line + 1
        | _ => line
      (all fuel after token.endsValue (text.drop length)).map (⟨token, line, shown⟩ :: ·)

end Token

end Docket.Shell.Awk
