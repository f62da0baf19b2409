import Docket.Text.Basic

/-! Words of shell scripts, which are literal text and what is to be put in its place, and commands
made of them. -/

namespace Docket.Shell

/-- How the value of a parameter is changed. What depends on the value being set may depend on it
being more than empty as well. -/
inductive Change where
  | none
  | length
  | orElse (ifEmpty : Bool)
  | assign (ifEmpty : Bool)
  | demand (ifEmpty : Bool)
  | instead (ifEmpty : Bool)
  | cutFront (longest : Bool)
  | cutBack (longest : Bool)
deriving DecidableEq, Repr

/-- A part of a word. Quoted parts are neither split into fields nor matched against names. -/
inductive Part where
  | literal (text : Text) (quoted : Bool)
  /-- A parameter, with a change of its value, for which a word may be needed. -/
  | parameter (name : Text) (change : Change) (word : Text) (quoted : Bool)
  /-- The output of a script. -/
  | output (source : Text) (quoted : Bool)
  /-- The value of an arithmetic expression. -/
  | sum (source : Text) (quoted : Bool)
deriving DecidableEq, Repr

/-- A word is a row of parts. -/
abbrev Word := List Part

/-- Why a script is no script. -/
inductive Fault where
  | openQuote
  | openBrace
  | openBackquote
  | openParenthesis
  /-- Something stands where something else, if it is known what, is expected. -/
  | unexpected (found : Text) (expected : Text)
deriving DecidableEq, Repr

/-- The wording of a fault. -/
def Fault.message : Fault → Text
  | openQuote => "Unterminated quoted string".toList
  | openBrace => "Missing '\x7d'".toList
  | openBackquote => "EOF in backquote substitution".toList
  | openParenthesis => "end of file unexpected (expecting \")\")".toList
  | unexpected found expected =>
    found ++ " unexpected".toList ++
      if expected.isEmpty then [] else " (expecting \"".toList ++ expected ++ "\")".toList

namespace Word

/-- Letters that names begin with. -/
def isNameStart (char : Char) : Bool :=
  char.isAlpha || char == '_'

/-- Characters in names. -/
def isNameChar (char : Char) : Bool :=
  char.isAlphanum || char == '_'

/-- Parameters with names of one sign. -/
def isSpecial (char : Char) : Bool :=
  "@*#?-$!".toList.contains char

/-- Whether a text is a name. -/
def isName (text : Text) : Bool :=
  text.head?.any isNameStart && text.all isNameChar

/-- Characters that end a word outside quotes. -/
def isEnd (char : Char) : Bool :=
  " \t\n;&|<>()".toList.contains char

/-- Puts a literal character in front of a word. -/
def add (char : Char) (quoted : Bool) (word : Word) : Word :=
  match word with
  | .literal text kind :: rest =>
    if kind = quoted then .literal (char :: text) kind :: rest
    else .literal [char] quoted :: word
  | word => .literal [char] quoted :: word

/-- The text up to the single quote that closes it, and what follows. -/
def single? (text : Text) : Except Fault (Text × Text) :=
  match Text.splitOnce? '\'' text with
  | some found => .ok found
  | none => .error .openQuote

/-- The text up to the sign that closes a bracket, and what follows. Brackets inside count, and
quoted signs do not. -/
def enclosed? (opening closing : Char) (fault : Fault) (depth : Nat) (quote : Option Char) :
    Text → Except Fault (Text × Text)
  | [] => .error (if quote.isSome then .openQuote else fault)
  | '\\' :: char :: rest =>
    (enclosed? opening closing fault depth quote rest).map fun (inner, after) =>
      ('\\' :: char :: inner, after)
  | char :: rest =>
    let goOn (depth : Nat) (quote : Option Char) : Except Fault (Text × Text) :=
      (enclosed? opening closing fault depth quote rest).map fun (inner, after) =>
        (char :: inner, after)
    match quote with
    | some mark => goOn depth (if char = mark then none else quote)
    | none =>
      if char = '\'' || char = '"' then goOn depth (some char)
      else if char = opening then goOn (depth + 1) none
      else if char = closing then
        match depth with
        | 0 => .ok ([], rest)
        | depth + 1 => goOn depth none
      else goOn depth none

/-- The text up to a closing backquote, without the backslashes before special signs. -/
def backquoted? : Text → Except Fault (Text × Text)
  | [] => .error .openBackquote
  | '`' :: rest => .ok ([], rest)
  | '\\' :: char :: rest =>
    (backquoted? rest).map fun (inner, after) =>
      (if "$`\\".toList.contains char then char :: inner else '\\' :: char :: inner, after)
  | char :: rest => (backquoted? rest).map fun (inner, after) => (char :: inner, after)

/-- The operators that change parameters, longest first. -/
def operators : List (String × Change) := [
  (":-", .orElse true), (":=", .assign true), (":?", .demand true), (":+", .instead true),
  ("%%", .cutBack true), ("##", .cutFront true), ("-", .orElse false), ("=", .assign false),
  ("?", .demand false), ("+", .instead false), ("%", .cutBack false), ("#", .cutFront false)]

/-- Where a word stands: on its own, between double quotes, inside the braces of a parameter, or as
a document in the script. -/
inductive Place where
  | bare
  | quotes
  | braces
  | document
deriving DecidableEq, Repr

/-- The parameter in braces. -/
def braced (inner : Text) (quoted : Bool) : Part :=
  match inner with
  | '#' :: first :: rest =>
    if isNameChar first || isSpecial first then .parameter (first :: rest) .length [] quoted
    else .parameter ['#'] .none [] quoted
  | inner =>
    let name := match inner with
      | first :: _ => if isSpecial first then [first] else inner.takeWhile isNameChar
      | [] => []
    let rest := inner.drop name.length
    match operators.find? fun (operator, _) => Text.startsWith rest operator.toList with
    | some (operator, change) => .parameter name change (rest.drop operator.length) quoted
    | none => .parameter name .none [] quoted

/-- The part after a dollar sign, if there is one, and what follows it. -/
def dollar? (quoted : Bool) (text : Text) : Except Fault (Option Part × Text) :=
  match text with
  | '\x7b' :: rest =>
    (enclosed? '\x7b' '\x7d' .openBrace 0 none rest).map fun (inner, after) =>
      (some (braced inner quoted), after)
  | '(' :: rest =>
    (enclosed? '(' ')' .openParenthesis 0 none rest).map fun (inner, after) =>
      match inner with
      | '(' :: sum =>
        if sum.getLast? == some ')' then (some (.sum sum.dropLast quoted), after)
        else (some (.output inner quoted), after)
      | inner => (some (.output inner quoted), after)
  | char :: rest =>
    if isSpecial char || char.isDigit then .ok (some (.parameter [char] .none [] quoted), rest)
    else if isNameStart char then
      let name := text.takeWhile isNameChar
      .ok (some (.parameter name .none [] quoted), text.drop name.length)
    else .ok (none, text)
  | [] => .ok (none, [])

/-- A word at the front of a text, and what follows it. Inside double quotes it ends with the
closing quote, and inside braces with the text. Each part costs one of `fuel`. -/
def read? (fuel : Nat) (place : Place) (text : Text) : Except Fault (Word × Text) :=
  match fuel with
  | 0 => .ok ([], text)
  | fuel + 1 =>
    let quoted := place = .quotes || place = .document
    let special := if place = .document then "$`\\".toList else "$`\"\\".toList
    let adding (char : Char) (literal : Bool) (rest : Text) : Except Fault (Word × Text) :=
      (read? fuel place rest).map fun (word, after) => (add char literal word, after)
    match text with
    | [] => if place = .quotes then .error .openQuote else .ok ([], [])
    | '\\' :: '\n' :: rest => read? fuel place rest
    | '\\' :: char :: rest =>
      if quoted && !List.elem char special then adding '\\' true (char :: rest)
      else adding char true rest
    | '"' :: rest =>
      if place = .quotes then .ok ([], rest)
      else if quoted then adding '"' true rest
      else do
        let (inner, rest) ← read? fuel .quotes rest
        let (word, after) ← read? fuel place rest
        return (.literal [] true :: inner ++ word, after)
    | '\'' :: rest =>
      if quoted then adding '\'' true rest
      else do
        let (inner, rest) ← single? rest
        let (word, after) ← read? fuel place rest
        return (.literal inner true :: word, after)
    | '`' :: rest => do
      let (source, rest) ← backquoted? rest
      let (word, after) ← read? fuel place rest
      return (.output source quoted :: word, after)
    | '$' :: rest => do
      match ← dollar? quoted rest with
      | (some part, rest) =>
        let (word, after) ← read? fuel place rest
        return (part :: word, after)
      | (none, rest) => adding '$' quoted rest
    | char :: rest =>
      if place = .bare && isEnd char then .ok ([], text) else adding char quoted rest

/-- The word that a whole text is at a place that is no end of words. -/
def whole (place : Place) (text : Text) : Word :=
  let closed := if place = .quotes then text ++ ['"'] else text
  ((read? (closed.length + 2) place closed).toOption.map Prod.fst).getD []

/-- The text of a word that consists of unquoted literal text. -/
def bare? : Word → Option Text
  | [.literal text false] => some text
  | _ => none

/-- The written text of a word, for messages. -/
def shown (word : Word) : Text :=
  word.flatMap fun
    | .literal text _ => text
    | _ => []

end Word

/-- What a redirection does with its target. -/
inductive Direction where
  | input
  | output
  | append
  /-- The target names another descriptor. -/
  | duplicate
  /-- The target is the text to read. -/
  | document
deriving DecidableEq, Repr

/-- A redirection of a descriptor. -/
structure Redirection where
  descriptor : Nat
  direction : Direction
  target : Word
deriving DecidableEq, Repr

/-- A command. -/
inductive Command where
  | simple (line : Nat) (assignments : List (Text × Word)) (words : List Word)
    (redirections : List Redirection)
  | pipeline (parts : List Command)
  | negated (command : Command)
  /-- The second command runs if the first one succeeds. -/
  | both (first second : Command)
  /-- The second command runs if the first one fails. -/
  | either (first second : Command)
  | sequence (commands : List Command)
  | background (command : Command)
  | branch (condition body other : Command)
  | loop (untilTrue : Bool) (condition body : Command)
  /-- The body runs for each word; without words, for each argument. -/
  | each (name : Text) (words : Option (List Word)) (body : Command)
  | select (subject : Word) (cases : List (List Word × Command))
  | subshell (body : Command)
  | redirected (body : Command) (redirections : List Redirection)
  | define (name : Text) (body : Command)
deriving Inhabited

/-- The command that does nothing. -/
def Command.nothing : Command :=
  .sequence []

end Docket.Shell
