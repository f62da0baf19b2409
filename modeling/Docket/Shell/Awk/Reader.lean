import Docket.Shell.Awk.Token

/-! Reading scripts. -/

namespace Docket.Shell.Awk

/-- What is left of a script, and what is known of the place. -/
structure Cursor where
  rest : List Located
  /-- The line behind the last one. -/
  lastLine : Nat
  /-- How many parentheses and braces are open. -/
  parentheses : Nat := 0
  braces : Nat := 0
  loops : Nat := 0
  inFunction : Bool := false
  /-- Whether records are read here. -/
  inRule : Bool := false
  /-- The functions that have been called, with how many arguments, and in which lines. -/
  called : List (Text × Nat × Nat) := []

/-- What reads a script. -/
abbrev Reading := StateT Cursor (Except Fault)

/-- How expressions are limited: what is printed does not reach to a redirection, and the start of
a loop does not ask for members. -/
structure Limits where
  printed : Bool := false
  noMember : Bool := false

namespace Reading

/-- The next token. -/
def peek? : Reading (Option Token) := do
  return (← get).rest.head?.map (·.token)

/-- The token behind the next one. -/
def second? : Reading (Option Token) := do
  return (← get).rest[1]?.map (·.token)

/-- The line of the next token. -/
def line : Reading Nat := do
  let cursor ← get
  return (cursor.rest.head?.map (·.line)).getD cursor.lastLine

/-- Refuses the script with a message. -/
def refuse {α : Type} (message : Text) : Reading α := do
  throw ⟨some (← line), message⟩

/-- Refuses the next token. -/
def unexpected {α : Type} : Reading α := do
  let cursor ← get
  match cursor.rest with
  | [] =>
    if 0 < cursor.braces then refuse "missing \x7d near end of file".toList
    else refuse "syntax error at or near end of line".toList
  | located :: _ =>
    match located.token with
    | .sign "\x7d" =>
      if 0 < cursor.parentheses then refuse "missing ) near \x7d".toList
      else if cursor.braces = 0 then
        refuse ("extra '\x7d'\nawk: line ".toList ++ Text.ofNat located.line ++
          ": syntax error at or near end of line".toList)
      else refuse "syntax error at or near \x7d".toList
    | .sign ")" =>
      if cursor.parentheses = 0 then refuse "extra ')'".toList
      else refuse "syntax error at or near )".toList
    | _ => refuse ("syntax error at or near ".toList ++ located.shown)

/-- Passes the next token. -/
def pass : Reading Unit :=
  modify fun cursor =>
    match cursor.rest with
    | [] => cursor
    | located :: rest =>
      let next := { cursor with rest }
      match located.token with
      | .sign "(" | .function _ => { next with parentheses := next.parentheses + 1 }
      | .sign ")" => { next with parentheses := next.parentheses - 1 }
      | .sign "\x7b" => { next with braces := next.braces + 1 }
      | .sign "\x7d" => { next with braces := next.braces - 1 }
      | _ => next

/-- Whether a sign comes next. -/
def isSign (sign : String) : Reading Bool := do
  match ← peek? with
  | some (.sign found) => return found == sign
  | _ => return false

/-- Whether a word comes next. -/
def isWord (word : String) : Reading Bool := do
  match ← peek? with
  | some (.keyword found) => return found == word
  | _ => return false

/-- Takes a sign if it comes next. -/
def takeSign (sign : String) : Reading Bool := do
  if ← isSign sign then
    pass
    return true
  else return false

/-- Takes a word if it comes next. -/
def takeWord (word : String) : Reading Bool := do
  if ← isWord word then
    pass
    return true
  else return false

/-- Takes a sign that must come next. -/
def expect (sign : String) : Reading Unit := do
  unless ← takeSign sign do unexpected

/-- Takes a name that must come next. -/
def name : Reading Text := do
  match ← peek? with
  | some (.name found) =>
    pass
    return found
  | _ => unexpected

/-- Passes ends of lines. -/
def passLines : Reading Unit := do
  let cursor ← get
  let isNewline (located : Located) : Bool := located.token matches .newline
  set { cursor with rest := cursor.rest.dropWhile isNewline }

/-- Passes ends of lines and semicolons. -/
def passEnds : Reading Unit := do
  let cursor ← get
  let isEnd (located : Located) : Bool := match located.token with
    | .newline | .sign ";" => true
    | _ => false
  set { cursor with rest := cursor.rest.dropWhile isEnd }

/-- The operation of a sign that assigns. -/
def assignment? : Token → Option (Option Operation)
  | .sign "=" => some none
  | .sign "+=" => some (some .add)
  | .sign "-=" => some (some .subtract)
  | .sign "*=" => some (some .multiply)
  | .sign "/=" => some (some .divide)
  | .sign "%=" => some (some .remainder)
  | .sign "^=" => some (some .power)
  | _ => none

/-- The relation of a sign that compares. -/
def relation? (limits : Limits) : Token → Option Relation
  | .sign "<" => some .less
  | .sign "<=" => some .atMost
  | .sign "==" => some .equal
  | .sign "!=" => some .differs
  | .sign ">=" => some .atLeast
  | .sign ">" => if limits.printed then none else some .more
  | _ => none

/-- How many arguments a function takes, at least and at most. -/
def arity (name : String) : Nat × Nat :=
  match name with
  | "length" => (0, 1)
  | "substr" => (2, 3)
  | "index" | "match" | "atan2" => (2, 2)
  | "split" | "sub" | "gsub" => (2, 3)
  | "sprintf" => (1, 1000)
  | "rand" | "systime" => (0, 0)
  | "srand" | "fflush" => (0, 1)
  | _ => (1, 1)

/-- Whether a value may begin with a token, behind another value. -/
def joins : Token → Bool
  | .number _ | .text _ | .regex _ | .name _ | .function _ | .builtin _ => true
  | .sign found => ["$", "!", "(", "-", "+", "++", "--"].contains found
  | _ => false

mutual

/-- Reads an expression. Each step costs one of `fuel`. -/
def expression (fuel : Nat) (limits : Limits) : Reading Expression := do
  match fuel with
  | 0 => unexpected
  | fuel + 1 =>
    let condition ← alternatives fuel limits
    if ← takeSign "?" then
      passLines
      let first ← expression fuel limits
      passLines
      expect ":"
      passLines
      return .choice condition first (← expression fuel limits)
    else return condition

/-- Reads alternatives. -/
def alternatives (fuel : Nat) (limits : Limits) : Reading Expression := do
  match fuel with
  | 0 => unexpected
  | fuel + 1 => moreAlternatives fuel limits (← conjunction fuel limits)

/-- Reads alternatives behind the first one. -/
def moreAlternatives (fuel : Nat) (limits : Limits) (left : Expression) : Reading Expression := do
  match fuel with
  | 0 => unexpected
  | fuel + 1 =>
    if ← takeSign "||" then
      passLines
      moreAlternatives fuel limits (.either left (← conjunction fuel limits))
    else return left

/-- Reads conditions that must all hold. -/
def conjunction (fuel : Nat) (limits : Limits) : Reading Expression := do
  match fuel with
  | 0 => unexpected
  | fuel + 1 => moreConjunction fuel limits (← membership fuel limits)

/-- Reads conditions behind the first one. -/
def moreConjunction (fuel : Nat) (limits : Limits) (left : Expression) : Reading Expression := do
  match fuel with
  | 0 => unexpected
  | fuel + 1 =>
    if ← takeSign "&&" then
      passLines
      moreConjunction fuel limits (.both left (← membership fuel limits))
    else return left

/-- Reads a question for members. -/
def membership (fuel : Nat) (limits : Limits) : Reading Expression := do
  match fuel with
  | 0 => unexpected
  | fuel + 1 => moreMembership fuel limits (← matching fuel limits)

/-- Reads the array of a question for members, if there is one. -/
def moreMembership (fuel : Nat) (limits : Limits) (left : Expression) : Reading Expression := do
  match fuel with
  | 0 => unexpected
  | fuel + 1 =>
    if limits.noMember then return left
    else if ← takeWord "in" then
      moreMembership fuel limits (.member [left] (← name))
    else return left

/-- Reads a match with an expression. -/
def matching (fuel : Nat) (limits : Limits) : Reading Expression := do
  match fuel with
  | 0 => unexpected
  | fuel + 1 => moreMatching fuel limits (← comparison fuel limits)

/-- Reads matches behind a value. -/
def moreMatching (fuel : Nat) (limits : Limits) (left : Expression) : Reading Expression := do
  match fuel with
  | 0 => unexpected
  | fuel + 1 =>
    if ← takeSign "~" then
      moreMatching fuel limits (.matched true left (← comparison fuel limits))
    else if ← takeSign "!~" then
      moreMatching fuel limits (.matched false left (← comparison fuel limits))
    else return left

/-- Reads a comparison. -/
def comparison (fuel : Nat) (limits : Limits) : Reading Expression := do
  match fuel with
  | 0 => unexpected
  | fuel + 1 => moreComparison fuel limits (← joined fuel limits)

/-- Reads comparisons behind a value. -/
def moreComparison (fuel : Nat) (limits : Limits) (left : Expression) : Reading Expression := do
  match fuel with
  | 0 => unexpected
  | fuel + 1 =>
    match (← peek?).bind (relation? limits) with
    | some relation =>
      pass
      moreComparison fuel limits (.comparison relation left (← joined fuel limits))
    | none => return left

/-- Reads values that are joined. -/
def joined (fuel : Nat) (limits : Limits) : Reading Expression := do
  match fuel with
  | 0 => unexpected
  | fuel + 1 => moreJoined fuel limits (← sum fuel limits)

/-- Reads the values that follow one. -/
def moreJoined (fuel : Nat) (limits : Limits) (left : Expression) : Reading Expression := do
  match fuel with
  | 0 => unexpected
  | fuel + 1 =>
    if (← peek?).any joins then
      moreJoined fuel limits (.joined left (← sum fuel limits))
    else return left

/-- Reads a sum. -/
def sum (fuel : Nat) (limits : Limits) : Reading Expression := do
  match fuel with
  | 0 => unexpected
  | fuel + 1 => moreSum fuel limits (← product fuel limits)

/-- Reads summands behind the first one. -/
def moreSum (fuel : Nat) (limits : Limits) (left : Expression) : Reading Expression := do
  match fuel with
  | 0 => unexpected
  | fuel + 1 =>
    if ← takeSign "+" then
      moreSum fuel limits (.calculation .add left (← product fuel limits))
    else if ← takeSign "-" then
      moreSum fuel limits (.calculation .subtract left (← product fuel limits))
    else return left

/-- Reads a product. -/
def product (fuel : Nat) (limits : Limits) : Reading Expression := do
  match fuel with
  | 0 => unexpected
  | fuel + 1 => moreProduct fuel limits (← signed fuel limits)

/-- Reads factors behind the first one. -/
def moreProduct (fuel : Nat) (limits : Limits) (left : Expression) : Reading Expression := do
  match fuel with
  | 0 => unexpected
  | fuel + 1 =>
    if ← takeSign "*" then
      moreProduct fuel limits (.calculation .multiply left (← signed fuel limits))
    else if ← takeSign "/" then
      moreProduct fuel limits (.calculation .divide left (← signed fuel limits))
    else if ← takeSign "%" then
      moreProduct fuel limits (.calculation .remainder left (← signed fuel limits))
    else return left

/-- Reads a value that may have a sign. -/
def signed (fuel : Nat) (limits : Limits) : Reading Expression := do
  match fuel with
  | 0 => unexpected
  | fuel + 1 =>
    if ← takeSign "!" then return .opposite (← signed fuel limits)
    else if ← takeSign "-" then return .negative (← signed fuel limits)
    else if ← takeSign "+" then return .positive (← signed fuel limits)
    else
      let base ← piped fuel limits (← primary fuel limits true)
      if ← takeSign "^" then
        return .calculation .power base (← signed fuel limits)
      else return base

/-- Reads lines that are taken from a command, behind the command. -/
def piped (fuel : Nat) (limits : Limits) (command : Expression) : Reading Expression := do
  match fuel with
  | 0 => unexpected
  | fuel + 1 =>
    let takes := match ← second? with
      | some (.keyword "getline") => true
      | _ => false
    if !limits.printed && takes && (← isSign "|") then
      pass
      pass
      piped fuel limits (.line .command (some command) (← target? fuel))
    else return command

/-- Reads the target of a line, if there is one. -/
def target? (fuel : Nat) : Reading (Option Expression) := do
  match fuel with
  | 0 => unexpected
  | fuel + 1 =>
    match ← peek? with
    | some (.name _) | some (.sign "$") => return some (← primary fuel {} false)
    | _ => return none

/-- Reads expressions between commas up to a closing sign. -/
def arguments (fuel : Nat) (closing : String) : Reading (List Expression) := do
  match fuel with
  | 0 => unexpected
  | fuel + 1 =>
    if ← takeSign closing then return []
    let values ← list fuel {}
    expect closing
    return values

/-- Reads expressions between commas. -/
def list (fuel : Nat) (limits : Limits) : Reading (List Expression) := do
  match fuel with
  | 0 => unexpected
  | fuel + 1 =>
    let first ← expression fuel limits
    if ← takeSign "," then
      passLines
      return first :: (← list fuel limits)
    else return [first]

/-- Reads what follows something that has a value and may be assigned to. -/
def assigned (fuel : Nat) (limits : Limits) (target : Expression) : Reading Expression := do
  match fuel with
  | 0 => unexpected
  | fuel + 1 =>
    match (← peek?).bind assignment? with
    | some operation =>
      pass
      return .assign operation target (← expression fuel limits)
    | none =>
      if ← takeSign "++" then return .step true false target
      else if ← takeSign "--" then return .step false false target
      else return target

/-- Reads a value. It is no target of an assignment unless `assigns` says so. -/
def primary (fuel : Nat) (limits : Limits) (assigns : Bool) : Reading Expression := do
  match fuel with
  | 0 => unexpected
  | fuel + 1 =>
    let settled (target : Expression) : Reading Expression :=
      if assigns then assigned fuel limits target else return target
    match ← peek? with
    | some (.number value) =>
      pass
      return .number value
    | some (.text text) =>
      pass
      return .text text
    | some (.regex source) =>
      match Regex.read? dialect source with
      | .ok regex =>
        pass
        return .regex regex
      | .error fault => refuse (regexFault source fault)
    | some (.sign "(") =>
      pass
      let values ← list fuel {}
      expect ")"
      match values with
      | [value] => return value
      | values =>
        if ← takeWord "in" then return .member values (← name)
        else unexpected
    | some (.sign "$") =>
      pass
      let place ←
        if (← isSign "-") || (← isSign "+") || (← isSign "!") then signed fuel limits
        else primary fuel limits false
      settled (.field place)
    | some (.sign "++") =>
      pass
      return .step true true (← primary fuel limits false)
    | some (.sign "--") =>
      pass
      return .step false true (← primary fuel limits false)
    | some (.name found) =>
      pass
      if ← takeSign "[" then
        if ← isSign "]" then unexpected
        settled (.element found (← arguments fuel "]"))
      else settled (.named found)
    | some (.function found) =>
      pass
      pass
      modify fun cursor => { cursor with parentheses := cursor.parentheses - 1 }
      let values ← arguments fuel ")"
      let line ← line
      modify fun cursor =>
        { cursor with called := (found, values.length, line) :: cursor.called }
      return .call found values
    | some (.builtin found) =>
      pass
      if ← takeSign "(" then
        let values ← arguments fuel ")"
        let (least, most) := arity found
        if values.length < least || most < values.length then
          refuse ("wrong number of arguments in call to " ++ found).toList
        return .builtin found values
      else if found = "length" then return .builtin found []
      else unexpected
    | some (.keyword "getline") =>
      pass
      let target ← target? fuel
      if ← takeSign "<" then
        return .line .file (some (← primary fuel {} false)) target
      else return .line .records none target
    | _ => unexpected

end

/-- Reads where output goes, if that is said. -/
def direction? (fuel : Nat) : Reading (Option (Direction × Expression)) := do
  let direction? : Option Direction := match ← peek? with
    | some (.sign ">") => some .file
    | some (.sign ">>") => some .append
    | some (.sign "|") => some .command
    | _ => none
  match direction? with
  | some direction =>
    pass
    return some (direction, ← expression fuel { printed := true })
  | none => return none

/-- Whether a statement may end here. -/
def isEnd : Reading Bool := do
  match ← peek? with
  | none | some .newline => return true
  | some (.sign found) => return [";", "\x7d"].contains found
  | _ => return false

/-- Reads what is printed: values, which may stand in parentheses. -/
def printed (fuel : Nat) : Reading (List Expression) := do
  let start ← get
  let isOver : Reading Bool := do
    match ← peek? with
    | some (.sign found) => return [";", "\x7d", ">", ">>", "|"].contains found
    | none | some .newline => return true
    | _ => return false
  if ← isOver then return []
  if ← takeSign "(" then
    -- Values in parentheses are all there is, or else the parentheses belong to the first value.
    let whole : Reading (Option (List Expression)) := do
      let values ← arguments fuel ")"
      return if ← isOver then some values else none
    match whole.run (← get) with
    | .ok (some values, after) =>
      set after
      return values
    | _ => set start
  list fuel { printed := true }

/-- Takes the end of a statement. -/
def finish : Reading Unit := do
  match ← peek? with
  | some .newline | some (.sign ";") => pass
  | _ => unless ← isEnd do unexpected

/-- Reads a statement that holds no others, without its end. -/
def simple (fuel : Nat) (limits : Limits) : Reading Statement := do
  if ← takeWord "print" then
    let values ← printed fuel
    return .print values (← direction? fuel)
  else if ← takeWord "printf" then
    let values ← printed fuel
    if values.isEmpty then unexpected
    return .format values (← direction? fuel)
  else if ← takeWord "delete" then
    let array ← name
    if ← takeSign "[" then return .delete array (some (← arguments fuel "]"))
    else return .delete array none
  else return .evaluate (← expression fuel limits)

/-- Reads a statement that goes elsewhere, without its end. -/
def jump? (fuel : Nat) : Reading (Option Statement) := do
  let cursor ← get
  let value : Reading (Option Expression) := do
    if ← isEnd then return none else return some (← expression fuel {})
  if ← takeWord "next" then
    if !cursor.inRule && !cursor.inFunction then refuse "improper use of next".toList
    return some .next
  else if ← takeWord "nextfile" then return some .nextFile
  else if ← takeWord "exit" then return some (.exit (← value))
  else if ← takeWord "return" then
    if !cursor.inFunction then refuse "return outside function body".toList
    return some (.return (← value))
  else if ← takeWord "break" then
    if cursor.loops = 0 then refuse "break statement outside of loop".toList
    return some .leave
  else if ← takeWord "continue" then
    if cursor.loops = 0 then refuse "continue statement outside of loop".toList
    return some .goOn
  else return none

/-- Reads the condition of a statement in its parentheses. -/
def condition (fuel : Nat) : Reading Expression := do
  expect "("
  let found ← expression fuel {}
  expect ")"
  return found

/-- The parts of a loop between its parentheses. -/
inductive Head where
  | each (name array : Text)
  | count (start : Option Statement) (condition : Option Expression) (step : Option Statement)

/-- Reads the parts of a loop. -/
def head (fuel : Nat) : Reading Head := do
  expect "("
  let before ← get
  let each? : Reading (Option (Text × Text)) := do
    let variable_ ← name
    unless ← takeWord "in" do return none
    let array ← name
    return if ← takeSign ")" then some (variable_, array) else none
  match each?.run before with
  | .ok (some (variable_, array), after) =>
    set after
    return .each variable_ array
  | _ =>
    set before
    let start ← if ← isSign ";" then pure none else some <$> simple fuel {}
    expect ";"
    passLines
    let condition ← if ← isSign ";" then pure none else some <$> expression fuel {}
    expect ";"
    passLines
    let step ← if ← isSign ")" then pure none else some <$> simple fuel {}
    expect ")"
    return .count start condition step

mutual

/-- Reads a statement with its end. Each step costs one of `fuel`. -/
def statement (fuel : Nat) : Reading Statement := do
  match fuel with
  | 0 => unexpected
  | fuel + 1 =>
    if ← takeSign ";" then return .block []
    else if ← isSign "\x7b" then return .block (← block fuel)
    else if ← takeWord "if" then
      let condition ← condition fuel
      passLines
      let first ← statement fuel
      let after ← get
      passLines
      if ← takeWord "else" then
        passLines
        return .when condition first (some (← statement fuel))
      else
        set after
        return .when condition first none
    else if ← takeWord "while" then
      let condition ← condition fuel
      if ← takeSign ";" then return .repeatWhile condition (.block [])
      passLines
      return .repeatWhile condition (← body fuel)
    else if ← takeWord "do" then
      passLines
      let body ← body fuel
      passLines
      unless ← takeWord "while" do unexpected
      let condition ← condition fuel
      finish
      return .repeatUntil body condition
    else if ← takeWord "for" then
      let head ← head fuel
      let body ← if ← takeSign ";" then pure (.block []) else do
        passLines
        body fuel
      match head with
      | .each name array => return .forEach name array body
      | .count start condition step => return .count start condition step body
    else
      let found ← match ← jump? fuel with
        | some found => pure found
        | none => simple fuel {}
      finish
      return found

/-- Reads the body of a loop. -/
def body (fuel : Nat) : Reading Statement := do
  match fuel with
  | 0 => unexpected
  | fuel + 1 =>
    modify fun cursor => { cursor with loops := cursor.loops + 1 }
    let found ← statement fuel
    modify fun cursor => { cursor with loops := cursor.loops - 1 }
    return found

/-- Reads statements between braces. -/
def block (fuel : Nat) : Reading (List Statement) := do
  match fuel with
  | 0 => unexpected
  | fuel + 1 =>
    expect "\x7b"
    statements fuel

/-- Reads statements up to the closing brace. -/
def statements (fuel : Nat) : Reading (List Statement) := do
  match fuel with
  | 0 => unexpected
  | fuel + 1 =>
    passEnds
    if ← takeSign "\x7d" then return []
    let first ← statement fuel
    return first :: (← statements fuel)

end

/-- Reads the parameters of a function. -/
def parameters (fuel : Nat) (function : Text) : Reading (List Text) := do
  if ← takeSign ")" then return []
  let rec more (fuel : Nat) (found : List Text) : Reading (List Text) := do
    match fuel with
    | 0 => unexpected
    | fuel + 1 =>
      passLines
      let parameter ← name
      if found.contains parameter then
        refuse (parameter ++ " is duplicated in argument list".toList)
      if parameter = function then
        refuse ("function parameter cannot be the function\nawk: line ".toList ++
          Text.ofNat (← line) ++ ": syntax error at or near ".toList ++ parameter)
      if ← takeSign "," then more fuel (found ++ [parameter])
      else
        expect ")"
        return found ++ [parameter]
  more fuel []

/-- Reads a function behind its word. -/
def function (fuel : Nat) : Reading (Text × Function) := do
  let name ← match ← peek? with
    | some (.name found) => do
      pass
      expect "("
      pure found
    | some (.function found) => do
      pass
      pass
      modify fun cursor => { cursor with parentheses := cursor.parentheses - 1 }
      pure found
    | _ => unexpected
  let parameters ← parameters fuel name
  passLines
  modify fun cursor => { cursor with inFunction := true }
  let body ← block fuel
  modify fun cursor => { cursor with inFunction := false }
  return (name, { parameters, body })

/-- Reads a rule. -/
def rule (fuel : Nat) : Reading (Pattern × Option (List Statement)) := do
  modify fun cursor => { cursor with inRule := true }
  let pattern ← if ← isSign "\x7b" then pure Pattern.always else do
    let first ← expression fuel {}
    if ← takeSign "," then
      passLines
      pure (.range first (← expression fuel {}))
    else pure (.one first)
  let action ← if ← isSign "\x7b" then some <$> block fuel
    else do
      finish
      pure none
  modify fun cursor => { cursor with inRule := false }
  return (pattern, action)

/-- Reads the items of a script. -/
def items (fuel : Nat) (script : Script) : Reading Script := do
  match fuel with
  | 0 => unexpected
  | fuel + 1 =>
    passEnds
    match ← peek? with
    | none => return script
    | some (.keyword "BEGIN") =>
      pass
      let found ← block fuel
      items fuel { script with begins := script.begins ++ found }
    | some (.keyword "END") =>
      pass
      let found ← block fuel
      items fuel { script with ends := script.ends ++ found, hasEnd := true }
    | some (.keyword "function") | some (.keyword "func") =>
      pass
      let found ← function fuel
      items fuel { script with functions := script.functions ++ [found] }
    | _ =>
      let found ← rule fuel
      items fuel { script with rules := script.rules ++ [found] }

end Reading

/-- The script of a text. -/
def Script.read? (text : Text) : Except Fault Script := do
  let tokens ← Token.all (2 * text.length + 2) 1 false text
  let lastLine := text.count '\n' + 2
  let fuel := 40 * text.length + 100
  let (script, after) ← (Reading.items fuel {}).run { rest := tokens, lastLine }
  let called := after.called.reverse
  let crowded (name : Text) (count : Nat) : Bool :=
    (script.functions.lookup name).any (·.parameters.length < count)
  match called.find? fun (name, count, _) => crowded name count with
  | some (name, _, line) =>
    throw ⟨some line, "too many arguments in call to ".toList ++ name⟩
  | none => pure ()
  match called.find? fun (name, _) => (script.functions.lookup name).isNone with
  | some (name, _) =>
    throw ⟨some lastLine, "function ".toList ++ name ++ " never defined".toList⟩
  | none => return script

end Docket.Shell.Awk
