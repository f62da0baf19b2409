import Docket.Shell.Word
import Docket.Shell.Token

/-! Reading shell scripts: from their tokens to commands. -/

namespace Docket.Shell.Reader

/-- What is left to read. -/
abbrev Tokens := List LinedToken

/-- A reading may end in a fault with the number of its line. -/
abbrev Reading := Except (Nat × Fault)

/-- The word at the front, if it is bare. -/
def bare? : Tokens → Option Text
  | ⟨_, .word word⟩ :: _ => Word.bare? word
  | _ => none

/-- Whether a control operator stands at the front. -/
def isControl (operator : String) : Tokens → Bool
  | ⟨_, .control found⟩ :: _ => found == operator.toList
  | _ => false

/-- Whether a reserved word stands at the front. -/
def isReserved (word : String) (tokens : Tokens) : Bool :=
  bare? tokens == some word.toList

/-- Tokens without the line ends at their front. -/
def skipLines (tokens : Tokens) : Tokens :=
  tokens.dropWhile fun token => token.token == .control ['\n']

/-- Words with a meaning of their own where a command may begin. -/
def reserved : List String :=
  ["if", "then", "else", "elif", "fi", "do", "done", "case", "esac", "while", "until", "for", "in",
    "!", "\x7b", "\x7d"]

/-- The name of a token, for messages. -/
def shown : Token → Text
  | .word word =>
    match Word.bare? word with
    | some text =>
      if reserved.contains (String.ofList text) then '"' :: text ++ ['"'] else "word".toList
    | none => "word".toList
  | .control operator => if operator = ['\n'] then "newline".toList else '"' :: operator ++ ['"']
  | .redirection _ _ => "redirection".toList
  | .document .. => "redirection".toList

/-- The name of the end of a script, for messages. -/
def endOfFile : Text :=
  "end of file".toList

/-- The fault of what stands at the front. After a redirection, it is what its target should be. The
end of a line counts to the next line. -/
def unexpected {α : Type} (expected : String) (last : Nat) :
    Tokens → Reading (α × Tokens)
  | [] => .error (last, .unexpected endOfFile expected.toList)
  | ⟨_, .redirection _ _⟩ :: rest => unexpected expected last rest
  | ⟨line, token⟩ :: _ =>
    let line := if token = .control ['\n'] then line + 1 else line
    .error (line, .unexpected (shown token) expected.toList)

/-- Takes a reserved word. -/
def expect (word : String) (last : Nat) (tokens : Tokens) : Reading (Unit × Tokens) :=
  if isReserved word tokens then .ok ((), tokens.drop 1) else unexpected word last tokens

/-- Words that end a list of commands. -/
def closers : List String :=
  ["then", "else", "elif", "fi", "do", "done", "esac", "\x7d"]

/-- Whether a list of commands ends here. -/
def atEnd (tokens : Tokens) : Bool :=
  tokens.isEmpty || isControl ")" tokens || isControl ";;" tokens ||
    closers.any fun word => isReserved word tokens

/-- The redirection at the front, if there is one. -/
def redirection? (tokens : Tokens) : Option (Redirection × Tokens) :=
  match tokens with
  | ⟨_, .redirection descriptor operator⟩ :: rest =>
    let make (default : Nat) (direction : Direction) (target : Word) (rest : Tokens) :=
      some (Redirection.mk (descriptor.getD default) direction target, rest)
    match rest with
    | ⟨_, .document body raw⟩ :: rest =>
      let target : Word := if raw then [.literal body true] else Word.whole .document body
      make 0 .document target rest
    | ⟨_, .word target⟩ :: rest =>
      match String.ofList operator with
      | "<" => make 0 .input target rest
      | ">>" => make 1 .append target rest
      | ">&" => make 1 .duplicate target rest
      | "<&" => make 0 .duplicate target rest
      | _ => make 1 .output target rest
    | _ => none
  | _ => none

/-- The redirections at the front. -/
def redirections (fuel : Nat) (tokens : Tokens) : List Redirection × Tokens :=
  match fuel, redirection? tokens with
  | fuel + 1, some (redirection, rest) =>
    let (others, rest) := redirections fuel rest
    (redirection :: others, rest)
  | _, _ => ([], tokens)

/-- The assignment that a word is, if it is one. -/
def assignment? : Word → Option (Text × Word)
  | .literal text false :: rest =>
    match Text.splitOnce? '=' text with
    | some (name, value) =>
      if Word.isName name then
        some (name, if value.isEmpty then rest else .literal value false :: rest)
      else none
    | none => none
  | _ => none

/-- The words and redirections of a simple command; assignments come before all words. -/
def simple (fuel : Nat) (assignments : List (Text × Word)) (words : List Word)
    (redirections : List Redirection) (line : Nat) (tokens : Tokens) : Command × Tokens :=
  let finished := (Command.simple line assignments words redirections, tokens)
  match fuel with
  | 0 => finished
  | fuel + 1 =>
    match redirection? tokens with
    | some (redirection, rest) =>
      simple fuel assignments words (redirections ++ [redirection]) line rest
    | none =>
      match tokens with
      | ⟨_, .word word⟩ :: rest =>
        match if words.isEmpty then assignment? word else none with
        | some assignment =>
          simple fuel (assignments ++ [assignment]) words redirections line rest
        | none => simple fuel assignments (words ++ [word]) redirections line rest
      | _ => finished

/-- The words up to the end of a line or a semicolon. -/
def wordList (tokens : Tokens) : List Word × Tokens :=
  let isWord (token : LinedToken) : Bool := match token.token with
    | .word _ => true
    | _ => false
  ((tokens.takeWhile isWord).filterMap fun token => match token.token with
    | .word word => some word
    | _ => none, tokens.dropWhile isWord)

/-- The patterns of a case up to the closing parenthesis. -/
def patterns (fuel last : Nat) (tokens : Tokens) : Reading (List Word × Tokens) :=
  match fuel, tokens with
  | fuel + 1, ⟨_, .word word⟩ :: rest =>
    if isControl "|" rest then
      (patterns fuel last (rest.drop 1)).map fun (words, rest) => (word :: words, rest)
    else if isControl ")" rest then .ok ([word], rest.drop 1)
    else unexpected ")" last rest
  | _, tokens => unexpected ")" last tokens

/-- Tokens without a semicolon and the line ends at their front. -/
def skipBreak (tokens : Tokens) : Tokens :=
  skipLines (if isControl ";" tokens then tokens.drop 1 else tokens)

mutual

/-- Commands up to the end of a list. -/
def list (fuel last : Nat) (tokens : Tokens) : Reading (Command × Tokens) :=
  match fuel with
  | 0 => .ok (.nothing, tokens)
  | fuel + 1 => do
    let tokens := skipLines tokens
    if atEnd tokens then return (.nothing, tokens)
    let (command, tokens) ← chain fuel last tokens
    let (command, tokens) := if isControl "&" tokens then
        (Command.background command, tokens.drop 1)
      else (command, if isControl ";" tokens then tokens.drop 1 else tokens)
    let (others, tokens) ← list fuel last tokens
    match others with
    | .sequence commands => return (.sequence (command :: commands), tokens)
    | other => return (.sequence [command, other], tokens)

/-- Pipelines that depend on the success of each other. -/
def chain (fuel last : Nat) (tokens : Tokens) : Reading (Command × Tokens) :=
  match fuel with
  | 0 => .ok (.nothing, tokens)
  | fuel + 1 => do
    let (first, tokens) ← pipeline fuel last tokens
    links fuel last first tokens

/-- Joins the pipelines that depend on a command. -/
def links (fuel last : Nat) (first : Command) (tokens : Tokens) : Reading (Command × Tokens) :=
  match fuel with
  | 0 => .ok (first, tokens)
  | fuel + 1 => do
    let isBoth := isControl "&&" tokens
    if !isBoth && !isControl "||" tokens then return (first, tokens)
    let (second, tokens) ← pipeline fuel last (skipLines (tokens.drop 1))
    links fuel last (if isBoth then .both first second else .either first second) tokens

/-- Commands that feed each other. -/
def pipeline (fuel last : Nat) (tokens : Tokens) : Reading (Command × Tokens) :=
  match fuel with
  | 0 => .ok (.nothing, tokens)
  | fuel + 1 => do
    if isReserved "!" tokens then
      let (command, tokens) ← pipeline fuel last (tokens.drop 1)
      return (.negated command, tokens)
    let (first, tokens) ← command fuel last tokens
    if !isControl "|" tokens then return (first, tokens)
    let (others, tokens) ← pipeline fuel last (skipLines (tokens.drop 1))
    match others with
    | .pipeline parts => return (.pipeline (first :: parts), tokens)
    | other => return (.pipeline [first, other], tokens)

/-- A command. -/
def command (fuel last : Nat) (tokens : Tokens) : Reading (Command × Tokens) :=
  match fuel with
  | 0 => .ok (.nothing, tokens)
  | fuel + 1 => do
    let finish (body : Command) (tokens : Tokens) : Reading (Command × Tokens) :=
      let (found, tokens) := redirections (tokens.length + 1) tokens
      .ok (if found.isEmpty then body else .redirected body found, tokens)
    if isControl "(" tokens then
      let (body, tokens) ← list fuel last (tokens.drop 1)
      if isControl ")" tokens then finish (.subshell body) (tokens.drop 1)
      else unexpected ")" last tokens
    else if atEnd tokens then unexpected "" last tokens
    else match (bare? tokens).map String.ofList with
      | some "if" => do
        let (found, tokens) ← branches fuel last (tokens.drop 1)
        finish found tokens
      | some "while" => do
        let (found, tokens) ← loop fuel last false (tokens.drop 1)
        finish found tokens
      | some "until" => do
        let (found, tokens) ← loop fuel last true (tokens.drop 1)
        finish found tokens
      | some "for" =>
        match bare? (tokens.drop 1) with
        | none => unexpected "" last (tokens.drop 1)
        | some name => do
          let rest := skipLines (tokens.drop 2)
          let (words, rest) := if isReserved "in" rest then
              let (words, rest) := wordList (rest.drop 1)
              (some words, rest)
            else (none, rest)
          let (_, rest) ← expect "do" last (skipBreak rest)
          let (body, rest) ← list fuel last rest
          let (_, rest) ← expect "done" last rest
          finish (.each name words body) rest
      | some "case" =>
        match tokens.drop 1 with
        | ⟨_, .word subject⟩ :: rest => do
          let (_, rest) ← expect "in" last (skipLines rest)
          let (found, rest) ← cases fuel last (skipLines rest)
          finish (.select subject found) rest
        | rest => unexpected "" last rest
      | some "\x7b" => do
        let (body, tokens) ← list fuel last (tokens.drop 1)
        let (_, tokens) ← expect "\x7d" last tokens
        finish body tokens
      | name =>
        match name, tokens.drop 1 with
        | some name, rest =>
          if !isControl "(" rest then plain fuel last tokens
          else if !isControl ")" (rest.drop 1) then unexpected ")" last (rest.drop 1)
          else do
            let (body, rest) ← command fuel last (skipLines (rest.drop 2))
            return (.define name.toList body, rest)
        | none, _ => plain fuel last tokens

/-- A simple command. -/
def plain (fuel last : Nat) (tokens : Tokens) : Reading (Command × Tokens) :=
  match fuel, tokens with
  | _ + 1, token :: _ =>
    let (found, rest) := simple (tokens.length + 1) [] [] [] token.line tokens
    if rest.length = tokens.length then unexpected "" last tokens else .ok (found, rest)
  | _, _ => unexpected "" last tokens

/-- What follows `if` or `elif`, up to and with `fi`. -/
def branches (fuel last : Nat) (tokens : Tokens) : Reading (Command × Tokens) :=
  match fuel with
  | 0 => .ok (.nothing, tokens)
  | fuel + 1 => do
    let (condition, tokens) ← list fuel last tokens
    let (_, tokens) ← expect "then" last tokens
    let (body, tokens) ← list fuel last tokens
    if isReserved "elif" tokens then
      let (other, tokens) ← branches fuel last (tokens.drop 1)
      return (.branch condition body other, tokens)
    if isReserved "else" tokens then
      let (other, tokens) ← list fuel last (tokens.drop 1)
      let (_, tokens) ← expect "fi" last tokens
      return (.branch condition body other, tokens)
    let (_, tokens) ← expect "fi" last tokens
    return (.branch condition body .nothing, tokens)

/-- What follows `while` or `until`. -/
def loop (fuel last : Nat) (untilTrue : Bool) (tokens : Tokens) : Reading (Command × Tokens) :=
  match fuel with
  | 0 => .ok (.nothing, tokens)
  | fuel + 1 => do
    let (condition, tokens) ← list fuel last tokens
    let (_, tokens) ← expect "do" last tokens
    let (body, tokens) ← list fuel last tokens
    let (_, tokens) ← expect "done" last tokens
    return (.loop untilTrue condition body, tokens)

/-- The cases of a selection, up to and with `esac`. -/
def cases (fuel last : Nat) (tokens : Tokens) : Reading (List (List Word × Command) × Tokens) :=
  match fuel with
  | 0 => .ok ([], tokens)
  | fuel + 1 => do
    if isReserved "esac" tokens then return ([], tokens.drop 1)
    let (words, tokens) ← patterns (tokens.length + 1) last
      (if isControl "(" tokens then tokens.drop 1 else tokens)
    let (body, tokens) ← list fuel last tokens
    let tokens := skipLines (if isControl ";;" tokens then tokens.drop 1 else tokens)
    let (others, tokens) ← cases fuel last tokens
    return ((words, body) :: others, tokens)

end

/-- The commands up to the end of a line, and what follows it. -/
def oneLine (fuel last : Nat) (tokens : Tokens) : Reading (Command × Tokens) :=
  match fuel with
  | 0 => .ok (.nothing, tokens)
  | fuel + 1 => do
    if tokens.isEmpty then return (.nothing, tokens)
    if isControl "\n" tokens then return (.nothing, tokens.drop 1)
    let (command, tokens) ← chain (4 * tokens.length + 4) last tokens
    let isBackground := isControl "&" tokens
    let command := if isBackground then .background command else command
    if isBackground || isControl ";" tokens then
      let (others, tokens) ← oneLine fuel last (tokens.drop 1)
      return (.sequence [command, others], tokens)
    else if tokens.isEmpty || isControl "\n" tokens then return (command, tokens.drop 1)
    else unexpected "" last tokens

/-- The commands of the lines of a script, up to the first fault. -/
def lines (fuel last : Nat) (tokens : Tokens) : List Command × Option Token.LinedFault :=
  match fuel, tokens with
  | fuel + 1, _ :: _ =>
    match oneLine (tokens.length + 1) last tokens with
    | .error fault => ([], some fault)
    | .ok (command, rest) =>
      let (others, fault) := lines fuel last rest
      (command :: others, fault)
  | _, _ => ([], none)

/-- Whether a fault comes from the end of the tokens. -/
def atEndOfFile : Token.LinedFault → Bool
  | (_, .unexpected found _) => found == endOfFile
  | _ => false

/-- The commands of a script, up to the first fault. No command of a line with a fault counts. -/
def script (text : Text) : List Command × Option Token.LinedFault :=
  let (tokens, fault) := Token.all text
  let (commands, found) := lines (tokens.length + 1) (text.count '\n' + 1) tokens
  match fault, found with
  | none, found => (commands, found)
  | some fault, none =>
    let complete := tokens.getLast?.all (·.token == .control ['\n'])
    (if complete then commands else commands.dropLast, some fault)
  | some fault, some found => (commands, some (if atEndOfFile found then fault else found))

end Docket.Shell.Reader
