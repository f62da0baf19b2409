import Docket.Shell.Word
import Docket.Text.Integer

/-! Tokens of shell scripts. -/

namespace Docket.Shell

/-- A token. -/
inductive Token where
  | word (word : Word)
  /-- A control operator; the end of a line is one. -/
  | control (operator : Text)
  /-- A redirection operator, with the descriptor before it. -/
  | redirection (descriptor : Option Nat) (operator : Text)
  /-- A document in the script; a raw one is taken as it stands. -/
  | document (body : Text) (raw : Bool)
deriving DecidableEq, Repr

/-- A token with the number of its line. -/
structure LinedToken where
  line : Nat
  token : Token
deriving DecidableEq, Repr

namespace Token

/-- The control operators, longest first. -/
def controls : List String :=
  ["&&", "||", ";;", ";", "&", "|", "(", ")", "\n"]

/-- The redirection operators, longest first. -/
def redirections : List String :=
  ["<<-", "<<", ">>", ">&", "<&", ">|", "<>", ">", "<"]

/-- The operator at the front of a text. -/
def operatorOf? (known : List String) (text : Text) : Option Text :=
  (known.find? fun operator => Text.startsWith text operator.toList).map String.toList

/-- The lines before the one that ends a document, and what follows that one. -/
def documentBody (fuel : Nat) (ending : Text) (tabs : Bool) (text : Text) : Text × Text :=
  match fuel, text with
  | fuel + 1, _ :: _ =>
    let line := text.takeWhile (· != '\n')
    let rest := (text.dropWhile (· != '\n')).drop 1
    let line := if tabs then line.dropWhile (· == '\t') else line
    if line = ending then ([], rest)
    else
      let (body, after) := documentBody fuel ending tabs rest
      (line ++ '\n' :: body, after)
  | _, text => ([], text)

/-- The number of line ends in the part of a text before what is left of it. -/
def linesBetween (text rest : Text) : Nat :=
  (text.take (text.length - rest.length)).count '\n'

/-- A fault with the number of its line. -/
abbrev LinedFault := Nat × Fault

/-- Puts a token in front of others. -/
def before (line : Nat) (token : Token) (others : List LinedToken × Option LinedFault) :
    List LinedToken × Option LinedFault :=
  (⟨line, token⟩ :: others.1, others.2)

/-- The tokens of a text that begins in a line, up to the first fault. -/
def scan (fuel line : Nat) (text : Text) : List LinedToken × Option LinedFault :=
  match fuel with
  | 0 => ([], none)
  | fuel + 1 =>
    match text with
    | [] => ([], none)
    | '\\' :: '\n' :: rest => scan fuel (line + 1) rest
    | char :: rest =>
      if char = ' ' || char = '\t' then scan fuel line rest
      else if char = '#' then scan fuel line (rest.dropWhile (· != '\n'))
      else
        let digits := text.takeWhile Char.isDigit
        let (descriptor, marked) :=
          match operatorOf? redirections (text.drop digits.length) with
          | some _ => (Text.natural? digits, text.drop digits.length)
          | none => (none, text)
        match operatorOf? redirections marked, operatorOf? controls text with
        | some operator, _ =>
          let rest := marked.drop operator.length
          if operator = "<<".toList || operator = "<<-".toList then
            let start := rest.dropWhile fun char => char == ' ' || char == '\t'
            match Word.read? (start.length + 1) .bare start with
            | .error fault => ([], some (line, fault))
            | .ok (ending, rest) =>
              let raw := ending.any fun
                | .literal _ quoted => quoted
                | _ => false
              let onLine := rest.takeWhile (· != '\n')
              let below := (rest.dropWhile (· != '\n')).drop 1
              let tabs := operator = "<<-".toList
              let (body, after) := documentBody (below.length + 1) (Word.shown ending) tabs below
              before line (.redirection descriptor "<<".toList) <|
                before line (.document body raw) <| scan fuel line (onLine ++ '\n' :: after)
          else before line (.redirection descriptor operator) (scan fuel line rest)
        | none, some operator =>
          let next := if operator = ['\n'] then line + 1 else line
          before line (.control operator) (scan fuel next (text.drop operator.length))
        | none, none =>
          match Word.read? (text.length + 1) .bare text with
          | .error fault => ([], some (line + text.count '\n', fault))
          | .ok (found, rest) =>
            before line (.word found) (scan fuel (line + linesBetween text rest) rest)

/-- The tokens of a script, up to the first fault. -/
def all (text : Text) : List LinedToken × Option LinedFault :=
  scan (2 * text.length + 1) 1 text

end Token

end Docket.Shell
