import Docket.Shell.Regex.Reader

/-! Scripts that edit streams, commands for the lines that addresses select, and how they are
read. -/

namespace Docket.Shell.Sed

/-- An expression with how it is searched for; without an expression, the last one that was
used. -/
structure Search where
  regex : Option Regex
  manner : Manner

/-- What selects a line. -/
inductive Address where
  | line (number : Nat)
  | last
  | search (search : Search)
  /-- Every so many lines from one on. -/
  | every (first step : Nat)

/-- Where the lines that are selected end. -/
inductive Until where
  | address (address : Address)
  /-- So many lines further on. -/
  | further (count : Nat)
  /-- At a line whose number is a multiple. -/
  | multiple (factor : Nat)

/-- The lines that a command is for. -/
structure Selection where
  first : Option Address := none
  until_ : Option Until := none
  negated : Bool := false

/-- What becomes of the case of letters. -/
inductive Casing where
  | keep
  | upper
  | lower
deriving DecidableEq

/-- A part of a replacement. -/
inductive Part where
  | text (text : Text)
  | group (index : Nat)
  /-- The case of what follows. -/
  | casing (casing : Casing)
  /-- The case of the next character. -/
  | next (casing : Casing)

/-- A substitution: what is searched for, what replaces it, and which matches are meant. -/
structure Substitution where
  search : Search
  parts : List Part
  all : Bool := false
  number : Nat := 1
  prints : Bool := false
  file : Option Text := none

/-- A command. Places in a script are numbers of commands. -/
inductive Action where
  | nothing
  /-- The commands of a block, which end before a place. -/
  | block (stop : Nat)
  | append (text : Text)
  | insert (text : Text)
  | change (text : Text)
  | jump (target : Nat)
  /-- Jumps if a substitution was made since the last input or jump, or if none was made. -/
  | jumpIf (made : Bool) (target : Nat)
  | delete
  | deleteLine
  | print
  | printLine
  | show (width : Option Nat)
  | lineNumber
  | fileName
  | fetch (append : Bool)
  | hold (append : Bool)
  | exchange
  | next
  | nextAppended
  | quit (status : Nat) (silent : Bool)
  | read (file : Text)
  | readLine (file : Text)
  | substitute (substitution : Substitution)
  | translate (pairs : List (Char × Char))
  | write (file : Text) (lineOnly : Bool)
  | clear

/-- A command with the lines that it is for. -/
structure Command where
  selection : Selection
  action : Action

/-- The commands of a script by their places. -/
abbrev Script := Array Command

/-- The text that is left of a script, and how many characters have been taken. -/
structure Scan where
  rest : Text
  taken : Nat := 0

/-- What is wrong with a script, and after how many characters; without them, no place is told. -/
structure Fault where
  message : Text
  taken : Option Nat

/-- What reads a script. -/
abbrev Read := StateT Scan (Except Fault)

namespace Read

/-- Stops reading at the place that has been reached. -/
def refuse {α : Type} (message : String) : Read α := do
  throw ⟨message.toList, some (← get).taken⟩

/-- The next character, which is not taken. -/
def peek? : Read (Option Char) := do
  return (← get).rest.head?

/-- Takes so many characters. -/
def skip (count : Nat) : Read Unit :=
  modify fun scan => ⟨scan.rest.drop count, scan.taken + min count scan.rest.length⟩

/-- Takes the next character. -/
def take? : Read (Option Char) := do
  let char ← peek?
  skip 1
  return char

/-- Takes the characters at the front with a property. -/
def takeWhile (property : Char → Bool) : Read Text := do
  let found := (← get).rest.takeWhile property
  skip found.length
  return found

/-- Whether a character is a blank. -/
def isBlank (char : Char) : Bool :=
  char == ' ' || char == '\t'

/-- Whether a character is white space. -/
def isSpace (char : Char) : Bool :=
  char == ' ' || ('\t' ≤ char && char ≤ '\r')

/-- Takes blanks. -/
def skipBlanks : Read Unit := do
  let _ ← takeWhile isBlank

/-- A number, if digits come next. -/
def number? : Read (Option Nat) := do
  return Text.natural? (← takeWhile Char.isDigit)

/-- The text up to a mark. A backslash takes the mark in, and in expressions `\n` stands for a line
feed; brackets of expressions keep the mark from ending them. -/
def until? (mark : Char) (isRegex : Bool) (fuel : Nat) (bracket : Option Nat) (text : Text) :
    Option (Text × Text) :=
  match fuel with
  | 0 => none
  | fuel + 1 =>
    let adding (found : Text) (bracket : Option Nat) (rest : Text) : Option (Text × Text) :=
      (until? mark isRegex fuel bracket rest).map fun (others, after) => (found ++ others, after)
    match text, bracket with
    | [], _ => none
    | '\\' :: char :: rest, none =>
      if isRegex && char = 'n' && mark != 'n' then adding ['\n'] none rest
      else if char = mark && (isRegex || char != '&') then adding [char] none rest
      else adding ['\\', char] none rest
    | '\\' :: 'n' :: rest, some count =>
      if isRegex then adding ['\n'] (some (count + 1)) rest
      else adding ['\\', 'n'] none rest
    | '\n' :: rest, _ => if isRegex then none else adding ['\n'] none rest
    | ']' :: rest, some count => adding [']'] (if count = 0 then some 1 else none) rest
    | '^' :: rest, some 0 => adding ['^'] (some 0) rest
    | char :: rest, some count => adding [char] (some (count + 1)) rest
    | char :: rest, none =>
      if char = mark then some ([], rest)
      else adding [char] (if isRegex && char = '[' then some 0 else none) rest

/-- Takes the text up to a mark. -/
def delimited (mark : Char) (isRegex : Bool) (fault : String) : Read Text := do
  let scan ← get
  match until? mark isRegex (scan.rest.length + 1) none scan.rest with
  | some (found, rest) =>
    set { scan with rest, taken := scan.taken + (scan.rest.length - rest.length) : Scan }
    return found
  | none =>
    let line := if isRegex then scan.rest.takeWhile (· != '\n') else scan.rest
    skip line.length
    refuse fault

/-- The expression of a text; an empty text stands for the last expression that was used. -/
def search (extended : Bool) (text : Text) (manner : Manner) : Read Search := do
  if text.isEmpty then return ⟨none, manner⟩
  let dialect : Regex.Dialect :=
    { extended, anyCase := manner.anyCase, controls := true, wary := true }
  match Regex.read? dialect text with
  | .ok regex => return ⟨some regex, manner⟩
  | .error .bareClass => throw ⟨Regex.Fault.bareClass.message.toList, none⟩
  | .error fault => refuse fault.message

/-- The manner that letters behind an expression ask for. Each costs one of `fuel`. -/
def manner (fuel : Nat) (found : Manner) : Read Manner := do
  match fuel, ← peek? with
  | fuel + 1, some 'I' =>
    skip 1
    manner fuel { found with anyCase := true }
  | fuel + 1, some 'M' =>
    skip 1
    manner fuel { found with byLine := true }
  | _, _ => return found

/-- An address, if one comes next. -/
def address? (extended : Bool) : Read (Option Address) := do
  let expression (mark : Char) : Read (Option Address) := do
    let text ← delimited mark true "unterminated address regex"
    let found ← manner 3 {}
    return some (.search (← search extended text found))
  match ← peek? with
  | some '$' =>
    skip 1
    return some .last
  | some '/' =>
    skip 1
    expression '/'
  | some '\\' =>
    skip 1
    match ← take? with
    | some mark => expression mark
    | none => refuse "unexpected `,'"
  | _ =>
    match ← number? with
    | none => return none
    | some first =>
      skipBlanks
      if (← peek?) = some '~' then
        skip 1
        return some (.every first ((← number?).getD 0))
      else return some (.line first)

/-- Where a selection ends, behind its comma. -/
def until_ (extended : Bool) : Read Until := do
  skipBlanks
  match ← peek? with
  | some '+' =>
    skip 1
    return .further ((← number?).getD 0)
  | some '~' =>
    skip 1
    return .multiple ((← number?).getD 0)
  | _ =>
    match ← address? extended with
    | some address => return .address address
    | none => refuse "unexpected `,'"

/-- The lines that a command is for. -/
def selection (extended : Bool) : Read Selection := do
  let first ← address? extended
  skipBlanks
  let mut until_? := none
  if first.isSome && (← peek?) = some ',' then
    skip 1
    until_? := some (← until_ extended)
    skipBlanks
  let isZero := match first with
    | some (.line 0) => true
    | _ => false
  let endsAtSearch := match until_? with
    | some (.address (.search _)) => true
    | _ => false
  if isZero && !endsAtSearch then refuse "invalid usage of line address 0"
  if (← peek?) = some '!' then
    let _ ← takeWhile fun char => char == '!' || isBlank char
    return { first, until_ := until_?, negated := true }
  return { first, until_ := until_? }

/-- Ends a command. -/
def finish : Read Unit := do
  skipBlanks
  match ← peek? with
  | none => return
  | some '\x7d' => return
  | some '#' => return
  | some ';' => skip 1
  | some '\n' => skip 1
  | some '\r' => skip 1
  | some _ =>
    skip 1
    refuse "extra characters after command"

/-- The lines of a text that a command prints: a backslash lets it go on behind the end of a line,
and takes the meaning from other characters. -/
def lines : Text → Text × Text
  | [] => ([], [])
  | '\\' :: char :: rest =>
    let (found, after) := lines rest
    (char :: found, after)
  | '\n' :: rest => ([], rest)
  | char :: rest =>
    let (found, after) := lines rest
    (char :: found, after)

/-- The text of a command that prints one. -/
def text : Read Text := do
  skipBlanks
  match ← peek? with
  | none => refuse "expected \\ after `a', `c' or `i'"
  | some '\\' =>
    skip 1
    let blanks ← takeWhile isBlank
    match ← peek? with
    | none => return []
    | some '\n' => skip 1
    | some _ => modify fun scan => { scan with rest := blanks ++ scan.rest }
  | some _ => pure ()
  let scan ← get
  let (found, rest) := lines scan.rest
  set { scan with rest, taken := scan.taken + (scan.rest.length - rest.length) : Scan }
  return found ++ ['\n']

/-- The name of a place in a script. -/
def label : Read Text := do
  skipBlanks
  takeWhile fun char => !isSpace char && char != ';'

/-- The name of a file: all up to the end of the line. -/
def file : Read Text := do
  skipBlanks
  let found ← takeWhile (· != '\n')
  if found.isEmpty then refuse "missing filename in r/R/w/W commands"
  skip 1
  return found

/-- The parts of a replacement. Each character costs one of `fuel`. -/
def parts (fuel : Nat) (text : Text) : List Part :=
  match fuel, text with
  | fuel + 1, '\\' :: char :: rest =>
    let others := parts fuel rest
    if char.isDigit then .group (char.toNat - '0'.toNat) :: others
    else match char with
      | 'L' => .casing .lower :: others
      | 'U' => .casing .upper :: others
      | 'E' => .casing .keep :: others
      | 'l' => .next .lower :: others
      | 'u' => .next .upper :: others
      | char => .text [(Regex.controlChars.lookup char).getD char] :: others
  | fuel + 1, '&' :: rest => .group 0 :: parts fuel rest
  | fuel + 1, char :: rest => .text [char] :: parts fuel rest
  | _, _ => []

/-- The flags of a substitution. Each costs one of `fuel`. -/
def flags (fuel : Nat) (found : Substitution) (seen : Manner) :
    Read (Substitution × Manner) := do
  match fuel with
  | 0 => return (found, seen)
  | fuel + 1 =>
    match ← peek? with
    | some 'g' =>
      skip 1
      if found.all then refuse "multiple `g' options to `s' command"
      flags fuel { found with all := true } seen
    | some 'p' =>
      skip 1
      if found.prints then refuse "multiple `p' options to `s' command"
      flags fuel { found with prints := true } seen
    | some 'i' =>
      skip 1
      flags fuel found { seen with anyCase := true }
    | some 'I' =>
      skip 1
      flags fuel found { seen with anyCase := true }
    | some 'm' =>
      skip 1
      flags fuel found { seen with byLine := true }
    | some 'M' =>
      skip 1
      flags fuel found { seen with byLine := true }
    | some 'w' =>
      skip 1
      return ({ found with file := some (← file) }, seen)
    | some char =>
      if char.isDigit then
        let number := (← number?).getD 0
        if number = 0 then refuse "number option to `s' command may not be zero"
        flags fuel { found with number } seen
      else if "\x7d#;\n\r \t".toList.elem char then
        finish
        return (found, seen)
      else
        skip 1
        refuse "unknown option to `s'"
    | none => return (found, seen)

/-- A substitution behind its letter. -/
def substitution (extended : Bool) : Read Substitution := do
  let fault := "unterminated `s' command"
  match ← take? with
  | none => refuse fault
  | some '\n' => refuse fault
  | some '\\' => refuse fault
  | some mark =>
    let expression ← delimited mark true fault
    let replacement ← delimited mark false fault
    let parts := parts replacement.length replacement
    let (found, seen) ← flags 100 { search := ⟨none, {}⟩, parts } {}
    let found := { found with search := ← search extended expression seen }
    let most := parts.foldl (fun most part => match part with
      | .group index => max most index
      | _ => most) 0
    if let some regex := found.search.regex then
      if regex.groupCount < most then
        refuse ("invalid reference \\" ++ toString most ++ " on `s' command's RHS")
    return found

/-- The characters of a text in which a backslash takes the meaning from the next one. -/
def plain : Text → Text
  | '\\' :: '\\' :: rest => '\\' :: plain rest
  | '\\' :: 'n' :: rest => '\n' :: plain rest
  | char :: rest => char :: plain rest
  | [] => []

/-- A translation of characters behind its letter. -/
def translation : Read (List (Char × Char)) := do
  let fault := "unterminated `y' command"
  match ← take? with
  | none => refuse fault
  | some mark =>
    let sources := plain (← delimited mark false fault)
    let targets := plain (← delimited mark false fault)
    if sources.length != targets.length then
      refuse "strings for `y' command are different lengths"
    finish
    return sources.zip targets

/-- A command whose places are not known yet: jumps have labels, and blocks are open or closed. -/
inductive Step where
  | action (selection : Selection) (action : Action)
  | open_ (selection : Selection)
  | close
  | label (name : Text)
  /-- A jump that is made always, or only if a substitution was or was not made. -/
  | jump (selection : Selection) (made : Option Bool) (name : Text)

/-- The command of a letter that takes no more than a number. -/
def simple? (letter : Char) : Option Action :=
  match letter with
  | 'd' => some .delete
  | 'D' => some .deleteLine
  | 'p' => some .print
  | 'P' => some .printLine
  | '=' => some .lineNumber
  | 'F' => some .fileName
  | 'g' => some (.fetch false)
  | 'G' => some (.fetch true)
  | 'h' => some (.hold false)
  | 'H' => some (.hold true)
  | 'x' => some .exchange
  | 'n' => some .next
  | 'N' => some .nextAppended
  | 'z' => some .clear
  | _ => none

/-- The rest of a command behind its letter. -/
def step (extended : Bool) (selection : Selection) (letter : Char) : Read Step := do
  let done (action : Action) : Read Step := return .action selection action
  let withNumber (action : Option Nat → Action) : Read Step := do
    skipBlanks
    let number ← number?
    finish
    done (action number)
  match letter with
  | '\x7b' => return .open_ selection
  | '\x7d' =>
    if selection.first.isSome then refuse "\x7d doesn't want any addresses"
    finish
    return .close
  | ':' =>
    if selection.first.isSome then refuse ": doesn't want any addresses"
    let name ← label
    if name.isEmpty then refuse "\":\" lacks a label"
    finish
    return .label name
  | 'b' => return .jump selection none (← label <* finish)
  | 't' => return .jump selection (some true) (← label <* finish)
  | 'T' => return .jump selection (some false) (← label <* finish)
  | 'a' => done (.append (← text))
  | 'i' => done (.insert (← text))
  | 'c' => done (.change (← text))
  | 's' => done (.substitute (← substitution extended))
  | 'y' => done (.translate (← translation))
  | 'r' => done (.read (← file))
  | 'R' => done (.readLine (← file))
  | 'w' => done (.write (← file) false)
  | 'W' => done (.write (← file) true)
  | 'q' => withNumber fun status => .quit (status.getD 0) false
  | 'Q' => withNumber fun status => .quit (status.getD 0) true
  | 'l' => withNumber .show
  | letter =>
    match simple? letter with
    | some action =>
      finish
      done action
    | none => refuse ("unknown command: `" ++ String.ofList [letter] ++ "'")

/-- The commands of a script. Each costs one of `fuel`. -/
def steps (extended : Bool) (fuel : Nat) (found : List Step) : Read (List Step) := do
  match fuel with
  | 0 => return found.reverse
  | fuel + 1 =>
    let _ ← takeWhile fun char => isSpace char || char == ';'
    match ← peek? with
    | none => return found.reverse
    | some '#' =>
      let _ ← takeWhile (· != '\n')
      steps extended fuel found
    | some _ =>
      let selection ← selection extended
      match ← take? with
      | none => refuse "missing command"
      | some '\n' => refuse "missing command"
      | some letter => steps extended fuel ((← step extended selection letter) :: found)

end Read

/-- The place behind the block that is open, counted from `place` on; `depth` blocks are open in
it. -/
def blockEnd? (depth place : Nat) : List Read.Step → Option Nat
  | [] => none
  | .open_ _ :: rest => blockEnd? (depth + 1) (place + 1) rest
  | .close :: rest =>
    match depth with
    | 0 => some place
    | depth + 1 => blockEnd? depth (place + 1) rest
  | _ :: rest => blockEnd? depth (place + 1) rest

/-- The place of a label. -/
def labelPlace? (name : Text) (steps : List Read.Step) : Option Nat :=
  steps.findIdx? fun
    | .label other => other == name
    | _ => false

/-- The commands of steps, from a place on. `depth` blocks are open. -/
def commands? (all : List Read.Step) (depth place : Nat) :
    List Read.Step → Except Fault (List Command)
  | [] => .ok []
  | step :: rest =>
    let adding (depth : Nat) (selection : Selection) (action : Action) :
        Except Fault (List Command) :=
      (commands? all depth (place + 1) rest).map (⟨selection, action⟩ :: ·)
    match step with
    | .action selection action => adding depth selection action
    | .label _ => adding depth {} .nothing
    | .open_ selection =>
      match blockEnd? 0 (place + 1) rest with
      | some stop => adding (depth + 1) selection (.block stop)
      | none => .error ⟨"unmatched `\x7b'".toList, some 0⟩
    | .close =>
      match depth with
      | 0 => .error ⟨"unexpected `\x7d'".toList, some 1⟩
      | depth + 1 => adding depth {} .nothing
    | .jump selection made name =>
      let target := if name.isEmpty then some all.length else labelPlace? name all
      match target, made with
      | some target, none => adding depth selection (.jump target)
      | some target, some made => adding depth selection (.jumpIf made target)
      | none, _ => .error ⟨"can't find label for jump to `".toList ++ name ++ ['\''], none⟩

/-- The script of a text. -/
def Script.read? (extended : Bool) (text : Text) : Except Fault Script := do
  let (steps, _) ← (Read.steps extended (text.length + 1) []).run { rest := text }
  return (← commands? steps 0 0 steps).toArray

end Docket.Shell.Sed
