import Docket.Shell.Regex.Basic
import Docket.Text.Integer

/-! Reading regular expressions: basic ones, in which most operators need a backslash, and extended
ones, in which they do not. -/

namespace Docket.Shell.Regex

/-- How regular expressions are written. -/
structure Dialect where
  extended : Bool := false
  anyCase : Bool := false
  /-- Letters behind a backslash may stand for control characters, in brackets too. -/
  controls : Bool := false
  /-- A backslash in brackets takes the meaning from any character. -/
  shielded : Bool := false
  /-- Operators without anything to repeat are left out, and braces and parentheses without a
  partner stand for themselves. -/
  lenient : Bool := false
  /-- Brackets that look like a named class are refused. -/
  wary : Bool := false
  /-- Letters behind a backslash stand for no sets and no marks, and nothing may be left out that
  an operator needs. -/
  strict : Bool := false
deriving DecidableEq

/-- Why a text is no regular expression. -/
inductive Fault where
  | bracket
  | openGroup
  | closeGroup
  | brace
  | bounds
  | reference
  | backslash
  | range
  | className
  | collation
  | preceding
  | size
  | bareClass
  | unfinished
deriving DecidableEq, Repr

/-- The wording of a fault. -/
def Fault.message : Fault → String
  | bracket => "Unmatched [, [^, [:, [., or [="
  | openGroup => "Unmatched ( or \\("
  | closeGroup => "Unmatched ) or \\)"
  | brace => "Unmatched \\\x7b"
  | bounds => "Invalid content of \\\x7b\\\x7d"
  | reference => "Invalid back reference"
  | backslash => "Trailing backslash"
  | range => "Invalid range end"
  | className => "Invalid character class name"
  | collation => "Invalid collation character"
  | preceding => "Invalid preceding regular expression"
  | size => "Regular expression too big"
  | bareClass => "character class syntax is [[:space:]], not [:space:]"
  | unfinished => "Invalid regular expression"

/-- A sign of a regular expression. -/
inductive Sign where
  | oneOf (chars : CharSet)
  | check (mark : Mark)
  | open_
  | close
  | bar
  | count (least : Nat) (most : Option Nat)
  | again (index : Nat)

/-- The named classes of characters. -/
def classes : List (String × List (Char × Char)) := [
  ("alpha", [('A', 'Z'), ('a', 'z')]),
  ("digit", [('0', '9')]),
  ("alnum", [('0', '9'), ('A', 'Z'), ('a', 'z')]),
  ("upper", [('A', 'Z')]),
  ("lower", [('a', 'z')]),
  ("space", [('\t', '\r'), (' ', ' ')]),
  ("blank", [('\t', '\t'), (' ', ' ')]),
  ("punct", [('!', '/'), (':', '@'), ('[', '`'), ('\x7b', '~')]),
  ("print", [(' ', '~')]),
  ("graph", [('!', '~')]),
  ("cntrl", [('\x00', '\x1f'), ('\x7f', '\x7f')]),
  ("xdigit", [('0', '9'), ('A', 'F'), ('a', 'f')])]

/-- The set of ranges of characters. -/
def setOf (ranges : List (Char × Char)) : CharSet :=
  .ofRanges (ranges.map fun (low, high) => (low.toNat, high.toNat))

/-- A set as a dialect takes it. -/
def Dialect.settle (dialect : Dialect) (set : CharSet) : CharSet :=
  if dialect.anyCase then set.closedUnderAsciiCase else set

/-- The control characters that letters stand for. -/
def controlChars : List (Char × Char) :=
  [('n', '\n'), ('t', '\t'), ('f', '\x0c'), ('v', '\x0b'), ('a', '\x07'), ('r', '\r')]

/-- The character that a letter behind a backslash stands for where there are no marks. -/
def plainChar (letter : Char) : Char :=
  if letter = 'b' then '\x08' else (controlChars.lookup letter).getD letter

/-- What stands in brackets: a character, or a set that has no ends. -/
inductive Member where
  | char (char : Char)
  | ranges (ranges : List (Char × Char))

/-- The ranges of a member. -/
def Member.toRanges : Member → List (Char × Char)
  | .char found => [(found, found)]
  | .ranges found => found

/-- The name up to a mark and a closing bracket, and what follows these. -/
def memberName? (mark : Char) : Text → Option (Text × Text)
  | [] => none
  | char :: rest =>
    if char = mark && rest.head? = some ']' then some ([], rest.drop 1)
    else (memberName? mark rest).map fun (name, after) => (char :: name, after)

/-- The first member of brackets, and what follows it. -/
def member? (dialect : Dialect) (text : Text) : Except Fault (Member × Text) :=
  let single (name after : Text) (settled : Char → Member) : Except Fault (Member × Text) :=
    match name with
    | [char] => .ok (settled char, after)
    | _ => .error .collation
  match text with
  | [] => .error .bracket
  | '[' :: ':' :: rest =>
    match memberName? ':' rest with
    | none => .error .bracket
    | some (name, after) =>
      match classes.lookup (String.ofList name) with
      | some ranges => .ok (.ranges ranges, after)
      | none => .error .className
  | '[' :: '.' :: rest =>
    match memberName? '.' rest with
    | none => .error .bracket
    | some (name, after) => single name after .char
  | '[' :: '=' :: rest =>
    match memberName? '=' rest with
    | none => .error .bracket
    | some (name, after) => single name after fun char => .ranges [(char, char)]
  | '\\' :: letter :: rest =>
    if dialect.controls then
      match controlChars.lookup letter with
      | some char => .ok (.char char, rest)
      | none =>
        if dialect.shielded then .ok (.char letter, rest) else .ok (.char '\\', letter :: rest)
    else .ok (.char '\\', letter :: rest)
  | char :: rest => .ok (.char char, rest)

/-- The ranges up to the closing bracket, and what follows it. Each member costs one of `fuel`. -/
def bracketRanges? (dialect : Dialect) (fuel : Nat) (first : Bool) (text : Text) :
    Except Fault (List (Char × Char) × Text) :=
  match fuel with
  | 0 => .error .bracket
  | fuel + 1 =>
    let adding (found : List (Char × Char)) (rest : Text) :
        Except Fault (List (Char × Char) × Text) :=
      (bracketRanges? dialect fuel false rest).map fun (others, after) => (found ++ others, after)
    if text.head? = some ']' && !first then .ok ([], text.drop 1)
    else if text.head? = some '-' && !first && (text.drop 1).head?.any (· != ']') then
      .error .range
    else match member? dialect text with
      | .error fault => .error fault
      | .ok (low, '-' :: after) =>
        if after.isEmpty then .error .bracket
        else if after.head? = some ']' then adding low.toRanges ('-' :: after)
        else match low, member? dialect after with
          | _, .error fault => .error fault
          | .char low, .ok (.char high, after) =>
            if low ≤ high then adding [(low, high)] after else .error .range
          | _, _ => .error .range
      | .ok (low, after) => adding low.toRanges after

/-- Whether the inside of brackets looks like a named class. -/
def isBareClass (text : Text) : Bool :=
  let inside := text.takeWhile (· != ']')
  inside.length < text.length && inside.head? = some ':' && inside.getLast? = some ':' &&
    inside.any (· != ':') && !inside.elem '-' && !Text.contains inside "[:".toList

/-- The set of brackets after the first one, and what follows them. -/
def bracketSet? (dialect : Dialect) (text : Text) : Except Fault (CharSet × Text) :=
  let (negated, body) := match text with
    | '^' :: body => (true, body)
    | body => (false, body)
  if body.isEmpty then .error .unfinished
  else if dialect.wary && isBareClass body then .error .bareClass
  else (bracketRanges? dialect (body.length + 1) true body).map fun (ranges, rest) =>
    let set := dialect.settle (setOf ranges)
    (if negated then set.complement else set, rest)

/-- The most repetitions that can be asked for. -/
def mostRepeats : Nat := 32767

/-- A bound of a repetition. -/
inductive Bound where
  | none
  | count (count : Nat)
  | invalid
deriving DecidableEq

/-- The bound in front of a comma or a closing text, and the text from there on. -/
def bound (closing : Text) (text : Text) : Bound × Text :=
  let rec digits : Text → Text × Text
    | [] => ([], [])
    | char :: rest =>
      if char = ',' || Text.startsWith (char :: rest) closing then ([], char :: rest)
      else ((char :: (digits rest).1), (digits rest).2)
  let (found, rest) := digits text
  if rest.isEmpty then (.invalid, [])
  else if found.isEmpty then (.none, rest)
  else match if found.all Char.isDigit then Text.natural? found else none with
    | some count => (.count count, rest)
    | none => (.invalid, rest)

/-- A repetition behind its brace: its sign and what follows it, nothing if this is no repetition,
or a fault. -/
def repetition? (closing : Text) (text : Text) : Except Fault (Option (Sign × Text)) :=
  let (least, rest) := bound closing text
  let (most, rest) : Bound × Text := match rest with
    | ',' :: rest => bound closing rest
    | rest => (least, rest)
  let settled (least : Nat) (most : Option Nat) : Except Fault (Option (Sign × Text)) :=
    if !Text.startsWith rest closing || most.any (· < least) then .error .bounds
    else if mostRepeats < most.getD least then .error .size
    else .ok (some (.count least most, rest.drop closing.length))
  match least, most with
  | .invalid, _ => .ok none
  | .none, .none => if text.head? = some ',' then settled 0 none else .error .bounds
  | _, .invalid => .ok none
  | .none, .count most => settled 0 (some most)
  | .count least, .none => settled least none
  | .count least, .count most => settled least (some most)

/-- The fault of what is no repetition. -/
def braceFault (closing : Text) (text : Text) : Fault :=
  let (least, rest) := bound closing text
  let ended : Bool := match rest with
    | ',' :: rest => least != .invalid && (bound closing rest).2.isEmpty
    | rest => rest.isEmpty
  if ended then .brace else .bounds

/-- The sets of words and blanks that letters stand for. -/
def letterSets : List (Char × CharSet) :=
  let word := setOf [('0', '9'), ('A', 'Z'), ('_', '_'), ('a', 'z')]
  let space := setOf [('\t', '\r'), (' ', ' ')]
  [('w', word), ('W', word.complement), ('s', space), ('S', space.complement)]

/-- The marks that letters stand for. -/
def letterMarks : List (Char × Mark) :=
  [('b', .wordEdge), ('B', .noWordEdge), ('<', .wordStart), ('>', .wordEnd), ('`', .textStart),
    ('\'', .textEnd)]

/-- The sign of one character. -/
def Dialect.char (dialect : Dialect) (char : Char) : Sign :=
  .oneOf (dialect.settle (.singleton char))

/-- The sign of a character behind a backslash that is the same in all dialects. -/
def Dialect.escaped (dialect : Dialect) (letter : Char) : Sign :=
  if dialect.strict then dialect.char (plainChar letter)
  else match letterSets.lookup letter, letterMarks.lookup letter with
  | some set, _ => .oneOf set
  | none, some mark => .check mark
  | none, none =>
    if dialect.controls then dialect.char ((controlChars.lookup letter).getD letter)
    else if '1' ≤ letter && letter ≤ '9' then .again (letter.toNat - '0'.toNat)
    else dialect.char letter

/-- Whether a basic expression may end before a text. -/
def endsBefore (text : Text) : Bool :=
  text.isEmpty || Text.startsWith text "\\)".toList || Text.startsWith text "\\|".toList

/-- What stands in front of a sign. -/
inductive Front where
  /-- The expression, a group or an alternative begins. -/
  | first
  /-- A mark stands there, which cannot be repeated. -/
  | mark
  | counted
  | other
deriving DecidableEq

/-- Whether nothing to repeat stands there. -/
def Front.isFresh (front : Front) : Bool :=
  front = .first || front = .mark

/-- A repetition with bounds in a basic expression, behind its brace. -/
def basicBounds? (text : Text) : Except Fault (Sign × Text) :=
  let closing := "\\\x7d".toList
  match repetition? closing text with
  | .ok (some found) => .ok found
  | .ok none => .error (braceFault closing text)
  | .error fault => .error fault

/-- The first sign of a basic expression that is not empty. -/
def basicSign? (dialect : Dialect) (front : Front) (text : Text) : Except Fault (Sign × Text) :=
  let fresh := front.isFresh
  let stuck := !dialect.lenient && front = .counted
  match text with
  | ['\\'] => .error .backslash
  | '\\' :: '(' :: rest => .ok (.open_, rest)
  | '\\' :: ')' :: rest => .ok (.close, rest)
  | '\\' :: '|' :: rest => .ok (.bar, rest)
  | '\\' :: '\x7b' :: rest =>
    if stuck then .error .preceding
    else if !fresh then basicBounds? rest
    else if dialect.lenient then .ok (dialect.char '\x7b', rest)
    else .error .preceding
  | '\\' :: '+' :: rest =>
    .ok (if fresh then dialect.char '+' else .count 1 none, rest)
  | '\\' :: '?' :: rest =>
    .ok (if fresh then dialect.char '?' else .count 0 (some 1), rest)
  | '\\' :: letter :: rest =>
    .ok (if '1' ≤ letter && letter ≤ '9' then .again (letter.toNat - '0'.toNat)
      else dialect.escaped letter, rest)
  | '*' :: rest =>
    if stuck then .error .preceding
    else .ok (if fresh then dialect.char '*' else .count 0 none, rest)
  | '^' :: rest =>
    .ok (if front = .first then .check .lineStart else dialect.char '^', rest)
  | '$' :: rest =>
    .ok (if endsBefore rest then .check .lineEnd else dialect.char '$', rest)
  | '.' :: rest => .ok (.oneOf CharSet.empty.complement, rest)
  | '[' :: rest => (bracketSet? dialect rest).map fun (set, rest) => (.oneOf set, rest)
  | char :: rest => .ok (dialect.char char, rest)
  | [] => .error .backslash

/-- The first sign of an extended expression that is not empty, if it counts. -/
def extendedSign? (dialect : Dialect) (front : Front) (text : Text) :
    Except Fault (Option Sign × Text) :=
  let counted (sign : Sign) (rest : Text) : Except Fault (Option Sign × Text) :=
    if !front.isFresh then .ok (some sign, rest)
    else if dialect.lenient && !dialect.strict then .ok (none, rest)
    else .error .preceding
  match text with
  | ['\\'] =>
    if dialect.strict then .ok (some (dialect.char '\\'), []) else .error .backslash
  | '\\' :: letter :: rest => .ok (some (dialect.escaped letter), rest)
  | '(' :: rest => .ok (some .open_, rest)
  | ')' :: rest => .ok (some .close, rest)
  | '|' :: rest => .ok (some .bar, rest)
  | '*' :: rest => counted (.count 0 none) rest
  | '+' :: rest => counted (.count 1 none) rest
  | '?' :: rest => counted (.count 0 (some 1)) rest
  | '\x7b' :: rest =>
    if front.isFresh && !dialect.lenient then .error .preceding
    else match repetition? ['\x7d'] rest with
      | .ok (some (sign, after)) => counted sign after
      | .ok none =>
        if dialect.lenient then .ok (some (dialect.char '\x7b'), rest)
        else .error (braceFault ['\x7d'] rest)
      | .error fault => .error fault
  | '^' :: rest => .ok (some (.check .lineStart), rest)
  | '$' :: rest => .ok (some (.check .lineEnd), rest)
  | '.' :: rest => .ok (some (.oneOf CharSet.empty.complement), rest)
  | '[' :: rest => (bracketSet? dialect rest).map fun (set, rest) => (some (.oneOf set), rest)
  | char :: rest => .ok (some (dialect.char char), rest)
  | [] => .error .backslash

/-- What a sign is in front of the next one. -/
def Sign.front (dialect : Dialect) : Sign → Front
  | open_ => .first
  | bar => .first
  | check found => if dialect.extended || found = .lineStart then .mark else .other
  | count .. => .counted
  | _ => .other

/-- The signs of an expression. `depth` counts the open groups, and each sign costs one of
`fuel`. -/
def signs? (dialect : Dialect) (fuel depth : Nat) (front : Front) (text : Text) :
    Except Fault (List Sign) :=
  match fuel, text with
  | _, [] =>
    if dialect.strict && front = .first then
      .error (if depth = 0 then .preceding else .openGroup)
    else .ok []
  | 0, _ => .ok []
  | fuel + 1, text => do
    let (sign, rest) ←
      if dialect.extended then extendedSign? dialect front text
      else (basicSign? dialect front text).map fun (sign, rest) => (some sign, rest)
    match sign with
    | none => signs? dialect fuel depth front rest
    | some .open_ => return .open_ :: (← signs? dialect fuel (depth + 1) .first rest)
    | some .bar =>
      if dialect.strict && front = .first then throw .preceding
      return .bar :: (← signs? dialect fuel depth .first rest)
    | some .close =>
      if dialect.strict && front = .first && depth != 0 then throw .preceding
      if depth = 0 && dialect.extended && dialect.lenient then
        return dialect.char ')' :: (← signs? dialect fuel depth .other rest)
      else return .close :: (← signs? dialect fuel (depth - 1) .other rest)
    | some sign => return sign :: (← signs? dialect fuel depth (sign.front dialect) rest)

/-- Adds a part to a sequence. -/
def behind : Regex → Regex → Regex
  | .empty, part => part
  | before, part => .sequence before part

/-- What is read of an expression: its alternatives, the sequence in hand without its last part,
and that part. -/
structure Level where
  /-- The number of the group, or none outside of groups. -/
  index : Nat := 0
  choices : Option Regex := none
  before : List Regex := []

/-- The sequence of parts, which are given last part first. -/
def inOrder (parts : List Regex) : Regex :=
  match parts with
  | [] => .empty
  | last :: before => before.foldl (fun rest part => .sequence part rest) last

/-- The expression of a level. -/
def Level.regex (level : Level) : Regex :=
  let last := inOrder level.before
  match level.choices with
  | some first => .choice first last
  | none => last

/-- Adds a part to a level. -/
def Level.add (level : Level) (part : Regex) : Level :=
  { level with before := part :: level.before }

/-- The expression of signs. `opened` counts the groups so far. -/
def ofSigns? (level : Level) (outer : List Level) (opened : Nat) :
    List Sign → Except Fault Regex
  | [] => if outer.isEmpty then .ok level.regex else .error .openGroup
  | .open_ :: rest => ofSigns? { index := opened + 1 } (level :: outer) (opened + 1) rest
  | .close :: rest =>
    match outer with
    | next :: outer => ofSigns? (next.add (.group level.index level.regex)) outer opened rest
    | [] => .error .closeGroup
  | .bar :: rest =>
    ofSigns? { level with choices := some level.regex, before := [] } outer opened rest
  | .count least most :: rest =>
    match level.before with
    | last :: before =>
      ofSigns? { level with before := .repeated last least most :: before } outer opened rest
    | [] => ofSigns? level outer opened rest
  | .oneOf chars :: rest => ofSigns? (level.add (.oneOf chars)) outer opened rest
  | .check mark :: rest => ofSigns? (level.add (.check mark)) outer opened rest
  | .again index :: rest =>
    if index ≤ opened then ofSigns? (level.add (.again index)) outer opened rest
    else .error .reference

/-- The regular expression that a text stands for in a dialect. -/
def read? (dialect : Dialect) (text : Text) : Except Fault Regex :=
  if text.isEmpty then .ok .empty
  else (signs? dialect (text.length + 1) 0 .first text).bind (ofSigns? {} [] 0)

/-- The regular expression that matches a text as it is. -/
def literal (anyCase : Bool) (text : Text) : Regex :=
  inOrder (text.reverse.map fun char =>
    .oneOf (({ anyCase : Dialect }).settle (.singleton char)))

/-- How many groups an expression has. -/
def groupCount : Regex → Nat
  | .group _ body => groupCount body + 1
  | .repeated body .. => groupCount body
  | .sequence first second => groupCount first + groupCount second
  | .choice first second => groupCount first + groupCount second
  | _ => 0

end Docket.Shell.Regex
