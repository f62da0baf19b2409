import Docket.Pattern.Folding
import Docket.Pattern.Joining
import Docket.Pattern.Property
import Docket.Text.Basic
import Docket.Text.Integer

/-! Reading patterns: from their text to their form. -/

namespace Docket.Pattern

/-- How the rest of a group is read. -/
structure Flags where
  /-- Letters match in either case. -/
  anyCase : Bool := false
  /-- Line assertions hold at every line. -/
  lines : Bool := false
  /-- The dot matches line feeds too. -/
  dotAll : Bool := false
  /-- Repetitions are greedy only with a question mark. -/
  modest : Bool := false
  /-- Sets are made of all characters, not of ASCII alone. -/
  unicode : Bool := true
  /-- Lines end with carriage returns too. -/
  breaks : Bool := false
  /-- White space and comments in the pattern mean nothing. -/
  spaced : Bool := false
deriving DecidableEq

/-- Sets the flag of a letter. -/
def Flags.set? (flags : Flags) (letter : Char) (value : Bool) : Option Flags :=
  match letter with
  | 'i' => some { flags with anyCase := value }
  | 'm' => some { flags with lines := value }
  | 's' => some { flags with dotAll := value }
  | 'U' => some { flags with modest := value }
  | 'u' => some { flags with unicode := value }
  | 'R' => some { flags with breaks := value }
  | 'x' => some { flags with spaced := value }
  | _ => none

namespace Reader

/-- A text without a comment at its front: what comes after the next line feed. -/
def afterComment (text : Text) : Text :=
  (text.dropWhile (· != '\n')).drop 1

/-- A text without the white space and comments at its front. Each step costs one of `fuel`. -/
def skipSpaces (fuel : Nat) (text : Text) : Text :=
  match fuel, text with
  | fuel + 1, char :: rest =>
    if Text.isBlank char then skipSpaces fuel rest
    else if char = '#' then skipSpaces fuel (afterComment rest)
    else text
  | _, text => text

/-- What comes next: white space and comments mean nothing if the pattern is spaced. -/
def skip (flags : Flags) (text : Text) : Text :=
  if flags.spaced then skipSpaces text.length text else text

/-- The character after the first one of a text and after white space. In a spaced pattern a
number sign is passed over too, but only one. -/
def peek? (flags : Flags) (text : Text) : Option Char :=
  if flags.spaced then
    match (text.drop 1).dropWhile Text.isBlank with
    | '#' :: rest => (rest.dropWhile Text.isBlank).head?
    | rest => rest.head?
  else (text.drop 1).head?

/-- The character of a code point, if it has one. -/
def charOfCode? (code : Nat) : Option Char :=
  if code.isValidChar then some (Char.ofNat code) else none

/-- The value of a hexadecimal digit. -/
def hexDigit? (char : Char) : Option Nat :=
  if '0' ≤ char && char ≤ '9' then some (char.toNat - '0'.toNat)
  else if 'a' ≤ char && char ≤ 'f' then some (char.toNat - 'a'.toNat + 10)
  else if 'A' ≤ char && char ≤ 'F' then some (char.toNat - 'A'.toNat + 10)
  else none

/-- The value of exactly `count` hexadecimal digits after `value`, and what follows them. -/
def fixedHex? (flags : Flags) (value : Nat) : Nat → Text → Option (Nat × Text)
  | 0, text => some (value, text)
  | count + 1, char :: rest =>
    (hexDigit? char).bind fun digit =>
      fixedHex? flags (16 * value + digit) count (skip flags rest)
  | _ + 1, [] => none

/-- The characters before a closing brace, without white space in a spaced pattern, and what
follows the brace. -/
def braced? (flags : Flags) (fuel : Nat) (text : Text) : Option (Text × Text) :=
  match fuel, skip flags text with
  | fuel + 1, char :: rest =>
    if char = '\x7d' then some ([], rest)
    else (braced? flags fuel rest).map fun (inner, after) => (char :: inner, after)
  | _, _ => none

/-- A part of a pattern that is written with one sign or one escape. -/
inductive Sign where
  /-- A character; `raw` tells that it was written as a byte of two digits. -/
  | char (char : Char) (raw : Bool)
  | set (set : CharSet)
  | assertion (assertion : Assertion)

/-- The character of an escape by code point, after its letter, and what follows it. -/
def hexSign? (flags : Flags) (digits : Nat) (text : Text) : Option (Sign × Text) :=
  match skip flags text with
  | '\x7b' :: rest =>
    (braced? flags (rest.length + 1) rest).bind fun (inner, after) =>
      if inner.isEmpty then none
      else
        let value? := inner.foldl (fun value char =>
          value.bind fun value => (hexDigit? char).map (16 * value + ·)) (some 0)
        (value?.bind charOfCode?).map fun char => (.char char false, skip flags after)
  | rest =>
    (fixedHex? flags 0 digits rest).bind fun (value, after) =>
      (charOfCode? value).map fun char => (.char char (digits == 2), after)

/-- A set in the case and the polarity that a pattern asks for. Without Unicode, sets stay within
ASCII, so that none can be negated. -/
def settled? (flags : Flags) (negated : Bool) (set : CharSet) : Option CharSet :=
  if flags.unicode then
    let set := if flags.anyCase then set.closedUnderCase else set
    some (if negated then set.complement else set)
  else if negated || !set.isAscii then none
  else some (if flags.anyCase then set.closedUnderAsciiCase else set)

/-- The set of a property between braces, which may be given a value, and whether the set is
negated. -/
def propertySet? (inner : Text) : Option (CharSet × Bool) :=
  let cut? (mark : Text) : Option (Text × Text) :=
    (Text.indexOf? mark inner).map fun at_ => (inner.take at_, inner.drop (at_ + mark.length))
  match cut? "!=".toList, cut? [':'], cut? ['='] with
  | some (name, value), _, _ => (valueSet? name value).map (·, true)
  | none, some (name, value), _ => (valueSet? name value).map (·, false)
  | none, none, some (name, value) => (valueSet? name value).map (·, false)
  | none, none, none => (namedSet? inner).map (·, false)

/-- The set of a property after the letter that announces it, and what follows it. -/
def propertySign? (flags : Flags) (negated : Bool) (text : Text) : Option (Sign × Text) :=
  let read? : Option (Option (CharSet × Bool) × Text) :=
    match skip flags text with
    | [] => none
    | '\x7b' :: rest =>
      (braced? flags (rest.length + 1) rest).map fun (inner, after) => (propertySet? inner, after)
    | '\\' :: _ => none
    | char :: rest => some ((namedSet? [char]).map (·, false), skip flags rest)
  if flags.unicode then
    read?.bind fun (found?, after) =>
      (found?.bind fun (set, other) => settled? flags (negated != other) set).map fun set =>
        (.set set, after)
  else none

/-- The word characters of a pattern. -/
def letters (flags : Flags) : CharSet :=
  if flags.unicode then wordSet else asciiWordSet

/-- The set of a class letter. Without Unicode its negation is refused. -/
def classSign? (flags : Flags) (letter : Char) : Option Sign :=
  let set := match letter.toLower with
    | 'd' => if flags.unicode then digitSet else asciiDigitSet
    | 's' => if flags.unicode then spaceSet else asciiSpaceSet
    | _ => letters flags
  if letter.isUpper then
    if flags.unicode then some (.set set.complement) else none
  else some (.set set)

/-- The assertion on words that braces after `\b` name. -/
def wordAssertion? (flags : Flags) (name : Text) : Option Assertion :=
  if name == "start".toList then some (.wordStart (letters flags))
  else if name == "end".toList then some (.wordEnd (letters flags))
  else if name == "start-half".toList then some (.wordStartHalf (letters flags))
  else if name == "end-half".toList then some (.wordEndHalf (letters flags))
  else none

/-- Characters in the names of word assertions. -/
def isAssertionLetter (char : Char) : Bool :=
  char.isAlpha || char == '-'

/-- The letters at the front of a text, without white space in a spaced pattern, and the rest. -/
def assertionName (flags : Flags) (fuel : Nat) (text : Text) : Text × Text :=
  match fuel, text with
  | fuel + 1, char :: rest =>
    if isAssertionLetter char then
      let (name, after) := assertionName flags fuel (skip flags rest)
      (char :: name, after)
    else ([], text)
  | _, text => ([], text)

/-- The word assertion after `\b`. Braces that begin with a letter name one; other braces count a
repetition and are left. -/
def boundarySign? (flags : Flags) (text : Text) : Option (Sign × Text) :=
  match text with
  | '\x7b' :: rest =>
    match skip flags rest with
    | [] => none
    | char :: others =>
      if isAssertionLetter char then
        match assertionName flags (others.length + 1) (char :: others) with
        | (name, '\x7d' :: after) =>
          (wordAssertion? flags name).map fun found => (.assertion found, after)
        | _ => none
      else some (.assertion (.wordBoundary (letters flags)), text)
  | _ => some (.assertion (.wordBoundary (letters flags)), text)

/-- Characters that have a meaning in patterns. -/
def isMeta (char : Char) : Bool :=
  "\\.+*?()|[]\x7b\x7d^$#&-~".toList.contains char

/-- Characters that stand for themselves after a backslash. -/
def isEscapable (char : Char) : Bool :=
  isMeta char ||
    (char.toNat ≤ 0x7F && !char.isAlphanum && char != '<' && char != '>')

/-- The sign that a letter after a backslash stands for. -/
def letterSign? (flags : Flags) (letter : Char) : Option Sign :=
  match letter with
  | 'a' => some (.char '\x07' false)
  | 'f' => some (.char '\x0c' false)
  | 't' => some (.char '\t' false)
  | 'n' => some (.char '\n' false)
  | 'r' => some (.char '\r' false)
  | 'v' => some (.char '\x0b' false)
  | 'A' => some (.assertion .textStart)
  | 'z' => some (.assertion .textEnd)
  | 'B' => some (.assertion (.noWordBoundary (letters flags)))
  | '<' => some (.assertion (.wordStart (letters flags)))
  | '>' => some (.assertion (.wordEnd (letters flags)))
  | letter => if isEscapable letter then some (.char letter false) else none

/-- The sign of an escape after its backslash, and what follows it. -/
def escape? (flags : Flags) (text : Text) : Option (Sign × Text) :=
  match text with
  | [] => none
  | 'x' :: rest => hexSign? flags 2 rest
  | 'u' :: rest => hexSign? flags 4 rest
  | 'U' :: rest => hexSign? flags 8 rest
  | 'p' :: rest => propertySign? flags false rest
  | 'P' :: rest => propertySign? flags true rest
  | 'b' :: rest => boundarySign? flags rest
  | letter :: rest =>
    if "dswDSW".toList.contains letter then
      (classSign? flags letter).map fun sign => (sign, rest)
    else (letterSign? flags letter).map fun sign => (sign, rest)

/-- The code point of a character in a set. Without Unicode it must be of ASCII. -/
def memberCode? (flags : Flags) (char : Char) : Option Nat :=
  if flags.unicode || char.toNat ≤ 0x7F then some char.toNat else none

/-- The form of a character outside sets. -/
def charForm? (flags : Flags) (char : Char) (raw : Bool) : Option Form :=
  if flags.unicode then
    some (if flags.anyCase then .ofSet (CharSet.singleton char).closedUnderCase
      else .literal [char])
  else if raw && 0x7F < char.toNat then none
  else if flags.anyCase && char.toNat ≤ 0x7F then
    some (.ofSet (CharSet.singleton char).closedUnderAsciiCase)
  else some (.literal [char])

/-- The form of a sign outside sets. -/
def signForm? (flags : Flags) : Sign → Option Form
  | .char char raw => charForm? flags char raw
  | .set set => some (.ofSet set)
  | .assertion found => some (.assertion found)

/-- The form of a dot. -/
def dotForm? (flags : Flags) : Option Form :=
  if !flags.unicode then none
  else if flags.dotAll then some (.one anySet)
  else if flags.breaks then some (.one (CharSet.complement ⟨[(0x0A, 0x0A), (0x0D, 0x0D)]⟩))
  else some (.one (CharSet.complement ⟨[(0x0A, 0x0A)]⟩))

/-- The form of a caret or of a dollar sign. -/
def lineForm (flags : Flags) (isStart : Bool) : Form :=
  .assertion <|
    if flags.lines then
      if flags.breaks then (if isStart then .breakStart else .breakEnd)
      else (if isStart then .lineStart else .lineEnd)
    else (if isStart then .textStart else .textEnd)

/-! Sets between brackets. -/

/-- How two sets are combined. -/
inductive SetOperation where
  | both
  | butNot
  | oneOnly

/-- The members of a set that have been read: their union, how many they are, and how deep
brackets are nested in them. -/
structure Members where
  set : CharSet := .empty
  count : Nat := 0
  depth : Nat := 0

/-- Adds a member. -/
def Members.add (members : Members) (set : CharSet) (depth : Nat) : Members :=
  ⟨members.set.union set, members.count + 1, max members.depth depth⟩

/-- How deep members are nested as one operand. -/
def Members.nesting (members : Members) : Nat :=
  if members.count < 2 then members.depth else members.depth + 1

/-- An open bracket: whether it is negated, what stands to the left of an operation, and the
members since then. -/
structure Bracket where
  negated : Bool
  left : Option (CharSet × Nat × SetOperation) := none
  members : Members := {}

/-- A set as the operand of an operation. -/
def operand (flags : Flags) (set : CharSet) : CharSet :=
  if !flags.anyCase then set
  else if flags.unicode then set.closedUnderCase else set.closedUnderAsciiCase

/-- The set in a bracket, with how deep it is nested. -/
def Bracket.content (flags : Flags) (bracket : Bracket) : CharSet × Nat :=
  match bracket.left with
  | none => (bracket.members.set, bracket.members.nesting)
  | some (left, depth, operation) =>
    let left := operand flags left
    let right := operand flags bracket.members.set
    let set := match operation with
      | .both => left.inter right
      | .butNot => left.diff right
      | .oneOnly => left.symmetricDiff right
    (set, max depth bracket.members.nesting + 1)

/-- Begins the right side of an operation. -/
def Bracket.operate (flags : Flags) (bracket : Bracket) (operation : SetOperation) : Bracket :=
  let (set, depth) := bracket.content flags
  { bracket with left := some (set, depth, operation), members := {} }

/-- Hyphens directly after an opening bracket are members. -/
def leadingHyphens (flags : Flags) (fuel : Nat) (members : Members) (text : Text) :
    Members × Text :=
  match fuel, text with
  | fuel + 1, '-' :: rest =>
    leadingHyphens flags fuel (members.add (.singleton '-') 0) (skip flags rest)
  | _, text => (members, text)

/-- Opens a bracket; a closing bracket directly after it is a member. -/
def openBracket? (flags : Flags) (text : Text) : Option (Bracket × Text) :=
  let (negated, text) := match skip flags text with
    | '^' :: rest => (true, skip flags rest)
    | rest => (false, rest)
  match leadingHyphens flags text.length {} text with
  | (_, []) => none
  | (members, ']' :: rest) =>
    if members.count = 0 then
      match skip flags rest with
      | [] => none
      | rest => some ({ negated, members := members.add (.singleton ']') 0 }, rest)
    else some ({ negated, members }, ']' :: rest)
  | (members, rest) => some ({ negated, members }, rest)

/-- A set of ASCII by name, such as `[:alpha:]`, after its first bracket. -/
def asciiMember? (text : Text) : Option (Bool × CharSet × Text) :=
  match text with
  | ':' :: rest =>
    let (negated, rest) := match rest with
      | '^' :: rest => (true, rest)
      | rest => (false, rest)
    match rest.takeWhile (· != ':'), rest.dropWhile (· != ':') with
    | name, ':' :: ']' :: after => (asciiSet? name).map fun set => (negated, set, after)
    | _, _ => none
  | _ => none

/-- A member of a set that is a character or an escape, and what follows it. -/
def memberSign? (flags : Flags) (text : Text) : Option (Sign × Text) :=
  match text with
  | [] => none
  | '\\' :: rest => escape? flags rest
  | char :: rest => some (.char char false, rest)

/-- The code point at an end of a range. -/
def endCode? (flags : Flags) : Sign → Option Nat
  | .char char _ => memberCode? flags char
  | _ => none

/-- The set of a sign as a member. -/
def signMember? (flags : Flags) : Sign → Option CharSet
  | .char char _ => (memberCode? flags char).map fun code => ⟨[(code, code)]⟩
  | .set set => some set
  | .assertion _ => none

/-- A member of a set, which may be a range, and what follows it. -/
def member? (flags : Flags) (text : Text) : Option (CharSet × Text) :=
  (memberSign? flags text).bind fun (first, rest) =>
    match skip flags rest with
    | [] => none
    | '-' :: more =>
      let next := peek? flags ('-' :: more)
      if next == some ']' || next == some '-' then
        (signMember? flags first).map fun set => (set, '-' :: more)
      else
        (memberSign? flags (skip flags more)).bind fun (last, after) =>
          match endCode? flags first, endCode? flags last with
          | some low, some high => if low ≤ high then some (⟨[(low, high)]⟩, after) else none
          | _, _ => none
    | rest => (signMember? flags first).map fun set => (set, rest)

/-- Reads a set up to the bracket that closes it. The stack holds the open brackets, innermost
first. The answer is the set, how deep it is nested, and what follows it. -/
def brackets? (flags : Flags) (fuel : Nat) (inner : Bracket) (outer : List Bracket) (text : Text) :
    Option (CharSet × Nat × Text) :=
  match fuel with
  | 0 => none
  | fuel + 1 =>
    let adding (set : CharSet) (depth : Nat) (rest : Text) :=
      brackets? flags fuel { inner with members := inner.members.add set depth } outer rest
    let opening (rest : Text) :=
      (openBracket? flags rest).bind fun (bracket, rest) =>
        brackets? flags fuel bracket (inner :: outer) rest
    let operating (operation : SetOperation) (rest : Text) :=
      brackets? flags fuel (inner.operate flags operation) outer rest
    match skip flags text with
    | [] => none
    | '[' :: rest =>
      match asciiMember? rest with
      | some (negated, set, after) => (settled? flags negated set).bind (adding · 0 after)
      | none => opening rest
    | ']' :: rest =>
      let (set, depth) := inner.content flags
      (settled? flags inner.negated set).bind fun set =>
        match outer with
        | [] => some (set, depth + 1, rest)
        | next :: outer =>
          let next := { next with members := next.members.add set (depth + 1) }
          brackets? flags fuel next outer rest
    | '&' :: '&' :: rest => operating .both rest
    | '-' :: '-' :: rest => operating .butNot rest
    | '~' :: '~' :: rest => operating .oneOnly rest
    | rest => (member? flags rest).bind fun (set, after) => adding set 0 after

/-- The set after an opening bracket, how deep it is nested, and what follows it. -/
def bracketSet? (flags : Flags) (text : Text) : Option (CharSet × Nat × Text) :=
  (openBracket? flags text).bind fun (bracket, rest) =>
    brackets? flags (2 * text.length + 2) bracket [] rest

/-! Groups, repetitions and alternatives. -/

/-- How deep the parts of a pattern may be nested. -/
def nestingLimit : Nat := 250

/-- A part of a sequence: its form and how deep it is nested. Settings of flags are parts that
cannot be repeated. -/
structure Item where
  form : Form
  depth : Nat := 0
  isSetting : Bool := false

/-- A sequence of parts, given last part first. -/
def sequenceItem (parts : List Item) : Item :=
  match parts with
  | [] => { form := .empty }
  | [item] => item
  | items =>
    { form := .joined (items.reverse.map Item.form)
      depth := (items.map Item.depth).foldl max 0 + 1 }

/-- An open group: its parts, last part first, its finished alternatives, last one first, and what
becomes of it. -/
structure Level where
  parts : List Item := []
  choices : List Item := []
  /-- The group that remembers the match, if any. -/
  group : Option Group := none
  /-- The flags outside. -/
  outside : Flags := {}

/-- Adds a part. -/
def Level.add (level : Level) (item : Item) : Level :=
  { level with parts := item :: level.parts }

/-- Begins the next alternative. -/
def Level.split (level : Level) : Level :=
  { level with parts := [], choices := sequenceItem level.parts :: level.choices }

/-- All that a level has read. -/
def Level.item (level : Level) : Item :=
  let last := sequenceItem level.parts
  match level.choices with
  | [] => last
  | choices =>
    let items := last :: choices
    { form := .alternatives (items.reverse.map Item.form)
      depth := (items.map Item.depth).foldl max 0 + 1 }

/-- The group that a level becomes. -/
def Level.close (level : Level) : Item :=
  let inner := level.item
  let form := match level.group with
    | some group => .group group inner.form
    | none => inner.form
  { form, depth := inner.depth + 1 }

/-- The place of a reader in a pattern. -/
structure State where
  level : Level := {}
  outer : List Level := []
  flags : Flags := {}
  /-- How many groups have been opened. -/
  opened : Nat := 0
  names : List Text := []

/-- Adds a part to the innermost level. -/
def State.add (state : State) (item : Item) : State :=
  { state with level := state.level.add item }

/-- Opens a level. -/
def State.enter (state : State) (group : Option Group) (flags : Flags) : State :=
  { state with level := { group, outside := state.flags }, outer := state.level :: state.outer,
               flags }

/-- Repeats the last part, unless it is nested too deep already. -/
def State.repeatLast? (state : State) (least : Nat) (most : Option Nat) (greedy : Bool) :
    Option State :=
  match state.level.parts with
  | [] => none
  | last :: before =>
    if last.isSetting || nestingLimit ≤ last.depth then none
    else
      let greedy := greedy != state.flags.modest
      let item : Item :=
        { form := last.form.repeating least most greedy, depth := last.depth + 1 }
      some { state with level := { state.level with parts := item :: before } }

/-- Flags up to a colon or a closing parenthesis: the new flags, whether any was named, whether a
colon ends them, and what follows. -/
def flags? (flags : Flags) (seen : Text) (value : Bool) : Text →
    Option (Flags × Bool × Bool × Text)
  | [] => none
  | char :: rest =>
    if char = ':' || char = ')' then
      if seen.head? == some '-' then none else some (flags, !seen.isEmpty, char = ':', rest)
    else if List.elem char seen then none
    else if char = '-' then flags? flags ('-' :: seen) false rest
    else (flags.set? char value).bind fun flags => flags? flags (char :: seen) value rest

/-- Whether a character may stand in the name of a group. -/
def isNameChar (first : Bool) (char : Char) : Bool :=
  if first then char == '_' || alphabeticSet.has char
  else char == '_' || char == '.' || char == '[' || char == ']' || alphabeticSet.has char ||
    numericSet.has char

/-- The name of a group up to its closing bracket, and what follows it. -/
def groupName? (text : Text) : Option (Text × Text) :=
  match text.takeWhile (· != '>'), text.dropWhile (· != '>') with
  | first :: others, '>' :: rest =>
    if isNameChar true first && others.all (isNameChar false) then some (first :: others, rest)
    else none
  | _, _ => none

/-- Opens a named group after the bracket before its name. -/
def openNamed? (state : State) (text : Text) : Option (State × Text) :=
  (groupName? text).bind fun (name, rest) =>
    if state.names.contains name then none
    else
      let opened := state.opened + 1
      let state := state.enter (some ⟨opened, some name⟩) state.flags
      some ({ state with opened, names := name :: state.names }, rest)

/-- Reads what follows an opening parenthesis: a group is opened, or flags are set. -/
def openGroup? (state : State) (text : Text) : Option (State × Text) :=
  match skip state.flags text with
  | '?' :: 'P' :: '<' :: rest => openNamed? state rest
  | '?' :: '<' :: rest =>
    if rest.head? == some '=' || rest.head? == some '!' then none else openNamed? state rest
  | '?' :: rest =>
    match flags? state.flags [] true rest with
    | none => none
    | some (flags, _, true, rest) => some (state.enter none flags, rest)
    | some (flags, true, false, rest) =>
      some ({ state.add { form := .empty, isSetting := true } with flags }, rest)
    | some (_, false, false, _) => none
  | rest =>
    let opened := state.opened + 1
    some ({ state.enter (some ⟨opened, none⟩) state.flags with opened }, rest)

/-- Closes the innermost group. -/
def closeGroup? (state : State) : Option State :=
  match state.outer with
  | [] => none
  | level :: outer =>
    some { state with level := level.add state.level.close, outer,
                      flags := state.level.outside }

/-- Whether a repetition is greedy: a question mark makes it modest. -/
def greed (text : Text) : Bool × Text :=
  match text with
  | '?' :: rest => (false, rest)
  | rest => (true, rest)

/-- The digits of a count with white space around them, and what follows. -/
def countDigits (flags : Flags) (fuel : Nat) (text : Text) : Text × Text :=
  match fuel, text with
  | fuel + 1, char :: rest =>
    if '0' ≤ char && char ≤ '9' then
      let (digits, after) := countDigits flags fuel (skip flags rest)
      (char :: digits, after)
    else ([], text)
  | _, text => ([], text)

/-- A count in a repetition, and what follows it; a missing one is `none`, too large a one fails
the pattern. -/
def count? (flags : Flags) (text : Text) : Option (Option Nat × Text) :=
  let start := text.dropWhile Text.isBlank
  let (digits, after) := countDigits flags start.length start
  let rest := skip flags (after.dropWhile Text.isBlank)
  match Text.natural? digits with
  | none => some (none, rest)
  | some value => if value < 0x100000000 then some (some value, rest) else none

/-- The bounds between braces, after the first brace, and what follows the last one. -/
def bounds? (flags : Flags) (text : Text) : Option (Nat × Option Nat × Text) :=
  (count? flags (skip flags text)).bind fun (least, rest) =>
    match least, rest with
    | some least, '\x7d' :: rest => some (least, some least, rest)
    | some least, ',' :: rest =>
      match skip flags rest with
      | '\x7d' :: rest => some (least, none, rest)
      | rest =>
        (count? flags rest).bind fun (most, rest) =>
          match most, rest with
          | some most, '\x7d' :: rest =>
            if least ≤ most then some (least, some most, rest) else none
          | _, _ => none
    | _, _ => none

/-- Reads one construct at the front of a text that is not empty. -/
def step? (state : State) (char : Char) (rest : Text) : Option (State × Text) :=
  let flags := state.flags
  let repeating (least : Nat) (most : Option Nat) (text : Text) : Option (State × Text) :=
    let (greedy, rest) := greed text
    (state.repeatLast? least most greedy).map fun state => (state, rest)
  let adding (form : Form) (rest : Text) : Option (State × Text) :=
    some (state.add { form }, rest)
  match char with
  | '(' => openGroup? state rest
  | ')' => (closeGroup? state).map fun state => (state, rest)
  | '|' => some ({ state with level := state.level.split }, rest)
  | '[' =>
    (bracketSet? flags rest).map fun (set, depth, rest) =>
      (state.add { form := .ofSet set, depth }, rest)
  | '?' => repeating 0 (some 1) rest
  | '*' => repeating 0 none rest
  | '+' => repeating 1 none rest
  | '\x7b' =>
    (bounds? flags rest).bind fun (least, most, rest) => repeating least most (skip flags rest)
  | '.' => (dotForm? flags).bind (adding · rest)
  | '^' => adding (lineForm flags true) rest
  | '$' => adding (lineForm flags false) rest
  | '\\' =>
    (escape? flags rest).bind fun (sign, rest) =>
      (signForm? flags sign).bind (adding · rest)
  | char => (charForm? flags char false).bind (adding · rest)

/-- Reads a pattern to its end. Every construct takes a character, so the length is fuel enough. -/
def run? (fuel : Nat) (state : State) (text : Text) : Option State :=
  match fuel with
  | 0 => none
  | fuel + 1 =>
    match skip state.flags text with
    | [] => some state
    | char :: rest => (step? state char rest).bind fun (state, rest) => run? fuel state rest

end Reader

/-- The form of a pattern, if it is one. -/
def Form.read? (text : Text) : Option Form :=
  (Reader.run? (text.length + 1) {} text).bind fun state =>
    if !state.outer.isEmpty then none
    else
      let item := state.level.item
      if item.depth ≤ Reader.nestingLimit then some item.form else none

end Docket.Pattern
