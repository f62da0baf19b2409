import Docket.Pattern.CharSet

/-! The structure of patterns: what they match, and where they remember it. -/

namespace Docket.Pattern

/-- Conditions on a position in a text. The ones on words come with the set of word characters. -/
inductive Assertion where
  | textStart
  | textEnd
  | lineStart
  | lineEnd
  | breakStart
  | breakEnd
  | wordBoundary (letters : CharSet)
  | noWordBoundary (letters : CharSet)
  | wordStart (letters : CharSet)
  | wordEnd (letters : CharSet)
  | wordStartHalf (letters : CharSet)
  | wordEndHalf (letters : CharSet)
deriving DecidableEq, Repr

/-- Whether a character that may be missing is one of a word. -/
def inWord (letters : CharSet) (char : Option Char) : Bool :=
  char.any letters.has

/-- Whether an assertion holds between two characters; none stands beyond the ends of the text.
Line assertions know single line feeds, break assertions also carriage returns before them. -/
def Assertion.holds (before after : Option Char) : Assertion → Bool
  | textStart => before.isNone
  | textEnd => after.isNone
  | lineStart => before.isNone || before == some '\n'
  | lineEnd => after.isNone || after == some '\n'
  | breakStart =>
    before.isNone || before == some '\n' || (before == some '\r' && after != some '\n')
  | breakEnd =>
    after.isNone || after == some '\r' || (after == some '\n' && before != some '\r')
  | wordBoundary letters => inWord letters before != inWord letters after
  | noWordBoundary letters => inWord letters before == inWord letters after
  | wordStart letters => !inWord letters before && inWord letters after
  | wordEnd letters => inWord letters before && !inWord letters after
  | wordStartHalf letters => !inWord letters before
  | wordEndHalf letters => !inWord letters after

/-- A group that remembers what it matched, by its position among the groups. Group zero is the
whole match. -/
structure Group where
  index : Nat
  name : Option Text
deriving DecidableEq, Repr

/-- What a pattern matches. -/
inductive Form where
  | empty
  | literal (text : Text)
  | one (set : CharSet)
  | assertion (assertion : Assertion)
  | group (group : Group) (body : Form)
  | repeated (body : Form) (least : Nat) (most : Option Nat) (greedy : Bool)
  | sequence (parts : List Form)
  | choice (parts : List Form)
deriving Inhabited

namespace Form

mutual

/-- Whether a form can only match the empty text. -/
def isIdle : Form → Bool
  | empty => true
  | literal _ => false
  | one _ => false
  | assertion _ => true
  | group _ body => isIdle body
  | repeated body .. => isIdle body
  | sequence parts => allIdle parts
  | choice parts => allIdle parts

/-- Whether all forms can only match the empty text. -/
def allIdle : List Form → Bool
  | [] => true
  | form :: rest => isIdle form && allIdle rest

end

mutual

/-- The fewest characters that a match of a form takes, if all its parts can match. -/
def shortest? : Form → Option Nat
  | empty => some 0
  | literal text => some text.length
  | one set => if set.isEmpty then none else some 1
  | assertion _ => some 0
  | group _ body => shortest? body
  | repeated body least .. => (shortest? body).map (least * ·)
  | sequence parts => shortestSum? parts
  | choice parts => shortestOf? parts

/-- The fewest characters that matches of all forms in a row take. -/
def shortestSum? : List Form → Option Nat
  | [] => some 0
  | form :: rest =>
    match shortest? form, shortestSum? rest with
    | some first, some others => some (first + others)
    | _, _ => none

/-- The fewest characters that a match of one of the forms takes. -/
def shortestOf? : List Form → Option Nat
  | [] => none
  | [form] => shortest? form
  | form :: rest =>
    match shortest? form, shortestOf? rest with
    | some first, some others => some (min first others)
    | _, _ => none

end

/-- Whether every match of a form is known to take at least one character. -/
def consumes (form : Form) : Bool :=
  (shortest? form).any (0 < ·)

mutual

/-- Whether two forms are the same. -/
def same : Form → Form → Bool
  | empty, empty => true
  | literal text, literal other => text == other
  | one set, one other => set == other
  | assertion found, assertion other => found == other
  | group found body, group other inner => found == other && same body inner
  | repeated body least most greedy, repeated inner least' most' greedy' =>
    least == least' && most == most' && greedy == greedy' && same body inner
  | sequence parts, sequence others => allSame parts others
  | choice parts, choice others => allSame parts others
  | _, _ => false

/-- Whether two lists of forms are the same. -/
def allSame : List Form → List Form → Bool
  | [], [] => true
  | form :: rest, other :: others => same form other && allSame rest others
  | _, _ => false

end

mutual

/-- The groups in a form, in the order of their opening parentheses. -/
def groups : Form → List Group
  | empty => []
  | literal _ => []
  | one _ => []
  | assertion _ => []
  | group found body => found :: groups body
  | repeated body .. => groups body
  | sequence parts => groupsOf parts
  | choice parts => groupsOf parts

/-- The groups in several forms. -/
def groupsOf : List Form → List Group
  | [] => []
  | form :: rest => groups form ++ groupsOf rest

end

/-- A repetition, simplified: what matches only the empty text is repeated at most once, no
repetition at all is empty and drops its groups, and a single one is the form itself. -/
def repeating (body : Form) (least : Nat) (most : Option Nat) (greedy : Bool) : Form :=
  let (least, most) :=
    if isIdle body then (min least 1, some (min (most.getD 1) 1)) else (least, most)
  if least = 0 ∧ most = some 0 then empty
  else if least = 1 ∧ most = some 1 then body
  else repeated body least most greedy

end Form

end Docket.Pattern
