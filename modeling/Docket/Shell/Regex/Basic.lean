import Docket.Pattern.Folding
import Docket.Pattern.Search

/-! Regular expressions of the tools of a shell: of all matches that begin first, the longest one
counts, and so for every part from left to right. -/

namespace Docket.Shell

/-- Conditions on a position in a text. -/
inductive Mark where
  | lineStart
  | lineEnd
  | textStart
  | textEnd
  | wordEdge
  | noWordEdge
  | wordStart
  | wordEnd
  /-- No character of a word stands before the place. -/
  | wordFree
  /-- No character of a word stands behind the place. -/
  | freeOfWord
deriving DecidableEq, Repr

/-- What a regular expression matches. -/
inductive Regex where
  | empty
  | oneOf (chars : CharSet)
  | check (mark : Mark)
  | group (index : Nat) (body : Regex)
  /-- What a group has matched, once more. -/
  | again (index : Nat)
  | repeated (body : Regex) (least : Nat) (most : Option Nat)
  | sequence (first second : Regex)
  | choice (first second : Regex)

/-- How a text is searched. -/
structure Manner where
  /-- Letters of ASCII match in either case. -/
  anyCase : Bool := false
  /-- Lines begin and end at line feeds within the text. -/
  byLine : Bool := false
deriving DecidableEq

/-- Whether a character is one of a word. -/
def isWordChar (char : Char) : Bool :=
  char.isAlphanum || char == '_'

/-- Whether a mark holds at a place. -/
def Mark.holds (manner : Manner) (place : Pattern.Place) : Mark → Bool
  | lineStart => place.before.isNone || (manner.byLine && place.before == some '\n')
  | lineEnd => place.rest.isEmpty || (manner.byLine && place.rest.head? == some '\n')
  | textStart => place.before.isNone
  | textEnd => place.rest.isEmpty
  | wordEdge => place.before.any isWordChar != place.rest.head?.any isWordChar
  | noWordEdge => place.before.any isWordChar == place.rest.head?.any isWordChar
  | wordStart => !place.before.any isWordChar && place.rest.head?.any isWordChar
  | wordEnd => place.before.any isWordChar && !place.rest.head?.any isWordChar
  | wordFree => !place.before.any isWordChar
  | freeOfWord => !place.rest.head?.any isWordChar

namespace Regex

/-- A place that has been reached, and where groups have matched what, last matches first. -/
structure Reach where
  place : Pattern.Place
  groups : List (Nat × Nat × Text) := []

/-- Whether an expression refers back to its groups. -/
def refersBack : Regex → Bool
  | .again _ => true
  | .group _ body => refersBack body
  | .repeated body .. => refersBack body
  | .sequence first second => refersBack first || refersBack second
  | .choice first second => refersBack first || refersBack second
  | _ => false

/-- The first of the reaches in each place, or all that differ if groups are referred to. -/
def distinct (all : Bool) : List Reach → List Reach
  | first :: second :: rest =>
    if first.place.index = second.place.index && (!all || first.groups == second.groups) then
      distinct all (first :: rest)
    else first :: distinct all (second :: rest)
  | reaches => reaches
termination_by reaches => reaches.length

/-- Reaches in order, the farthest ones first. -/
def tidy (all : Bool) (reaches : List Reach) : List Reach :=
  match reaches with
  | [] => []
  | [reach] => [reach]
  | reaches =>
    distinct all (reaches.mergeSort fun left right => right.place.index ≤ left.place.index)

/-- Takes steps `count` times. -/
def steps (all : Bool) (step : Reach → List Reach) : Nat → List Reach → List Reach
  | 0, reaches => reaches
  | count + 1, reaches =>
    if reaches.isEmpty then [] else steps all step count (tidy all (reaches.flatMap step))

/-- Takes up to `count` steps that get farther. `known` are the places that have been reached. -/
def moreSteps (all : Bool) (step : Reach → List Reach) (known : List Reach) :
    Nat → List Reach → List Reach
  | 0, _ => known
  | count + 1, reaches =>
    let next := reaches.flatMap fun reach =>
      (step reach).filter fun other => reach.place.index < other.place.index
    let fresh := tidy all next |>.filter fun reach =>
      all || known.all fun other => other.place.index != reach.place.index
    if fresh.isEmpty then known else moreSteps all step (known ++ fresh) count fresh

/-- Whether two characters are the same, or may be taken for the same. -/
def sameChar (manner : Manner) (left right : Char) : Bool :=
  left == right || (manner.anyCase && left.toLower == right.toLower)

/-- The place behind a text, if that comes next. -/
def passText? (manner : Manner) : Text → Pattern.Place → Option Pattern.Place
  | [], place => some place
  | char :: rest, place =>
    match place.rest with
    | next :: _ =>
      if sameChar manner char next then place.next?.bind (passText? manner rest) else none
    | [] => none

/-- Where the matches of an expression end that begin at a place, the farthest ones first. -/
def ends (manner : Manner) (all : Bool) : Regex → Reach → List Reach
  | .empty, reach => [reach]
  | .oneOf chars, reach =>
    match reach.place.rest with
    | char :: rest =>
      if chars.has char then
        [{ reach with place := ⟨reach.place.index + 1, some char, rest⟩ }]
      else []
    | [] => []
  | .check found, reach => if Mark.holds manner reach.place found then [reach] else []
  | .group index body, reach =>
    (ends manner all body reach).map fun next =>
      let found := reach.place.rest.take (next.place.index - reach.place.index)
      { next with groups := (index, reach.place.index, found) :: next.groups }
  | .again index, reach =>
    match reach.groups.lookup index with
    | some (_, found) =>
      match passText? manner found reach.place with
      | some place => [{ reach with place }]
      | none => []
    | none => []
  | .repeated body least most, reach =>
    let front := steps all (ends manner all body) least [reach]
    let bound := reach.place.rest.length + 1
    let count := match most with
      | some most => min (most - least) bound
      | none => bound
    tidy all (moreSteps all (ends manner all body) front count front)
  | .sequence first second, reach =>
    match first, reach.place.rest with
    | .oneOf chars, char :: rest =>
      if chars.has char then
        ends manner all second { reach with place := ⟨reach.place.index + 1, some char, rest⟩ }
      else []
    | first, _ => tidy all ((ends manner all first reach).flatMap (ends manner all second))
  | .choice first second, reach =>
    tidy all (ends manner all first reach ++ ends manner all second reach)

/-- A match: where it begins, its text, and the texts of its groups. -/
structure Found where
  start : Nat
  text : Text
  groups : List (Nat × Text)

/-- The match of an expression that begins at a place. -/
def matchAt? (regex : Regex) (manner : Manner) (place : Pattern.Place) : Option Found :=
  (regex.ends manner regex.refersBack { place }).head?.map fun reach =>
    { start := place.index, text := place.rest.take (reach.place.index - place.index)
      groups := reach.groups.map fun (index, _, text) => (index, text) }

/-- The first match at a place or after it. -/
def searchFrom? (regex : Regex) (manner : Manner) (index : Nat) (before : Option Char)
    (rest : Text) : Option Found :=
  match regex.matchAt? manner ⟨index, before, rest⟩ with
  | some found => some found
  | none =>
    match rest with
    | [] => none
    | char :: rest => regex.searchFrom? manner (index + 1) (some char) rest

/-- The first match at a place or after it. -/
def search? (regex : Regex) (manner : Manner) (place : Pattern.Place) : Option Found :=
  regex.searchFrom? manner place.index place.before place.rest

/-- Whether a text has a match. -/
def isIn (regex : Regex) (manner : Manner) (text : Text) : Bool :=
  (regex.search? manner (.start text)).isSome

/-- What a group has matched; group zero is the whole match. -/
def Found.group (found : Found) (index : Nat) : Text :=
  if index = 0 then found.text else (found.groups.lookup index).getD []

/-- The end of a match. -/
def Found.stop (found : Found) : Nat :=
  found.start + found.text.length

/-- The place `count` characters further on. -/
def advance (place : Pattern.Place) : Nat → Pattern.Place
  | 0 => place
  | count + 1 =>
    match place.next? with
    | some next => advance next count
    | none => place

/-- The matches in a text one after the other; an empty match directly behind another one does not
count. Each step costs one of `fuel`. -/
def matchesFrom (regex : Regex) (manner : Manner) (fuel : Nat) (place : Pattern.Place)
    (last : Option Nat) : List Found :=
  match fuel with
  | 0 => []
  | fuel + 1 =>
    match regex.search? manner place with
    | none => []
    | some found =>
      let after := advance place (found.stop - place.index)
      let passed := match after.next? with
        | some next => matchesFrom regex manner fuel next last
        | none => []
      if !found.text.isEmpty then
        found :: matchesFrom regex manner fuel after (some found.stop)
      else if last = some found.start then passed
      else found :: passed

/-- All matches in a text. -/
def allMatches (regex : Regex) (manner : Manner) (text : Text) : List Found :=
  regex.matchesFrom manner (2 * text.length + 2) (.start text) none

end Regex

end Docket.Shell
