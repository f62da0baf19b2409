import Docket.Pattern.Reader
import Docket.Pattern.Search
import Docket.Pattern.Size

/-! Patterns that are ready to be searched for. -/

namespace Docket

/-- A pattern: its program, how many groups there are besides the whole match, and their names. -/
structure Pattern where
  program : Pattern.Program
  groupCount : Nat
  names : List (Text × Nat)
deriving Inhabited

namespace Pattern

/-- The pattern that a text stands for, if it is one and is not too large. -/
def read? (text : Text) : Option Pattern :=
  (Form.read? text).bind fun form =>
    if Size.isAllowed form then
      let groups := form.groups
      some {
        program := .ofForm form
        groupCount := (groups.map Group.index).foldl max 0
        names := groups.filterMap fun group => group.name.map fun name => (name, group.index) }
    else none

/-- A match in a text: the positions of the groups that took part in it. -/
structure Match where
  text : Text
  slots : Slots

namespace Match

/-- Where the match begins and where it ends. -/
def span (found : Match) : Nat × Nat :=
  (found.slots.span? 0).getD (0, 0)

/-- What a group matched, if it took part in the match. -/
def group? (found : Match) (group : Nat) : Option Text :=
  (found.slots.span? group).map fun (first, last) => (found.text.drop first).take (last - first)

end Match

/-- The first match in a text. -/
def match? (pattern : Pattern) (text : Text) : Option Match :=
  (pattern.program.search? (.start text)).map fun slots => ⟨text, slots⟩

/-- Whether a text has a match. -/
def matchesIn (pattern : Pattern) (text : Text) : Bool :=
  (pattern.match? text).isSome

/-- The group that a name in a replacement refers to. -/
def groupNamed? (pattern : Pattern) (name : Text) : Option Nat :=
  pattern.names.lookup name

/-- The place `count` characters further on. -/
def Place.advance (place : Place) : Nat → Place
  | 0 => place
  | count + 1 =>
    match place.next? with
    | some next => next.advance count
    | none => place

/-- The next match from a place on. An empty match directly at the end of the match before is
passed over, in favour of a match from the next character on. -/
def nextSlots? (program : Program) (place : Place) (lastEnd : Option Nat) : Option Slots :=
  match program.search? place with
  | none => none
  | some slots =>
    match slots.span? 0 with
    | none => none
    | some (first, last) =>
      if first = last && lastEnd == some last then
        -- The search goes on one character later, and there an empty match is a new one.
        match place.next? with
        | some next => program.search? next
        | none => none
      else some slots

/-- The matches in a text from a place on, one after the other. Each step costs one of `fuel`. -/
def matchesFrom (program : Program) (text : Text) (fuel : Nat) (place : Place)
    (lastEnd : Option Nat) : List Match :=
  match fuel with
  | 0 => []
  | fuel + 1 =>
    match nextSlots? program place lastEnd with
    | none => []
    | some slots =>
      let found : Match := ⟨text, slots⟩
      let last := found.span.2
      found :: matchesFrom program text fuel (place.advance (last - place.index)) (some last)

/-- All matches in a text. No two of them end at one position, so there is at most one more than
there are characters. -/
def allMatches (pattern : Pattern) (text : Text) : List Match :=
  matchesFrom pattern.program text (text.length + 2) (.start text) none

/-- A text from position `index` on, with each match replaced by what `value` makes of it. -/
def replaceMatches (value : Match → Text) (index : Nat) (rest : Text) : List Match → Text
  | [] => rest
  | found :: others =>
    let (first, last) := found.span
    rest.take (first - index) ++ value found ++
      replaceMatches value last (rest.drop (last - index)) others

/-- A text with each match replaced. -/
def replaceAll (pattern : Pattern) (text : Text) (value : Match → Text) : Text :=
  replaceMatches value 0 text (pattern.allMatches text)

end Pattern

end Docket
