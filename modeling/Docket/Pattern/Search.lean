import Docket.Pattern.Program
import Docket.Text.Basic
import Std.Data.HashSet

/-! Searching a text: every address is tried at most once at each position. -/

namespace Docket.Pattern

/-- A position in a text, with the character before it and the text after it. -/
structure Place where
  index : Nat
  before : Option Char
  rest : Text

namespace Place

/-- The start of a text. -/
def start (text : Text) : Place :=
  ⟨0, none, text⟩

/-- The place after the next character. -/
def next? (place : Place) : Option Place :=
  match place.rest with
  | [] => none
  | char :: rest => some ⟨place.index + 1, some char, rest⟩

end Place

/-- The positions that a match remembers, by slot: group `n` begins at slot `2 * n` and ends at
the one after it. -/
abbrev Slots := List (Nat × Nat)

/-- The positions between which a group matched. -/
def Slots.span? (slots : Slots) (group : Nat) : Option (Nat × Nat) :=
  match slots.lookup (2 * group), slots.lookup (2 * group + 1) with
  | some first, some last => some (first, last)
  | _, _ => none

/-- A way that is still to be tried. -/
structure Way where
  address : Nat
  place : Place
  slots : Slots

/-- The addresses that have been tried at positions. -/
abbrev Tried := Std.HashSet (Nat × Nat)

/-- Stores a position in a slot. -/
def Slots.put (slots : Slots) (slot position : Nat) : Slots :=
  (slot, position) :: slots.filter (·.1 != slot)

/-- The ways that an instruction opens. -/
def Instruction.ways (way : Way) : Instruction → List Way
  | take set next =>
    match way.place.rest with
    | char :: rest =>
      if set.has char then [⟨next, ⟨way.place.index + 1, some char, rest⟩, way.slots⟩] else []
    | [] => []
  | check assertion next =>
    if assertion.holds way.place.before way.place.rest.head? then
      [{ way with address := next }]
    else []
  | save slot next =>
    [{ way with address := next, slots := way.slots.put slot way.place.index }]
  | fork ways => ways.map fun address => { way with address }
  | accept => []

/-- Follows ways, the first ones first, until one is accepted. -/
def follow (code : Code) (fuel : Nat) (tried : Tried) : List Way → Option Slots × Tried
  | [] => (none, tried)
  | way :: others =>
    match fuel with
    | 0 => (none, tried)
    | fuel + 1 =>
      let (known, tried) := tried.containsThenInsert (way.address, way.place.index)
      -- Where the address was tried at this position it failed, and it would fail again.
      if known then follow code fuel tried others
      else match code[way.address]? with
        | none => follow code fuel tried others
        | some .accept => (some way.slots, tried)
        | some instruction => follow code fuel tried (instruction.ways way ++ others)

/-- How many ways an instruction opens at most. -/
def Instruction.fan : Instruction → Nat
  | fork ways => ways.length
  | accept => 0
  | _ => 1

/-- More ways than a program can open in a text: each address opens its ways once a position. -/
def wayBound (program : Program) (length : Nat) : Nat :=
  (program.code.foldl (fun total instruction => total + instruction.fan) 1) * (length + 1) + 1

/-- The first match at a place or after it. Ways that failed once fail from later starts too. -/
def searchFrom (program : Program) (bound : Nat) (tried : Tried) (index : Nat)
    (before : Option Char) (rest : Text) : Option Slots :=
  match follow program.code bound tried [⟨program.entry, ⟨index, before, rest⟩, []⟩] with
  | (some slots, _) => some slots
  -- The next start inherits what has failed, and so the whole search tries each pair once.
  | (none, tried) =>
    match rest with
    | [] => none
    | char :: rest => searchFrom program bound tried (index + 1) (some char) rest

/-- The first match of a program at a place or after it. -/
def Program.search? (program : Program) (place : Place) : Option Slots :=
  searchFrom program (wayBound program place.rest.length) {} place.index place.before place.rest

end Docket.Pattern
