import Docket.Shell.Usage

/-! Parts of lines. -/

namespace Docket.Shell.Cutting

/-- The options of the program. -/
def usage : Usage where
  name := "cut"
  plain := "nszκ"
  valued := "bcfdω"
  long := [("bytes", 'b'), ("characters", 'c'), ("fields", 'f'), ("delimiter", 'd'),
    ("only-delimited", 's'), ("output-delimiter", 'ω'), ("complement", 'κ'),
    ("zero-terminated", 'z')]

/-- Positions from one to another; without an end, all that follow. -/
abbrev Range := Nat × Option Nat

/-- A position, counted from one on. -/
def position? (isField : Bool) (text : Text) : Except Text Nat :=
  match if text.isEmpty then some 0 else Text.natural? text with
  | some 0 =>
    .error (if isField then "fields are numbered from 1"
      else "byte/character positions are numbered from 1").toList
  | some position => .ok position
  | none =>
    let kind := if isField then "invalid field value '" else "invalid byte/character position '"
    let shown := text.dropWhile Char.isDigit
    .error (kind.toList ++ (if text.head?.any Char.isDigit then shown else text) ++ ['\''])

/-- The range that a piece of a list stands for. -/
def range? (isField : Bool) (piece : Text) : Except Text Range := do
  match Text.splitOnce? '-' piece with
  | none =>
    let position ← position? isField piece
    return (position, some position)
  | some ([], []) => throw "invalid range with no endpoint: -".toList
  | some (low, high) =>
    let low ← if low.isEmpty then pure 1 else position? isField low
    if high.isEmpty then return (low, none)
    let high ← position? isField high
    if high < low then throw "invalid decreasing range".toList
    return (low, some high)

/-- The ranges that a list stands for, in order and without overlaps. -/
def ranges? (isField : Bool) (list : Text) : Except Text (List Range) := do
  let pieces := Filter.cutAt ',' (list.map fun char => if char = ' ' then ',' else char)
  let found ← pieces.mapM (range? isField)
  let ordered := found.mergeSort fun left right => left.1 ≤ right.1
  let joined (ranges : List Range) (next : Range) : List Range :=
    match ranges with
    | (low, some high) :: rest =>
      if next.1 ≤ high then (low, next.2.map (max high)) :: rest else next :: ranges
    | (_, none) :: _ => ranges
    | [] => [next]
  return (ordered.foldl joined []).reverse

/-- The positions that are not in ranges. `first` is the first position in question. -/
def complement (first : Nat) : List Range → List Range
  | [] => [(first, none)]
  | (low, high) :: rest =>
    let before : List Range := if first < low then [(first, some (low - 1))] else []
    match high with
    | some high => before ++ complement (high + 1) rest
    | none => before

/-- The items in each of some ranges. -/
def pieces {α : Type} (ranges : List Range) (items : List α) : List (List α) :=
  (ranges.map fun (low, high) =>
    let rest := items.drop (low - 1)
    high.elim rest fun high => rest.take (high + 1 - low)).filter (!·.isEmpty)

/-- What is left of a line, if anything. -/
def part? (given : Given) (ranges : List Range) (line : Text) : Option Text :=
  let between := given.value? 'ω'
  if given.has 'f' then
    let mark := ((given.value? 'd').map fun text => text.headD '\x00').getD '\t'
    if !List.elem mark line then if given.has 's' then none else some line
    else
      let found := (pieces ranges (Filter.cutAt mark line)).flatten
      some (Text.join (between.getD [mark]) found)
  else some (Text.join (between.getD []) (pieces ranges line))

/-- What is wrong with the options, apart from the list. -/
def fault? (given : Given) : Option Text :=
  let lists := given.options.filter fun (letter, _) => "bcf".toList.elem letter
  if 1 < lists.length then some "only one list may be specified".toList
  else if ((given.value? 'd').any fun text => 1 < text.length) then
    some "the delimiter must be a single character".toList
  else if lists.isEmpty then
    some "you must specify a list of bytes, characters, or fields".toList
  else if given.has 'd' && !given.has 'f' then
    some "an input delimiter may be specified only when operating on fields".toList
  else if given.has 's' && !given.has 'f' then
    some ("suppressing non-delimited lines makes sense\n" ++
      "\tonly when operating on fields").toList
  else none

/-- Prints parts of lines. -/
def program : Utility := usage.program fun given => do
  match fault? given with
  | some message => usage.refuse message
  | none =>
    let isField := given.has 'f'
    let list := (((given.value? 'b').or (given.value? 'c')).or (given.value? 'f')).getD []
    match ranges? isField list with
    | .error message => usage.refuse message
    | .ok ranges =>
      let ranges := if given.has 'κ' then complement 1 ranges else ranges
      let mark := if given.has 'z' then '\x00' else '\n'
      let wholeText := isField && given.value? 'd' = some [mark]
      Filter.overFiles "cut" given.operands fun _ text => do
        let lines := Filter.linesAt mark text
        let lines := if wholeText && 1 < lines.length then [Text.join [mark] lines] else lines
        State.print ((lines.filterMap (part? given ranges)).flatMap (· ++ [mark]))

end Docket.Shell.Cutting
