import Docket.Shell.Sorting.Basic
import Docket.Shell.Usage

/-! Sorting the lines of files. -/

namespace Docket.Shell.Sorting

/-- The letters that tell how parts of lines are compared. -/
def letters : List Char :=
  "bdfghiMnRrV".toList

namespace Manner

/-- The kind of a letter. -/
def kind? : Char → Option Kind
  | 'g' => some .general
  | 'h' => some .human
  | 'M' => some .month
  | 'n' => some .number
  | 'V' => some .version
  | _ => none

/-- The manner of letters; a blank letter counts for the start or for the end of a part. -/
def ofLetters (front back : Text) : Manner :=
  let all := front ++ back
  { kind := (all.findSome? kind?).getD .text
    reverse := List.elem 'r' all
    anyCase := List.elem 'f' all
    dictionary := List.elem 'd' all
    visible := List.elem 'i' all && !List.elem 'd' all
    skipsBlanks := List.elem 'b' front
    skipsBlanksAtStop := List.elem 'b' back }

/-- Whether lines are compared as they are, but for the direction. -/
def isPlain (manner : Manner) : Bool :=
  { manner with reverse := false } = ({} : Manner)

end Manner

/-- Letters that exclude each other, in the order in which a message names them. -/
def clash? (all : Text) : Option Text :=
  let has := all.elem
  let count := ("nghM".toList.filter has).length +
    if has 'V' || has 'R' || has 'd' || has 'i' then 1 else 0
  if 1 < count then some ("dfghiMnRV".toList.filter has) else none

namespace Key

/-- A number in a key, and what follows it. -/
def count? (text : Text) (message : String) : Except Text (Nat × Text) :=
  let digits := text.takeWhile Char.isDigit
  match Text.natural? digits with
  | some count => .ok (count, text.drop digits.length)
  | none => .error (message.toList ++ ": invalid count at start of '".toList ++ text ++ ['\''])

/-- Reads a key, with the letters of both of its ends. -/
def read? (text : Text) : Except Text (Key × Text × Text) := do
  let wrong {α : Type} (message : String) : Except Text α :=
    .error (message.toList ++ ": invalid field specification '".toList ++ text ++ ['\''])
  let (field, rest) ← count? text "invalid number at field start"
  if field = 0 then wrong "field number is zero"
  let (char, rest) ← match rest with
    | '.' :: rest => do
      let (char, rest) ← count? rest "invalid number after '.'"
      if char = 0 then wrong "character offset is zero" else pure (char, rest)
    | rest => pure (1, rest)
  let front := rest.takeWhile letters.elem
  match rest.drop front.length with
  | [] => return ({ field := field - 1, char := char - 1 }, front, [])
  | ',' :: rest =>
    let (last, rest) ← count? rest "invalid number after ','"
    if last = 0 then wrong "field number is zero"
    let (stop, rest) ← match rest with
      | '.' :: rest => count? rest "invalid number after '.'"
      | rest => pure (0, rest)
    let back := rest.takeWhile letters.elem
    if back.length != rest.length then wrong "stray character in field spec"
    return ({ field := field - 1, char := char - 1, stop := some (last - 1, stop) }, front, back)
  | _ => wrong "stray character in field spec"

end Key

/-- How lines are ordered. -/
structure Order where
  mark : Option Char := none
  keys : List Key := []
  reverse : Bool := false
  /-- Whether only the keys count. -/
  keysOnly : Bool := false

namespace Order

/-- The order of two lines, each with the parts that its keys stand for. -/
def compare (order : Order) (left right : Text × List Text) : Ordering :=
  let byKeys := (order.keys.zip (left.2.zip right.2)).foldl
    (fun found (key, low, high) => found.then (key.manner.order low high)) .eq
  if byKeys != .eq || order.keysOnly && !order.keys.isEmpty then byKeys
  else if order.reverse then compareTexts right.1 left.1 else compareTexts left.1 right.1

/-- A line with the parts that the keys stand for. -/
def marked (order : Order) (line : Text) : Text × List Text :=
  (line, order.keys.map (·.partOf order.mark line))

/-- Lines in order. -/
def sorted (order : Order) (lines : List Text) : List Text :=
  ((lines.map order.marked).mergeSort fun left right => order.compare left right != .gt).map
    Prod.fst

/-- Ordered lines of several files together. -/
def merged (order : Order) (files : List (List Text)) : List Text :=
  (files.foldl (fun all lines => all.merge (lines.map order.marked)
    fun left right => order.compare left right != .gt) []).map Prod.fst

/-- Lines without those that are equal to the one before. -/
def distinct (order : Order) : List Text → List Text
  | first :: second :: rest =>
    if order.compare (order.marked first) (order.marked second) = .eq then
      order.distinct (first :: rest)
    else first :: order.distinct (second :: rest)
  | lines => lines
termination_by lines => lines.length

/-- The number of the first line that is out of order, and that line. -/
def disorder? (order : Order) (strict : Bool) (number : Nat) : List Text → Option (Nat × Text)
  | first :: second :: rest =>
    let found := order.compare (order.marked first) (order.marked second)
    if found = .gt || strict && found = .eq then some (number + 1, second)
    else order.disorder? strict (number + 1) (second :: rest)
  | _ => none

end Order

/-- The options of the program. -/
def usage : Usage where
  name := "sort"
  plain := "bcCdfghiMmnRrsuVz"
  valued := "koStT"
  status := 2
  long := [("ignore-leading-blanks", 'b'), ("check", 'c'), ("dictionary-order", 'd'),
    ("ignore-case", 'f'), ("general-numeric-sort", 'g'), ("human-numeric-sort", 'h'),
    ("ignore-nonprinting", 'i'), ("key", 'k'), ("merge", 'm'), ("month-sort", 'M'),
    ("numeric-sort", 'n'), ("output", 'o'), ("random-sort", 'R'), ("reverse", 'r'),
    ("stable", 's'), ("buffer-size", 'S'), ("field-separator", 't'),
    ("temporary-directory", 'T'), ("unique", 'u'), ("version-sort", 'V'),
    ("zero-terminated", 'z')]

/-- The mark between fields that a text stands for. -/
def markOf? (text : Text) : Except Text Char :=
  match text with
  | [] => .error "empty tab".toList
  | [mark] => .ok mark
  | ['\\', '0'] => .ok '\x00'
  | text => .error ("multi-character tab '".toList ++ text ++ ['\''])

/-- The order that was asked for. -/
def orderOf? (given : Given) : Except Text Order := do
  let mark ← match given.value? 't' with
    | some text => some <$> markOf? text
    | none => pure none
  let all := (given.options.map Prod.fst).filter letters.elem
  let general := Manner.ofLetters all (all.filter (· == 'b'))
  let read ← (given.values 'k').mapM Key.read?
  let keys := read.map fun (key, front, back) =>
    let own := Manner.ofLetters front back
    { key with manner := if own.isPlain && !own.reverse then general else own }
  let whole : List Key := if general.isPlain then [] else [{ manner := general }]
  match (all :: read.map fun (_, front, back) => front ++ back).findSome? clash? with
  | some clash => throw ("options '-".toList ++ clash ++ "' are incompatible".toList)
  | none =>
    return {
      mark, keys := if keys.isEmpty then whole else keys, reverse := general.reverse
      keysOnly := given.has 's' || given.has 'u' }

/-- Complains in a way that ends the program. -/
def refuse (message : Text) : Work Nat := do
  Filter.complain "sort" message
  return 2

/-- Writes to a file, or where output goes. -/
def write (path : Option Text) (text : Text) : Work Nat := do
  match path with
  | none =>
    State.print text
    return 0
  | some path =>
    let state ← get
    match state.disk.openEmpty (Bytes.decode path) with
    | .ok (location, disk) =>
      set { state with disk := State.appendTo disk location text }
      return 0
    | .error fault =>
      refuse ("open failed: ".toList ++ path ++ ": ".toList ++ Filter.wording fault)

/-- Tells whether the lines of a file are in order. -/
def check (given : Given) (order : Order) (path : Text) (lines : List Text) : Work Nat := do
  match order.disorder? (given.has 'u') 1 lines with
  | none => return 0
  | some (number, line) =>
    unless given.has 'C' do
      Filter.complain "sort"
        (path ++ ':' :: Text.ofNat number ++ ": disorder: ".toList ++ line)
    return 1

/-- Prints the lines of all files in order. -/
def program : Utility := usage.program fun given => do
  match orderOf? given with
  | .error message => refuse message
  | .ok order =>
    let paths := if given.operands.isEmpty then [['-']] else given.operands
    let checks := given.has 'c' || given.has 'C'
    if let some extra := paths[1]? then
      if checks then
        return ← refuse ("extra operand '".toList ++ extra ++ "' not allowed with -".toList ++
          [if given.has 'c' then 'c' else 'C'])
    let mark := if given.has 'z' then '\x00' else '\n'
    let mut files := []
    for path in paths do
      match ← Filter.read path with
      | .ok text => files := files ++ [Filter.linesAt mark text]
      | .error fault =>
        let lead := if fault = .isFolder then "read failed: " else "cannot read: "
        return ← refuse (lead.toList ++ path ++ ": ".toList ++ Filter.wording fault)
    if checks then check given order (paths.headD []) files.flatten
    else
      let ordered := if given.has 'm' then order.merged files else order.sorted files.flatten
      let found := if given.has 'u' then order.distinct ordered else ordered
      write (given.value? 'o') (found.flatMap (· ++ [mark]))

end Docket.Shell.Sorting
