import Docket.Shell.Usage

/-! Counting lines, words and bytes, and lines that repeat the one before. -/

namespace Docket.Shell.Counting

/-- What has been counted in a text. -/
structure Counts where
  lines : Nat := 0
  words : Nat := 0
  bytes : Nat := 0
  /-- The width of the widest line. -/
  width : Nat := 0

namespace Counts

/-- The number of words between blanks. -/
def wordsIn (text : Text) : Nat :=
  (text.foldl (fun (count, inside) char =>
    let blank := char = ' ' || '\t' ≤ char && char ≤ '\r'
    (if !blank && !inside then count + 1 else count, !blank)) (0, false)).1

/-- The width of the widest line; a tab reaches to the next multiple of eight. -/
def widthOf (text : Text) : Nat :=
  let (widest, last) := text.foldl
    (fun ((widest, width) : Nat × Nat) char =>
      if char = '\n' || char = '\r' || char = '\x0c' then (max widest width, 0)
      else if char = '\t' then (widest, width + 8 - width % 8)
      else if ' ' ≤ char && char ≤ '~' then (widest, width + 1)
      else (widest, width)) (0, 0)
  max widest last

/-- The counts of a text. -/
def ofText (text : Text) : Counts :=
  { lines := text.count '\n', words := wordsIn text, bytes := text.length
    width := widthOf text }

/-- The counts of two texts together. -/
def add (left right : Counts) : Counts :=
  { lines := left.lines + right.lines, words := left.words + right.words
    bytes := left.bytes + right.bytes, width := max left.width right.width }

end Counts

/-- The options of the program. -/
def usage : Usage where
  name := "wc"
  plain := "clLmw"
  valued := "Z"
  long := [("bytes", 'c'), ("chars", 'm'), ("lines", 'l'), ("max-line-length", 'L'),
    ("words", 'w'), ("total", 'Z')]

/-- The numbers that are asked for, in their order. -/
def chosen (given : Given) (counts : Counts) : List Nat :=
  let all := !(given.options.any fun (letter, _) => letter != 'Z')
  let shown (letter : Char) (isUsual : Bool) (number : Nat) : List Nat :=
    if given.has letter || all && isUsual then [number] else []
  shown 'l' true counts.lines ++ shown 'w' true counts.words ++ shown 'm' false counts.bytes ++
    shown 'c' true counts.bytes ++ shown 'L' false counts.width

/-- A line with numbers and a name. -/
def line (width : Nat) (numbers : List Nat) (name : Option Text) : Text :=
  let shown := numbers.map fun number =>
    let digits := Text.ofNat number
    List.replicate (width - digits.length) ' ' ++ digits
  Text.join [' '] shown ++ name.elim [] (' ' :: ·) ++ ['\n']

/-- The size of what a path leads to: none if it cannot be read, and nothing if that is no file. -/
def size? (path : Text) : Work (Option (Option Nat)) := do
  let state ← get
  if path = ['-'] then
    return some (match state.channels.get? State.inputDescriptor with
      | some (.buffer number) =>
        if state.fileBuffers.contains number then some (state.contents number).length else none
      | _ => none)
  if path = "/dev/null".toList then return some none
  match state.disk.find (Bytes.decode path) with
  | .error _ => return none
  | .ok (_, .folder) => return some none
  | .ok _ => return some ((state.fileBytes? path).map List.length)

/-- The width of numbers: that of all sizes together, and seven for what is no file. -/
def widthFor (paths : List Text) : Work Nat := do
  let known := (← paths.mapM size?).filterMap id
  let total := (known.filterMap id).foldl (· + ·) 0
  let least := if known.any (·.isNone) then 7 else 1
  return max least (Text.ofNat total).length

/-- Counts lines, words and bytes. -/
def program : Utility := usage.program fun given => do
  let paths := if given.operands.isEmpty then [['-']] else given.operands
  let width ← if paths.length = 1 && (chosen given {}).length = 1 then pure 1 else widthFor paths
  let mut status := 0
  let mut total : Counts := {}
  for path in paths do
    let name := if given.operands.isEmpty then none else some path
    match ← Filter.read path with
    | .ok text =>
      let counts := Counts.ofText text
      total := total.add counts
      State.print (line width (chosen given counts) name)
    | .error fault =>
      Filter.complain "wc" (path ++ ": ".toList ++ Filter.wording fault)
      if fault = .isFolder then State.print (line width (chosen given {}) name)
      status := 1
  if 1 < paths.length then
    State.print (line width (chosen given total) (some "total".toList))
  return status

end Docket.Shell.Counting

namespace Docket.Shell.Repetition

/-- The options of the program. -/
def usage : Usage where
  name := "uniq"
  plain := "cdDiuz"
  valued := "fsw"
  optional := "AG"
  long := [("count", 'c'), ("repeated", 'd'), ("all-repeated", 'A'), ("group", 'G'),
    ("ignore-case", 'i'), ("unique", 'u'), ("zero-terminated", 'z'), ("skip-fields", 'f'),
    ("skip-chars", 's'), ("check-chars", 'w')]

/-- Whether a character is blank. -/
def isBlank (char : Char) : Bool :=
  char == ' ' || char == '\t'

/-- A text behind so many fields, with the blanks in front of each. -/
def pastFields : Nat → Text → Text
  | 0, text => text
  | count + 1, text => pastFields count ((text.dropWhile isBlank).dropWhile (!isBlank ·))

/-- The part of a line that is compared. -/
def comparedPart (given : Given) (line : Text) : Text :=
  let number (letter : Char) : Nat := ((given.value? letter).bind Text.natural?).getD 0
  let rest := (pastFields (number 'f') line).drop (number 's')
  let part := match (given.value? 'w').bind Text.natural? with
    | some count => rest.take count
    | none => rest
  if given.has 'i' then part.map Char.toLower else part

/-- Lines in groups of equal ones. -/
def groups (same : Text → Text → Bool) : List Text → List (List Text)
  | [] => []
  | line :: rest =>
    match groups same rest with
    | (next :: others) :: later =>
      if same line next then (line :: next :: others) :: later
      else [line] :: (next :: others) :: later
    | later => [line] :: later

/-- The lines of a group with all its lines. -/
def allOf (given : Given) (mark : Char) (found : List (List Text)) : List Text :=
  let method := (given.value? 'A').getD "none".toList
  let blocks := (found.filter fun group => 1 < group.length).map fun group =>
    group.flatMap (· ++ [mark])
  if method = "prepend".toList then blocks.map ([mark] ++ ·)
  else if method = "separate".toList then blocks.intersperse [mark]
  else blocks

/-- The lines of all groups, with gaps between or around them. -/
def grouped (given : Given) (mark : Char) (found : List (List Text)) : List Text :=
  let method := String.ofList ((given.value? 'G').getD [])
  let blocks := found.map fun group => group.flatMap (· ++ [mark])
  match method with
  | "prepend" => blocks.map ([mark] ++ ·)
  | "append" => blocks.map (· ++ [mark])
  | "both" => if blocks.isEmpty then [] else [mark] :: blocks.map (· ++ [mark])
  | _ => blocks.intersperse [mark]

/-- What is shown of the lines of a text. -/
def shown (given : Given) (text : Text) : Text :=
  let mark := if given.has 'z' then '\x00' else '\n'
  let same (left right : Text) : Bool := comparedPart given left == comparedPart given right
  let found := groups same (Filter.linesAt mark text)
  if given.has 'D' || given.has 'A' then (allOf given mark found).flatten
  else if given.has 'G' then (grouped given mark found).flatten
  else
    let wanted := found.filter fun group =>
      (!given.has 'd' || 1 < group.length) && (!given.has 'u' || group.length = 1)
    wanted.flatMap fun group =>
      let number := Text.ofNat group.length
      let count := if given.has 'c' then List.replicate (7 - number.length) ' ' ++ number ++ [' ']
        else []
      count ++ group.headD [] ++ [mark]

/-- What is wrong with the numbers that were given. -/
def numberFault? (given : Given) : Option Text :=
  (given.options.find? fun (letter, value) =>
    "fsw".toList.elem letter && (Text.natural? value).isNone).map fun (letter, value) =>
      let what := match letter with
        | 'f' => "fields to skip"
        | 's' => "bytes to skip"
        | _ => "bytes to compare"
      value ++ (": invalid number of " ++ what).toList

/-- Words in which a number of fields alone is spelled as an option. -/
def spelled (words : List Text) : List Text :=
  words.map fun word => match word with
    | '-' :: digit :: digits =>
      if (digit :: digits).all Char.isDigit then '-' :: 'f' :: digit :: digits else word
    | _ => word

/-- Prints lines that differ from the one before. -/
def program : Utility := fun words => (usage.program fun given => do
  match numberFault? given, given.operands with
  | some message, _ =>
    Filter.complain "uniq" message
    return 1
  | none, _ :: _ :: extra :: _ => usage.refuse ("extra operand '".toList ++ extra ++ ['\''])
  | none, operands =>
    if (given.has 'D' || given.has 'A') && given.has 'c' then
      return ← usage.refuse
        "printing all duplicated lines and repeat counts is meaningless".toList
    let path := operands.headD ['-']
    match ← Filter.read path with
    | .error .isFolder =>
      Filter.complain "uniq" ("error reading '".toList ++ path ++ "': Is a directory".toList)
      return 1
    | .error fault =>
      Filter.complain "uniq" (path ++ ": ".toList ++ Filter.wording fault)
      return 1
    | .ok text =>
      match operands[1]? with
      | none =>
        State.print (shown given text)
        return 0
      | some target =>
        let state ← get
        match state.disk.openEmpty (Bytes.decode target) with
        | .ok (location, disk) =>
          set { state with disk := State.appendTo disk location (shown given text) }
          return 0
        | .error fault =>
          Filter.complain "uniq" (target ++ ": ".toList ++ Filter.wording fault)
          return 1) (spelled words)

end Docket.Shell.Repetition
