import Docket.Shell.Usage

/-! Running a command with arguments that are read from the input. -/

namespace Docket.Shell.Xargs

/-- The usage of the program. -/
def usage : Usage :=
  { name := "xargs", plain := "0prtxo", valued := "adEILnPs", optional := "eil", strict := true
    long := [
      ("null", '0'), ("arg-file", 'a'), ("delimiter", 'd'), ("eof", 'e'), ("replace", 'i'),
      ("max-lines", 'l'), ("max-args", 'n'), ("open-tty", 'o'), ("interactive", 'p'),
      ("no-run-if-empty", 'r'), ("max-chars", 's'), ("verbose", 't'), ("exit", 'x'),
      ("max-procs", 'P')] }

/-- A quote that nothing closes. -/
inductive Fault where
  | single
  | double

/-- The items of a text between blanks, the numbers of their lines, and what is wrong. A line that
ends with a blank goes on in the next one. -/
structure Items where
  found : List (Text × Nat) := []
  fault : Option Fault := none

/-- Where reading stands: in which quotes, what has been read of an item, last character first, and
the number of the line. -/
structure Cursor where
  quote : Option Char := none
  item : Option Text := none
  line : Nat := 0
  /-- Whether the line goes on in the next one. -/
  goesOn : Bool := false

/-- Adds a character to the item in hand. -/
def Cursor.add (cursor : Cursor) (char : Char) : Cursor :=
  { cursor with item := some (char :: cursor.item.getD []), goesOn := false }

/-- The items of a text in which quotes and backslashes take the meaning from characters. -/
def items (cursor : Cursor) : Text → Items
  | [] =>
    match cursor.quote, cursor.item with
    | some '\'', _ => { fault := some .single }
    | some _, _ => { fault := some .double }
    | none, some item => { found := [(item.reverse, cursor.line)] }
    | none, none => {}
  | char :: rest =>
    let closed (next : Cursor) : Items :=
      match cursor.item with
      | some item =>
        let others := items { next with item := none } rest
        { others with found := (item.reverse, cursor.line) :: others.found }
      | none => items next rest
    match cursor.quote with
    | some quote =>
      if char = quote then items { cursor with quote := none } rest
      else if char = '\n' then { fault := some (if quote = '\'' then .single else .double) }
      else items (cursor.add char) rest
    | none =>
      if char = '\n' then
        let line := if cursor.goesOn then cursor.line else cursor.line + 1
        closed { cursor with line, goesOn := false }
      else if char = ' ' || char = '\t' then closed { cursor with goesOn := true }
      else if char = '\'' || char = '"' then
        items { cursor with quote := some char, item := some (cursor.item.getD []) } rest
      else if char = '\\' then
        match rest with
        | next :: rest => items (cursor.add next) rest
        | [] => items cursor []
      else items (cursor.add char) rest

/-- The items of a text that a mark separates. -/
def separated (mark : Char) (text : Text) : Items :=
  { found := (Filter.linesAt mark text).zipIdx }

/-- The character that a delimiter stands for. -/
def delimiter (word : Text) : Char :=
  match word with
  | '\\' :: rest => (Printing.escape rest).1
  | char :: _ => char
  | [] => '\x00'

/-- The lines of a text as items, of which blanks in front are no part. -/
def wholeLines (text : Text) : Items :=
  let trimmed := (Filter.lines text).map fun line =>
    line.dropWhile fun char => char == ' ' || char == '\t'
  let isPlain (line : Text) : Bool :=
    line.all fun char => char != '\'' && char != '"' && char != '\\'
  let unquoted (line : Text) : Items :=
    if isPlain line then { found := [(line, 0)] }
    else
      let marked := line.flatMap fun char =>
        if char = ' ' || char = '\t' then ['\\', char] else [char]
      items {} marked
  let all := (trimmed.filter (!·.isEmpty)).map unquoted
  { found := ((all.flatMap (·.found)).map Prod.fst).zipIdx
    fault := (all.find? (·.fault.isSome)).bind (·.fault) }

/-- How items are shared among runs. -/
structure Share where
  /-- The most items of a run. -/
  items : Option Nat := none
  /-- The most lines of a run. -/
  lines : Option Nat := none
  /-- The most characters of a run. -/
  chars : Nat := 131072

/-- The runs that items are shared among. `taken` are the items of the current run, the last one
first. -/
def Share.runs (share : Share) (used : Nat) (taken : List (Text × Nat)) :
    List (Text × Nat) → List (List Text)
  | [] => if taken.isEmpty then [] else [(taken.map Prod.fst).reverse]
  | (item, line) :: rest =>
    let first := (taken.getLast?.map Prod.snd).getD line
    let size := taken.foldl (fun size (item, _) => size + item.length + 1) used + item.length + 1
    let full := !taken.isEmpty &&
      (share.items.any (· ≤ taken.length) || share.lines.any (first + · ≤ line) ||
        share.chars < size)
    if full then (taken.map Prod.fst).reverse :: share.runs used [(item, line)] rest
    else share.runs used ((item, line) :: taken) rest

/-- A text in which one text stands for another. Each character costs one of `fuel`. -/
def replaced (fuel : Nat) (mark value text : Text) : Text :=
  match fuel, text with
  | fuel + 1, char :: rest =>
    if !mark.isEmpty && Text.startsWith text mark then
      value ++ replaced fuel mark value (text.drop mark.length)
    else char :: replaced fuel mark value rest
  | _, _ => []

/-- Runs commands up to one that ends everything; tells the worst status. -/
def runAll (launch : Launcher) (given : Given) (worst : Nat) : List (List Text) → Work Nat
  | [] => return worst
  | [] :: rest => runAll launch given worst rest
  | (program :: arguments) :: rest => do
    if given.has 't' then State.complain (Text.join [' '] (program :: arguments))
    let outer ← get
    State.connect State.inputDescriptor .nowhere
    let result ← launch program arguments
    modify fun state => { state with channels := outer.channels }
    match result with
    | .error fault =>
      Filter.complain "xargs" (program ++ ": ".toList ++ Filter.wording fault)
      return if fault = .missing then 127 else 126
    | .ok status =>
      if status = 255 then
        Filter.complain "xargs" (program ++ ": exited with status 255; aborting".toList)
        return 124
      else if 128 < status && status < 192 then
        Filter.complain "xargs"
          (program ++ ": terminated by signal ".toList ++ Text.ofNat (status - 128))
        return 125
      else if ← State.isHalted then return worst
      else runAll launch given (if status = 0 then worst else 123) rest

/-- The mark that items take the place of. -/
def mark? (given : Given) : Option Text :=
  match given.value? 'I', given.value? 'i' with
  | some mark, _ => some mark
  | none, some mark => some (if mark.isEmpty then "\x7b\x7d".toList else mark)
  | none, none => none

/-- The items of the input. -/
def itemsOf (given : Given) (text : Text) : Items :=
  if given.has '0' then separated '\x00' text
  else match given.value? 'd' with
    | some word => separated (delimiter word) text
    | none => if (mark? given).isSome then wholeLines text else items {} text

/-- The items before a word that ends them. -/
def beforeEnd (given : Given) (found : List (Text × Nat)) : List (Text × Nat) :=
  match (given.value? 'E').or (given.value? 'e') with
  | some word => if word.isEmpty then found else found.takeWhile (·.1 != word)
  | none => found

/-- The commands to run. -/
def commands (given : Given) (words : List Text) (found : List (Text × Nat)) :
    List (List Text) :=
  match mark? given with
  | some mark => found.map fun (item, _) =>
    words.map fun word => replaced (word.length + 1) mark item word
  | none =>
    let lines := ((given.value? 'L').or (given.value? 'l')).map fun word =>
      (Text.natural? word).getD 1
    let share : Share :=
      { items := (given.value? 'n').bind Text.natural?, lines
        chars := ((given.value? 's').bind Text.natural?).getD 131072 }
    let used := words.foldl (fun size word => size + word.length + 1) 0
    let runs := share.runs used [] found
    (if runs.isEmpty && !given.has 'r' then [[]] else runs).map (words ++ ·)

/-- What is wrong with the numbers that were given. -/
def numberFault? (given : Given) : Option Text :=
  let wrong := given.options.find? fun (letter, value) =>
    "nLsP".toList.elem letter && (Text.natural? value).isNone
  match wrong with
  | some (letter, value) =>
    some ("invalid number \"".toList ++ value ++ "\" for -".toList ++ letter :: " option".toList)
  | none =>
    (given.options.find? fun (letter, value) =>
      "nLs".toList.elem letter && Text.natural? value = some 0).map fun (letter, value) =>
        "value ".toList ++ value ++ " for -".toList ++ letter :: " option should be >= 1".toList

/-- Runs commands with items of the input. -/
def program (launch : Launcher) : Utility :=
  usage.program fun given => do
    if let some message := numberFault? given then
      Filter.complainWithHint "xargs" message
    else
      match ← Filter.read ((given.value? 'a').getD ['-']) with
      | .error fault =>
        Filter.complain "xargs" ("Cannot open input file '".toList ++
          (given.value? 'a').getD [] ++ "': ".toList ++ Filter.wording fault)
        return 1
      | .ok text =>
        let words := if given.operands.isEmpty then ["echo".toList] else given.operands
        let read := itemsOf given text
        let found := beforeEnd given read.found
        match read.fault with
        | none => runAll launch given 0 (commands given words found)
        | some fault =>
          let kind := match fault with
            | .single => "single"
            | .double => "double"
          let before := commands (given.withOption 'r' []) words found
          let _ ← runAll launch given 0 (if (mark? given).isSome then before else before.dropLast)
          Filter.complain "xargs" ("unmatched " ++ kind ++ " quote; by default quotes" ++
            " are special to xargs unless you use the -0 option").toList
          return 1

end Docket.Shell.Xargs
