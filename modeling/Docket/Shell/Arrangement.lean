import Docket.Shell.Printing
import Docket.Shell.Usage

/-! Lines arranged anew: backwards, side by side, or narrower. -/

namespace Docket.Shell.Arrangement

/-- A text backwards by the parts that a mark ends. -/
def backwards (mark : Text) (before : Bool) (text : Text) : Text :=
  let rec cut (fuel : Nat) (taken : Text) (text : Text) : List Text :=
    match fuel, text with
    | fuel + 1, char :: rest =>
      if Text.startsWith text mark then
        if before then taken.reverse :: cut fuel mark.reverse (text.drop mark.length)
        else (taken.reverse ++ mark) :: cut fuel [] (text.drop mark.length)
      else cut fuel (char :: taken) rest
    | _, _ => [taken.reverse]
  (cut (text.length + 1) [] text).reverse.flatten

/-- Prints the lines of each file, last ones first. -/
def tac : Utility :=
  let usage : Usage :=
    { name := "tac", plain := "br", valued := "s"
      long := [("before", 'b'), ("regex", 'r'), ("separator", 's')] }
  usage.program fun given => do
    let mut status := 0
    for path in if given.operands.isEmpty then [['-']] else given.operands do
      match ← Filter.read path with
      | .ok text =>
        State.print (backwards ((given.value? 's').getD ['\n']) (given.has 'b') text)
      | .error .isFolder =>
        Filter.complain "tac" (path ++ ": read error: Invalid argument".toList)
        status := 1
      | .error fault =>
        Filter.complain "tac"
          ("failed to open '".toList ++ path ++ "' for reading: ".toList ++ Filter.wording fault)
        status := 1
    return status

/-- Prints lines backwards. -/
def rev : Utility :=
  let usage : Usage := { name := "rev" }
  usage.program fun given => do
    let mut status := 0
    for path in if given.operands.isEmpty then [['-']] else given.operands do
      match ← Filter.read path with
      | .ok text =>
        State.print (Text.join ['\n'] ((Filter.cutAt '\n' text).map List.reverse))
      | .error fault =>
        Filter.complain "rev"
          ("cannot open ".toList ++ path ++ ": ".toList ++ Filter.wording fault)
        status := 1
    return status

namespace Paste

/-- The marks between columns; nothing stands for a mark that is left out. -/
def marks (fuel : Nat) (text : Text) : List Text :=
  match fuel, text with
  | fuel + 1, '\\' :: '0' :: rest => [] :: marks fuel rest
  | fuel + 1, '\\' :: letter :: rest =>
    [(Printing.letters.lookup letter).getD letter] :: marks fuel rest
  | fuel + 1, char :: rest => [char] :: marks fuel rest
  | _, _ => []

/-- Pieces with marks between them, which are used in turn. -/
def joined (marks : List Text) (pieces : List Text) : Text :=
  match pieces with
  | [] => []
  | first :: rest =>
    first ++ (rest.zipIdx.flatMap fun (piece, index) =>
      (marks[index % marks.length]?).getD [] ++ piece)

/-- The columns of paths; paths that lead to the input take its lines in turn. -/
def columns (inputs : Nat) (input : List Text) (count : Nat) :
    List (Text × List Text) → List (List Text)
  | [] => []
  | (path, lines) :: rest =>
    if path = ['-'] then
      let own := (input.zipIdx.filter fun (_, index) => index % inputs = count).map Prod.fst
      own :: columns inputs input (count + 1) rest
    else lines :: columns inputs input count rest

end Paste

/-- Prints the lines of files side by side, or those of each file on one line. -/
def paste : Utility :=
  let usage : Usage :=
    { name := "paste", plain := "sz", valued := "d"
      long := [("delimiters", 'd'), ("serial", 's'), ("zero-terminated", 'z')] }
  usage.program fun given => do
    let paths := if given.operands.isEmpty then [['-']] else given.operands
    let mark := if given.has 'z' then '\x00' else '\n'
    let list := (given.value? 'd').getD ['\t']
    let found := Paste.marks (list.length + 1) list
    let marks := if found.isEmpty then [[]] else found
    let mut files := []
    let mut input := []
    let mut status := 0
    for path in paths do
      match ← Filter.read path with
      | .ok text =>
        if path = ['-'] then
          if input.isEmpty then input := Filter.linesAt mark text
          files := files ++ [(path, Filter.linesAt mark text)]
        else files := files ++ [(path, Filter.linesAt mark text)]
      | .error fault =>
        Filter.complain "paste" (path ++ ": ".toList ++ Filter.wording fault)
        unless given.has 's' do return 1
        status := 1
    if given.has 's' then
      State.print (files.flatMap fun (_, lines) => Paste.joined marks lines ++ [mark])
    else
      let inputs := paths.count ['-']
      let columns := Paste.columns inputs input 0 files
      let height := (columns.map List.length).foldl max 0
      State.print ((List.range height).flatMap fun row =>
        Paste.joined marks (columns.map fun lines => (lines[row]?).getD []) ++ [mark])
    return status

/-- The column behind a character. -/
def columnAfter (bytes : Bool) (column : Nat) (char : Char) : Nat :=
  if bytes then column + 1
  else match char with
    | '\x08' => column - 1
    | '\r' => 0
    | '\t' => column + 8 - column % 8
    | _ => column + 1

/-- A line cut into pieces of a width. `taken` is the current piece, last character first, and each
step costs one of `fuel`. -/
def folded (bytes spaces : Bool) (width fuel column : Nat) (taken : Text) (text : Text) :
    List Text :=
  match fuel, text with
  | fuel + 1, char :: rest =>
    if char = '\n' then taken.reverse :: folded bytes spaces width fuel 0 [] rest
    else
      let next := columnAfter bytes column char
      if next ≤ width || taken.isEmpty then
        folded bytes spaces width fuel next (char :: taken) rest
      else
        let isBlank (char : Char) : Bool := char == ' ' || char == '\t'
        let behind := taken.takeWhile (!isBlank ·)
        if spaces && behind.length < taken.length then
          let column := behind.reverse.foldl (columnAfter bytes) 0
          (taken.drop behind.length).reverse ::
            folded bytes spaces width fuel column behind (char :: rest)
        else taken.reverse :: folded bytes spaces width fuel 0 [] (char :: rest)
  | _, _ => [taken.reverse]

/-- Prints lines in pieces of a width. -/
def fold : Utility := fun words =>
  let spelled := words.map fun word => match word with
    | '-' :: digit :: digits =>
      if digit.isDigit then '-' :: 'w' :: digit :: digits else word
    | _ => word
  let usage : Usage :=
    { name := "fold", plain := "bs", valued := "w"
      long := [("bytes", 'b'), ("spaces", 's'), ("width", 'w')] }
  (usage.program fun given => do
    let wanted := (given.value? 'w').getD "80".toList
    match Text.natural? wanted with
    | some (width + 1) =>
      Filter.overFiles "fold" given.operands fun _ text =>
        State.print (Text.join ['\n'] (folded (given.has 'b') (given.has 's') (width + 1)
          (3 * text.length + 1) 0 [] text))
    | found =>
      let reason := if found = some 0 then ": Numerical result out of range" else ""
      Filter.complain "fold"
        ("invalid number of columns: '".toList ++ wanted ++ '\'' :: reason.toList)
      return 1) spelled

end Docket.Shell.Arrangement
