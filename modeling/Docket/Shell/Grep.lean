import Docket.Pattern.Basic
import Docket.Shell.Glob
import Docket.Shell.Regex.Reader
import Docket.Shell.Usage

/-! Printing the lines that match patterns. -/

namespace Docket.Shell.Grep

/-- The usage of the program. Greek letters stand for options that only have long names. -/
def usage : Usage :=
  { name := "grep", plain := "0123456789EFGPivwxclLoqsnbHhrRaIzZuTUyβνωη"
    valued := "efmABCXdDιξδλγσ"
    long := [
      ("basic-regexp", 'G'), ("extended-regexp", 'E'), ("fixed-regexp", 'F'),
      ("fixed-strings", 'F'), ("perl-regexp", 'P'), ("after-context", 'A'),
      ("before-context", 'B'), ("binary-files", 'γ'), ("line-buffered", 'β'),
      ("byte-offset", 'b'), ("context", 'C'), ("color", 'κ'), ("colour", 'κ'), ("count", 'c'),
      ("devices", 'D'), ("directories", 'd'), ("exclude", 'ξ'), ("exclude-from", 'X'),
      ("exclude-dir", 'δ'), ("file", 'f'), ("files-with-matches", 'l'),
      ("files-without-match", 'L'), ("group-separator", 'σ'), ("help", 'η'), ("include", 'ι'),
      ("ignore-case", 'i'), ("no-ignore-case", 'ω'), ("initial-tab", 'T'), ("label", 'λ'),
      ("line-number", 'n'), ("line-regexp", 'x'), ("max-count", 'm'), ("no-filename", 'h'),
      ("no-group-separator", 'ν'), ("no-messages", 's'), ("null", 'Z'), ("null-data", 'z'),
      ("only-matching", 'o'), ("quiet", 'q'), ("recursive", 'r'), ("dereference-recursive", 'R'),
      ("regexp", 'e'), ("invert-match", 'v'), ("silent", 'q'), ("text", 'a'),
      ("with-filename", 'H'), ("word-regexp", 'w')]
    optional := "κ"
    status := 2
    notice := "Usage: grep [OPTION]... PATTERNS [FILE]...\n" ++
      "Try 'grep --help' for more information." }

/-- What finds matches in a line: for each its start and its text. -/
abbrev Finder := Text → List (Nat × Text)

/-- An expression that must match between other characters than those of words, or a whole
line. -/
def framed (given : Given) (regex : Regex) : Regex :=
  if given.has 'x' then
    .sequence (.check .textStart) (.sequence regex (.check .textEnd))
  else if given.has 'w' then
    .sequence (.check .wordFree) (.sequence regex (.check .freeOfWord))
  else regex

/-- What finds the matches of patterns. -/
def finder? (given : Given) (patterns : List Text) : Except Text Finder :=
  let anyCase := (given.has 'i' || given.has 'y') && !given.has 'ω'
  if given.has 'P' then
    let source := Text.join ['|'] patterns
    match Pattern.read? (if anyCase then "(?i)".toList ++ source else source) with
    | some pattern => .ok fun line =>
        (pattern.allMatches line).map fun found =>
          (found.span.1, (line.drop found.span.1).take (found.span.2 - found.span.1))
    | none => .error "unrecognized character after (? or (?-".toList
  else
    let read (text : Text) : Except Text Regex :=
      if given.has 'F' then .ok (.literal anyCase text)
      else
        let dialect := { extended := given.has 'E', anyCase, lenient := true, wary := true }
        (Regex.read? dialect text).mapError fun fault => fault.message.toList
    match patterns.mapM read with
    | .error message => .error message
    | .ok [] => .ok fun _ => []
    | .ok (first :: others) =>
      let regex := framed given (others.foldl .choice first)
      .ok fun line => (regex.allMatches { anyCase } line).map fun found => (found.start, found.text)

/-- The first of a line of finders' answers counts: whether a line has a match. -/
def selects (given : Given) (finder : Finder) (line : Text) : Bool :=
  !(finder line).isEmpty != given.has 'v'

/-- A line of a file: its number, where it starts, and its text. -/
structure Line where
  number : Nat
  start : Nat
  text : Text

/-- The lines of a text, from a number and a position on. -/
def numbered (number start : Nat) : List Text → List Line
  | [] => []
  | text :: rest => ⟨number, start, text⟩ :: numbered (number + 1) (start + text.length + 1) rest

/-- The name of a file in front of what is printed, and the mark behind it. -/
def nameMark (given : Given) (name : Option Text) (mark : Char) : Text :=
  match name with
  | some name => name ++ [if given.has 'Z' then '\x00' else mark]
  | none => []

/-- What stands in front of a printed line. -/
def heading (given : Given) (name : Option Text) (line : Line) (start : Nat) (mark : Char) :
    Text :=
  let name := nameMark given name mark
  let number := if given.has 'n' then Text.ofNat line.number ++ [mark] else []
  let offset := if given.has 'b' then Text.ofNat (line.start + start) ++ [mark] else []
  let lead := name ++ number ++ offset
  if given.has 'T' && !lead.isEmpty then lead ++ ['\t'] else lead

/-- What is printed for a line that was selected. -/
def printed (given : Given) (finder : Finder) (name : Option Text) (line : Line) : Text :=
  if given.has 'o' then
    if given.has 'v' then []
    else (finder line.text).flatMap fun (start, text) =>
      if text.isEmpty then []
      else heading given name line start ':' ++ text ++ ['\n']
  else heading given name line 0 ':' ++ line.text ++ ['\n']

/-- How many lines of context are wanted. -/
def context? (given : Given) (letter : Char) : Option Nat :=
  let digits := (given.options.map Prod.fst).filter Char.isDigit
  (((given.value? letter).or (given.value? 'C')).or
    (if digits.isEmpty then none else some digits)).bind Text.natural?

/-- The number of lines of context. -/
def context (given : Given) (letter : Char) : Nat :=
  (context? given letter).getD 0

/-- Whether lines that are apart are separated. -/
def isRuled (given : Given) : Bool :=
  ((context? given 'A').isSome || (context? given 'B').isSome) && !given.has 'ν' && !given.has 'o'

/-- What separates lines that are apart. -/
def rule (given : Given) : Text :=
  (given.value? 'σ').getD "--".toList ++ ['\n']

/-- The lines to be printed with the lines around them, marked as selected or not. -/
def withContext (given : Given) (selected : Line → Bool) (lines : List Line) :
    List (Line × Bool) :=
  let chosen := lines.map fun line => (line, selected line)
  let behind := context given 'A'
  let before := context given 'B'
  let numbers := chosen.filterMap fun (line, found) => if found then some line.number else none
  if behind = 0 && before = 0 then chosen.filter Prod.snd
  else chosen.filter fun (line, _) => numbers.any fun number =>
    number ≤ line.number + before && line.number ≤ number + behind

/-- Prints lines with those around them; a rule separates lines that are apart. -/
def shownLines (given : Given) (finder : Finder) (name : Option Text) (last : Option Nat) :
    List (Line × Bool) → Text
  | [] => []
  | (line, found) :: rest =>
    let rule := if isRuled given && last.any (· + 1 < line.number) then rule given else []
    let text := if found then printed given finder name line
      else if given.has 'o' then []
      else heading given name line 0 '-' ++ line.text ++ ['\n']
    rule ++ text ++ shownLines given finder name (some line.number) rest

/-- What has been found in the files so far. -/
structure Tally where
  found : Bool := false
  failed : Bool := false
  /-- Whether lines around others have been printed. -/
  printed : Bool := false

/-- The first lines that are selected, as many as are wanted; without a bound, all of them. -/
def firstSelected (finder : Finder) (given : Given) (bound : Option Nat) :
    List Line → List Nat
  | [] => []
  | line :: rest =>
    if bound = some 0 then []
    else if selects given finder line.text then
      line.number :: firstSelected finder given (bound.map (· - 1)) rest
    else firstSelected finder given bound rest

/-- Searches one text. -/
def search (given : Given) (finder : Finder) (name : Text) (named : Bool) (text : Text)
    (tally : Tally) : Work Tally := do
  let mark := if given.has 'z' then '\x00' else '\n'
  let lines := numbered 1 0 (Filter.linesAt mark text)
  let bound := (given.value? 'm').bind Text.natural?
  let numbers := firstSelected finder given bound lines
  let label := if name = ['-'] then (given.value? 'λ').getD "(standard input)".toList else name
  let shownName := if named then some label else none
  let found := !numbers.isEmpty
  let tally := { tally with found := tally.found || found }
  if given.has 'q' then return tally
  else if given.has 'l' || given.has 'L' then
    if found != given.has 'L' then
      State.print (label ++ [if given.has 'Z' then '\x00' else '\n'])
    return tally
  else if given.has 'c' then
    State.print (nameMark given shownName ':' ++ Text.ofNat numbers.length ++ ['\n'])
    return tally
  else if found && List.elem '\x00' text && !given.has 'a' && !given.has 'z' then
    Filter.complain "grep" (label ++ ": binary file matches".toList)
    return tally
  else
    let behind := context given 'A'
    -- With a bound, nothing is read behind the context of the last line.
    let reach := match bound, numbers.getLast? with
      | some count, some last =>
        if numbers.length = count then lines.filter (·.number ≤ last + behind) else lines
      | _, _ => lines
    let chosen := withContext given (fun line => numbers.contains line.number) reach
    let text := shownLines given finder shownName none chosen
    if !text.isEmpty then
      if isRuled given && tally.printed then State.print (rule given)
      State.print (if given.has 'z' then text.map fun char =>
        if char = '\n' then '\x00' else char else text)
    return { tally with printed := tally.printed || !text.isEmpty }

/-- The files below a path, in order. Each level costs one of `fuel`. -/
def filesBelow (disk : Disk) (fuel : Nat) (path : Text) : List Text :=
  match fuel with
  | 0 => []
  | fuel + 1 =>
    if disk.isFolder (Bytes.decode (if path.isEmpty then ['.'] else path)) then
      (Glob.namesIn disk path).flatMap fun name =>
        filesBelow disk fuel (if path.isEmpty then name
          else if path.getLast? = some '/' then path ++ name else path ++ '/' :: name)
    else [path]

/-- Whether the name of a file is wanted. -/
def isWanted (given : Given) (path : Text) : Bool :=
  let fits (pattern name : Text) : Bool := Glob.fits (Glob.ofSigns (Glob.signs pattern)) name
  let names := Filter.cutAt '/' path
  let name := names.getLast?.getD []
  let included := given.values 'ι'
  (included.isEmpty || included.any (fits · name)) && !(given.values 'ξ').any (fits · name) &&
    !(names.dropLast.any fun folder => (given.values 'δ').any (fits · folder))

/-- The patterns and the files that were given. -/
def patterns (given : Given) : Work (Except Text (List Text × List Text)) := do
  let state ← get
  let mut found := (given.values 'e').flatMap (Filter.cutAt '\n')
  for file in given.values 'f' do
    match ← if file = ['-'] then some <$> State.readAll State.inputDescriptor
      else pure (state.fileBytes? file) with
    | some text => found := found ++ Filter.lines text
    | none => return .error (file ++ ": No such file or directory".toList)
  if !(given.values 'e').isEmpty || !(given.values 'f').isEmpty then
    return .ok (found, given.operands)
  else match given.operands with
    | [] => return .error []
    | pattern :: files => return .ok (Filter.cutAt '\n' pattern, files)

/-- What is wrong with the numbers that were given. -/
def numberFault? (given : Given) : Option Text :=
  let lengths := "ABC".toList.flatMap given.values
  match lengths.find? fun value => (Text.natural? value).isNone with
  | some value => some (value ++ ": invalid context length argument".toList)
  | none =>
    if (given.values 'm').any fun value => (Text.natural? value).isNone then
      some "invalid max count".toList
    else none

/-- Prints the lines of its input or of files that match. -/
def run (given : Given) : Work Nat := do
  if let some message := numberFault? given then
    Filter.complain "grep" message
    return 2
  match ← patterns given with
  | .error [] =>
    State.complain usage.notice.toList
    return 2
  | .error message =>
    Filter.complain "grep" message
    return 2
  | .ok (patterns, files) =>
    match finder? given patterns with
    | .error message =>
      Filter.complain "grep" message
      return 2
    | .ok finder =>
      let state ← get
      let skipped := given.value? 'd' = some "skip".toList
      let recursive := given.has 'r' || given.has 'R' || given.value? 'd' = some "recurse".toList
      let files := if !files.isEmpty then files else if recursive then [[]] else [['-']]
      let expanded := if recursive then files.flatMap fun file =>
          if file = ['-'] then [file]
          else if file.isEmpty || state.disk.isFolder (Bytes.decode file) then
            (filesBelow state.disk 100 file).filter (isWanted given)
          else [file]
        else files
      let named := !given.has 'h' && (given.has 'H' || 1 < files.length || recursive)
      let mut tally : Tally := {}
      for file in expanded do
        match ← Filter.read file with
        | .ok text => tally ← search given finder file named text tally
        | .error fault =>
          unless skipped && fault = .isFolder do
            unless given.has 's' do
              Filter.complain "grep" (file ++ ": ".toList ++ Filter.wording fault)
            tally := { tally with failed := true }
      return if tally.failed && !(given.has 'q' && tally.found) then 2
        else if tally.found then 0 else 1

/-- The program. -/
def program : Utility := usage.program run

/-- The program with an option in front. -/
def programWith (option : String) : Utility := fun arguments =>
  program (option.toList :: arguments)

end Docket.Shell.Grep
