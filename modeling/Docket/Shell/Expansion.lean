import Docket.Shell.Glob
import Docket.Shell.State
import Docket.Shell.Sum

/-! Expansion: the texts that words stand for. -/

namespace Docket.Shell

/-- A piece of an expanded word. -/
inductive Piece where
  | sign (char : Char) (quoted : Bool)
  /-- A character of a value, at which the word may be split. -/
  | loose (char : Char)
  /-- Quotes, which make a field even if there is nothing between them. -/
  | mark
  /-- The arguments, if there are none: quotes around them make no field. -/
  | vanish
  /-- The end of a field. -/
  | cut
deriving DecidableEq, Repr

/-- How the output of a script is found. -/
abbrev Runner := Text → Work Text

namespace Expansion

/-- The pieces of a value. -/
def ofValue (quoted : Bool) (value : Text) : List Piece :=
  if quoted then .mark :: value.map (Piece.sign · true) else value.map .loose

/-- The characters at which values are split. -/
def separators (state : State) : Text :=
  (state.valueOf? "IFS".toList).getD " \t\n".toList

/-- The arguments as one text. -/
def joined (state : State) : Text :=
  Text.join ((separators state).take 1) state.arguments

/-- The value of a parameter, if it is set. -/
def value? (state : State) (name : Text) : Option Text :=
  match name with
  | ['@'] | ['*'] => if state.arguments.isEmpty then none else some (joined state)
  | ['#'] => some (Text.ofNat state.arguments.length)
  | ['?'] => some (Text.ofNat state.status)
  | ['$'] => some (Text.ofNat State.processNumber)
  | ['!'] => (state.jobs.getLast?).map fun job => Text.ofNat job.number
  | ['-'] => some (if state.options.stopOnFailure then ['e'] else [])
  | ['0'] => some state.name
  | name =>
    match Text.natural? name with
    | some position => state.arguments[position - 1]?
    | none => state.valueOf? name

/-- The pieces of all arguments. -/
def ofArguments (quoted : Bool) (arguments : List Text) : List Piece :=
  if arguments.isEmpty then [.vanish]
  else ((arguments.map (ofValue quoted)).intersperse [.cut]).flatten

/-- The pieces of a parameter's value. -/
def ofParameter (state : State) (name : Text) (quoted : Bool) : List Piece :=
  if name = ['@'] || name = ['*'] && !quoted then ofArguments quoted state.arguments
  else ofValue quoted ((value? state name).getD [])

/-- A field as it grows, and the fields before it, the last one first. -/
structure Gathered where
  done : List (List Sign) := []
  current : List Sign := []
  started : Bool := false
  vanished : Bool := false
  /-- Whether only blanks have come since the last field. -/
  afterBlank : Bool := false

/-- Ends the current field, if there is one. -/
def Gathered.close (gathered : Gathered) : Gathered :=
  if gathered.started && !(gathered.vanished && gathered.current.isEmpty) then
    { done := gathered.current.reverse :: gathered.done }
  else { done := gathered.done }

/-- Adds a piece. -/
def Gathered.add (separators : Text) (gathered : Gathered) (piece : Piece) : Gathered :=
  let grown (char : Char) (quoted : Bool) : Gathered :=
    { gathered with
      current := (char, quoted) :: gathered.current, started := true, afterBlank := false }
  match piece with
  | .sign char quoted => grown char quoted
  | .mark => { gathered with started := true, afterBlank := false }
  | .vanish => { gathered with vanished := true }
  | .cut => gathered.close
  | .loose char =>
    if !List.elem char separators then grown char false
    else if " \t\n".toList.elem char then
      if gathered.started then { gathered.close with afterBlank := true } else gathered
    else if gathered.afterBlank then { gathered with afterBlank := false }
    else { gathered with started := true, vanished := false }.close

/-- The fields of pieces. -/
def fields (separators : Text) (pieces : List Piece) : List (List Sign) :=
  (pieces.foldl (Gathered.add separators) {}).close.done.reverse

/-- The signs of pieces that are not split into fields. -/
def signs (pieces : List Piece) : List Sign :=
  pieces.filterMap fun
    | .sign char quoted => some (char, quoted)
    | .loose char => some (char, false)
    | .cut => some (' ', true)
    | .mark => none
    | .vanish => none

/-- The signs of text that was written in braces become parts of a value. -/
def loosen (quoted : Bool) (pieces : List Piece) : List Piece :=
  if quoted then pieces
  else pieces.map fun
    | .sign char false => .loose char
    | piece => piece

/-- The text without the part in front that a pattern stands for. -/
def cutFront (longest : Bool) (pattern : List Glob) (text : Text) : Text :=
  let sizes := List.range (text.length + 1)
  let sizes := if longest then sizes.reverse else sizes
  match sizes.find? fun size => Glob.fits pattern (text.take size) with
  | some size => text.drop size
  | none => text

/-- The text without the part at the end that a pattern stands for. -/
def cutBack (longest : Bool) (pattern : List Glob) (text : Text) : Text :=
  let sizes := List.range (text.length + 1)
  let sizes := if longest then sizes else sizes.reverse
  match sizes.find? fun size => Glob.fits pattern (text.drop size) with
  | some size => text.take size
  | none => text

/-- Ends the shell, since a word has no value. -/
def refuse (message : Text) : Work (List Piece) := do
  State.report message
  State.exit 2
  return []

/-- Stops at a parameter that must be set. -/
def refuseUnset (name : Text) : Work (List Piece) :=
  refuse (name ++ ": parameter not set".toList)

/-- The pieces of the value of an arithmetic expression. -/
def ofSum (quoted : Bool) (text : Text) : Work (List Piece) := do
  let state ← get
  match Sum.ofText text >>= fun sum => sum.value text state.bindings with
  | .ok (value, bindings) =>
    set { state with bindings }
    return ofValue quoted (Text.ofInt64 value)
  | .error message => refuse message

/-- The pieces of a word. Each word inside it costs one of `fuel`. -/
def pieces (fuel : Nat) (runner : Runner) (word : Word) : Work (List Piece) :=
  match fuel with
  | 0 => return []
  | fuel + 1 => do
    let found ← word.mapM fun part => show Work (List Piece) from do
      if ← State.isHalted then return []
      match part with
      | .literal text quoted =>
        return (if quoted then [.mark] else []) ++ text.map (Piece.sign · quoted)
      | .output source quoted => return ofValue quoted (← runner source)
      | .sum source quoted =>
        let inner ← pieces fuel runner (Word.whole .quotes source)
        ofSum quoted ((signs inner).map Prod.fst)
      | .parameter name change operand quoted =>
        let state ← get
        let value := value? state name
        let place : Word.Place := if quoted then .quotes else .braces
        let isThere (ifEmpty : Bool) : Bool := value.any fun text => !(ifEmpty && text.isEmpty)
        let operandPieces : Work (List Piece) := do
          return loosen quoted (← pieces fuel runner (Word.whole place operand))
        let operandText : Work Text := do
          return (signs (← pieces fuel runner (Word.whole place operand))).map Prod.fst
        let pattern : Work (List Glob) := do
          return Glob.ofSigns (signs (← pieces fuel runner (Word.whole .braces operand)))
        match change with
        | .none =>
          if value.isNone && state.options.stopOnUnset && name != ['@'] && name != ['*'] then
            refuseUnset name
          else return ofParameter state name quoted
        | .length =>
          return ofValue quoted (Text.ofNat (value.getD []).length)
        | .orElse ifEmpty =>
          if isThere ifEmpty then return ofParameter state name quoted else operandPieces
        | .instead ifEmpty => if isThere ifEmpty then operandPieces else return []
        | .assign ifEmpty =>
          if isThere ifEmpty then return ofParameter state name quoted
          else
            let text ← operandText
            State.assign name text
            return ofValue quoted text
        | .demand ifEmpty =>
          if isThere ifEmpty then return ofParameter state name quoted
          else if operand.isEmpty && ifEmpty then
            refuse (name ++ ": parameter not set or null".toList)
          else if operand.isEmpty then refuseUnset name
          else refuse (name ++ ": ".toList ++ (← operandText))
        | .cutFront longest =>
          return ofValue quoted (cutFront longest (← pattern) (value.getD []))
        | .cutBack longest =>
          return ofValue quoted (cutBack longest (← pattern) (value.getD []))
    return found.flatten

/-- How many words can stand inside each other. -/
def nesting : Nat := 100

/-- The texts that words stand for. -/
def texts (runner : Runner) (words : List Word) : Work (List Text) := do
  let found ← words.mapM fun word => show Work (List Text) from do
    let pieces ← pieces nesting runner word
    let state ← get
    let fields := fields (separators state) pieces
    if state.options.noMatching then return fields.map Glob.text
    return fields.flatMap (Glob.paths state.disk)
  return found.flatten

/-- The one text that a word stands for, where words are not split. -/
def text (runner : Runner) (word : Word) : Work Text := do
  return Glob.text (signs (← pieces nesting runner word))

/-- The pattern that a word stands for. -/
def pattern (runner : Runner) (word : Word) : Work (List Glob) := do
  return Glob.ofSigns (signs (← pieces nesting runner word))

end Expansion

end Docket.Shell
