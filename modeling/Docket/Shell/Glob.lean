import Docket.Shell.Bytes
import Docket.Storage.Disk
import Docket.Text.Order

/-! Patterns of shells: matching texts, and finding the files whose names match. -/

namespace Docket.Shell

/-- A character of a pattern; a quoted one stands for itself. -/
abbrev Sign := Char × Bool

/-- An item of a pattern. -/
inductive Glob where
  | one (char : Char)
  | any
  | many
  /-- One character in, or outside of, ranges. -/
  | among (inside : Bool) (ranges : List (Char × Char))
deriving DecidableEq, Repr

namespace Glob

/-- The ranges of a named class of characters. -/
def named (name : Text) : List (Char × Char) :=
  match String.ofList name with
  | "digit" => [('0', '9')]
  | "lower" => [('a', 'z')]
  | "upper" => [('A', 'Z')]
  | "alpha" => [('a', 'z'), ('A', 'Z')]
  | "alnum" => [('a', 'z'), ('A', 'Z'), ('0', '9')]
  | "space" => [(' ', ' '), ('\t', '\r')]
  | "blank" => [(' ', ' '), ('\t', '\t')]
  | "punct" => [('!', '/'), (':', '@'), ('[', '`'), ('\x7b', '~')]
  | "xdigit" => [('a', 'f'), ('A', 'F'), ('0', '9')]
  | _ => []

/-- The ranges up to a closing bracket, and what follows it. A bracket in front counts as itself.
Each range costs one of `fuel`. -/
def ranges? (fuel : Nat) (first : Bool) (signs : List Sign) :
    Option (List (Char × Char) × List Sign) :=
  match fuel with
  | 0 => none
  | fuel + 1 =>
    let adding (found : List (Char × Char)) (rest : List Sign) :=
      (ranges? fuel false rest).map fun (others, after) => (found ++ others, after)
    match signs with
    | [] => none
    | (char, quoted) :: rest =>
      if char = ']' && !quoted && !first then some ([], rest)
      else match char, rest with
        | '[', (':', false) :: inner =>
          let name := (inner.takeWhile fun sign => sign.1 != ':').map Prod.fst
          match inner.drop name.length with
          | (':', _) :: (']', _) :: after => adding (named name) after
          | _ => adding [('[', '[')] rest
        | low, ('-', false) :: (high, sealed) :: after =>
          if high = ']' && !sealed then adding [(low, low)] rest
          else adding [(low, high)] after
        | char, rest => adding [(char, char)] rest

/-- The items of a pattern. Each costs one of `fuel`. -/
def items (fuel : Nat) (signs : List Sign) : List Glob :=
  match fuel, signs with
  | fuel + 1, (char, quoted) :: rest =>
    let plain := one char :: items fuel rest
    if quoted then plain
    else match char with
      | '*' => many :: items fuel rest
      | '?' => any :: items fuel rest
      | '[' =>
        let (inside, body) := match rest with
          | ('!', false) :: body => (false, body)
          | body => (true, body)
        match ranges? (body.length + 1) true body with
        | some (found, after) => among inside found :: items fuel after
        | none => plain
      | _ => plain
  | _, _ => []

/-- The pattern of signs. -/
def ofSigns (signs : List Sign) : List Glob :=
  items signs.length signs

/-- The signs of a text in which backslashes quote. -/
def signs : Text → List Sign
  | '\\' :: char :: rest => (char, true) :: signs rest
  | '[' :: '^' :: rest => ('[', false) :: ('!', false) :: signs rest
  | char :: rest => (char, false) :: signs rest
  | [] => []

/-- Whether a pattern stands for a whole text. -/
def fits : List Glob → Text → Bool
  | [], text => text.isEmpty
  | many :: rest, text =>
    (List.range (text.length + 1)).any fun count => fits rest (text.drop count)
  | _, [] => false
  | one char :: rest, first :: text => char == first && fits rest text
  | any :: rest, _ :: text => fits rest text
  | among inside ranges :: rest, first :: text =>
    ranges.any (fun (low, high) => low ≤ first && first ≤ high) == inside && fits rest text

/-- Whether signs can stand for several texts. -/
def isPattern (signs : List Sign) : Bool :=
  signs.any fun (char, quoted) => !quoted && "*?[".toList.elem char

/-- The text of signs. -/
def text (signs : List Sign) : Text :=
  signs.map Prod.fst

/-- The names in a folder, in order. -/
def namesIn (disk : Disk) (folder : Text) : List Text :=
  match disk.find (if folder.isEmpty then ['.'] else Bytes.decode folder) with
  | .ok (location, .folder) =>
    let names := disk.entries.keys.filterMap fun other =>
      if other.dropLast = location then other.getLast? else none
    (names.mergeSort fun a b => !Text.before b a).map Bytes.encode
  | _ => []

/-- Signs cut at slashes. -/
def pieces : List Sign → List (List Sign)
  | [] => [[]]
  | sign :: rest =>
    if sign.1 = '/' then [] :: pieces rest
    else match pieces rest with
      | piece :: others => (sign :: piece) :: others
      | [] => [[sign]]

/-- The paths of the entries that match pieces of a pattern, below a folder. -/
def pathsBelow (disk : Disk) (folder : Text) : List (List Sign) → List Text
  | [] => []
  | piece :: rest =>
    let hidden := piece.head?.any fun sign => sign.1 = '.'
    let names := if isPattern piece then
        (namesIn disk folder).filter fun name =>
          fits (ofSigns piece) name && (hidden || name.head? != some '.')
      else [text piece]
    let paths := names.map (folder ++ ·)
    if rest.isEmpty then paths.filter fun path => disk.has (Bytes.decode path)
    else paths.flatMap fun path => pathsBelow disk (path ++ ['/']) rest

/-- The paths that a pattern stands for; a pattern that matches none stands for itself. -/
def paths (disk : Disk) (signs : List Sign) : List Text :=
  if !isPattern signs then [text signs]
  else
    let found := pathsBelow disk [] (pieces signs)
    if found.isEmpty then [text signs] else found

end Glob

end Docket.Shell
