import Docket.Text.Basic

/-! Paths of files: names between slashes, and the parts of the last name. -/

namespace Docket.Path

/-- A text cut at every slash; the pieces may be empty. -/
def pieces : Text → List Text
  | [] => [[]]
  | char :: rest =>
    if char = '/' then [] :: pieces rest
    else match pieces rest with
      | [] => [[char]]
      | piece :: others => (char :: piece) :: others

/-- Pieces that lead nowhere: doubled or final slashes, and single dots. -/
def isIdle (piece : Text) : Bool :=
  piece.isEmpty || piece == ['.']

/-- The part of a path that no step back removes piece by piece, and the rest. It is the root's
slash, or a leading single dot. -/
def anchor (path : Text) : Text × Text :=
  match path with
  | '/' :: rest => (['/'], rest)
  | ['.'] => (['.'], [])
  | '.' :: '/' :: rest => (['.'], '/' :: rest)
  | path => ([], path)

/-- A step of a path. -/
inductive Step where
  | root
  | here
  | up
  | name (name : Text)
deriving DecidableEq

/-- The step that a piece stands for. -/
def Step.ofPiece (piece : Text) : Step :=
  if piece == ['.', '.'] then .up else .name piece

/-- The steps of a path. A single dot counts only at the front. -/
def steps (path : Text) : List Step :=
  let (front, rest) := anchor path
  -- The anchor is a step of its own, the root or a leading dot.
  let first := if front.isEmpty then [] else if front == ['/'] then [.root] else [.here]
  first ++ ((pieces rest).filter (!isIdle ·)).map Step.ofPiece

/-- The name at the end of a path. -/
def fileName? (path : Text) : Option Text :=
  match (steps path).getLast? with
  | some (.name name) => some name
  | _ => none

/-- The pieces before a final run of idle ones. -/
def dropIdle (reversed : List Text) : List Text :=
  reversed.dropWhile isIdle

/-- The path without its last step; the root and the empty path have none. -/
def parent? (path : Text) : Option Text :=
  let (front, rest) := anchor path
  match dropIdle (pieces rest).reverse with
  | _ :: before => some (front ++ Text.join ['/'] (dropIdle before).reverse)
  -- A dot alone lies in the empty path; the root and the empty path lie nowhere.
  | [] => if front == ['.'] then some [] else none

/-- A name cut at its last dot. A dot at the front cuts nothing. -/
def splitName (name : Text) : Text × Option Text :=
  let ending := (name.reverse.takeWhile (· != '.')).reverse
  -- The dot belongs to neither part; without one the ending is the whole name.
  let stem := name.dropLast.take (name.length - ending.length - 1)
  if name == ['.', '.'] || ending.length == name.length || stem.isEmpty then (name, none)
  else (stem, some ending)

/-- The name at the end of a path, without its ending. -/
def stem? (path : Text) : Option Text :=
  (fileName? path).map fun name => (splitName name).1

/-- The ending of the name at the end of a path, without its dot. -/
def ending? (path : Text) : Option Text :=
  (fileName? path).bind fun name => (splitName name).2

/-- The path of a name inside a folder. -/
def child (folder name : Text) : Text :=
  if folder.isEmpty || folder.getLast? == some '/' then folder ++ name
  else folder ++ '/' :: name

/-- The path of another name in the folder of a path. -/
def sibling (path name : Text) : Text :=
  child ((parent? path).getD []) name

/-- The steps that lead from a folder to a path below it. -/
def below? (path folder : Text) : Option (List Step) :=
  let inner := steps path
  let outer := steps folder
  if outer.isPrefixOf inner then some (inner.drop outer.length) else none

/-- The path and its parents, nearest first. -/
def lineage (fuel : Nat) (path : Text) : List Text :=
  match fuel with
  | 0 => [path]
  | fuel + 1 =>
    path :: match parent? path with
      | some parent => lineage fuel parent
      | none => []

end Docket.Path
