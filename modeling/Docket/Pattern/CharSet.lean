import Docket.Text.Basic
import Docket.Text.Integer

/-! Sets of characters as sorted ranges of code points, and compact forms of them, with the names
under which they are found. -/

namespace Docket

/-- A set of characters: disjoint closed ranges of code points, in increasing order. -/
structure CharSet where
  ranges : List (Nat × Nat)
deriving DecidableEq, Repr, Inhabited

namespace CharSet

/-- The set without characters. -/
def empty : CharSet :=
  ⟨[]⟩

/-- Whether a set has no characters. -/
def isEmpty (set : CharSet) : Bool :=
  set.ranges.isEmpty

/-- Whether a code point lies in sorted ranges. -/
def within (code : Nat) : List (Nat × Nat) → Bool
  | [] => false
  | (first, last) :: rest => first ≤ code && (code ≤ last || within code rest)

/-- Whether a set has the character of a code point. -/
def hasCode (set : CharSet) (code : Nat) : Bool :=
  within code set.ranges

/-- Whether a set has a character. -/
def has (set : CharSet) (char : Char) : Bool :=
  set.hasCode char.toNat

/-- Sorted ranges with those joined that meet; `first` to `last` is the range in hand. -/
def merge (first last : Nat) : List (Nat × Nat) → List (Nat × Nat)
  | [] => [(first, last)]
  | (next, stop) :: rest =>
    if next ≤ last + 1 then merge first (max last stop) rest
    else (first, last) :: merge next stop rest

/-- The set of the characters in some ranges, in any order. -/
def ofRanges (ranges : List (Nat × Nat)) : CharSet :=
  match ranges.mergeSort (fun a b => a.1 ≤ b.1) with
  | [] => empty
  | (first, last) :: rest => ⟨merge first last rest⟩

/-- The set of one character. -/
def singleton (char : Char) : CharSet :=
  ⟨[(char.toNat, char.toNat)]⟩

/-- The characters of either set. -/
def union (left right : CharSet) : CharSet :=
  ofRanges (left.ranges ++ right.ranges)

/-- The gaps between sorted ranges from code point `first` on, up to `last`. -/
def gaps (first last : Nat) : List (Nat × Nat) → List (Nat × Nat)
  | [] => if first ≤ last then [(first, last)] else []
  | (start, stop) :: rest =>
    if first < start then (first, start - 1) :: gaps (stop + 1) last rest
    else gaps (stop + 1) last rest

/-- A range without the code points of surrogates, which are no characters. -/
def withoutSurrogates (range : Nat × Nat) : List (Nat × Nat) :=
  let (first, last) := range
  let below := if first < 0xD800 then [(first, min last 0xD7FF)] else []
  let above := if 0xDFFF < last then [(max first 0xE000, last)] else []
  below ++ above

/-- The characters that are not in a set. -/
def complement (set : CharSet) : CharSet :=
  ⟨(gaps 0 0x10FFFF set.ranges).flatMap withoutSurrogates⟩

/-- The characters of both sets. -/
def inter (left right : CharSet) : CharSet :=
  complement (union (complement left) (complement right))

/-- The characters of the first set that are not in the second. -/
def diff (left right : CharSet) : CharSet :=
  inter left (complement right)

/-- The characters of exactly one of the sets. -/
def symmetricDiff (left right : CharSet) : CharSet :=
  union (diff left right) (diff right left)

/-- Whether a set has no characters outside ASCII. -/
def isAscii (set : CharSet) : Bool :=
  set.ranges.all fun (_, last) => last ≤ 0x7F

end CharSet

end Docket

namespace Docket.Pattern

/-- A set with its names, in small letters without separators. Each word of the lines is the
distance of a range from the end of the one before, in hexadecimal; after a plus sign comes how
many more code points the range has. -/
structure NamedRanges where
  names : List String
  lines : List String

/-- The value of a run of hexadecimal digits in small letters. -/
def hexadecimal (digits : Text) : Nat :=
  digits.foldl (fun value char =>
    16 * value + (if char.isDigit then char.toNat - '0'.toNat else char.toNat - 'a'.toNat + 10)) 0

/-- The ranges that words stand for, after a range that ends at `last`. -/
def decodeWords (last : Nat) : List Text → List (Nat × Nat)
  | [] => []
  | word :: rest =>
    let first := last + hexadecimal (word.takeWhile (· != '+'))
    let stop := first + hexadecimal ((word.dropWhile (· != '+')).drop 1)
    (first, stop) :: decodeWords stop rest

/-- The words of a text between single blanks. -/
def blankWords : Text → List Text
  | [] => [[]]
  | char :: rest =>
    if char = ' ' then [] :: blankWords rest
    else match blankWords rest with
      | [] => [[char]]
      | word :: others => (char :: word) :: others

/-- The set that is written in a row. -/
def NamedRanges.set (row : NamedRanges) : CharSet :=
  ⟨decodeWords 0 (row.lines.flatMap fun line => blankWords line.toList)⟩

/-- The set of a name in a table. -/
def findSet? (table : List NamedRanges) (name : Text) : Option CharSet :=
  (table.find? fun row => row.names.any (·.toList == name)).map NamedRanges.set

end Docket.Pattern
