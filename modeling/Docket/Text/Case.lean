import Docket.Text.Basic
import Docket.Text.CaseTable

/-! Full case mapping of texts, with the contextual final sigma. -/

namespace Docket.Text

/-- The image of a code point under a run that holds it. -/
def CaseRun.image? (run : CaseRun) (code : Nat) : Option Char :=
  if run.first ≤ code && code ≤ run.last && (code - run.first) % run.step == 0 then
    some (Char.ofNat (Int.ofNat code + run.shift).toNat)
  else
    none

/-- Whether a code point lies in one of the ranges. -/
def inRanges (ranges : List (Nat × Nat)) (code : Nat) : Bool :=
  ranges.any fun (first, last) => first ≤ code && code ≤ last

/-- Characters with the property `Cased`. -/
def isCased (char : Char) : Bool :=
  inRanges casedRanges char.toNat

/-- Characters with the property `Case_Ignorable`. -/
def isCaseIgnorable (char : Char) : Bool :=
  inRanges caseIgnorableRanges char.toNat

/-- The lower-case form of a character that stands alone; only capital I with a dot has two. -/
def lowerChar (char : Char) : Text :=
  if char.toNat == 0x130 then [Char.ofNat 0x69, Char.ofNat 0x307]
  else [(lowerRuns.findSome? (·.image? char.toNat)).getD char]

/-- The upper-case form of a character. -/
def upperChar (char : Char) : Text :=
  match upperExpansions.lookup char.toNat with
  | some codes => codes.map Char.ofNat
  | none => [(upperRuns.findSome? (·.image? char.toNat)).getD char]

/-- Whether the first character that is not case-ignorable exists and is cased. -/
def meetsCased (text : Text) : Bool :=
  match text.dropWhile isCaseIgnorable with
  | [] => false
  | char :: _ => isCased char

/-- Lower-case form of a text that follows `passed`, which is kept nearest character first.
A capital sigma is final when a cased character comes before it and none comes after it. -/
def lowerAfter (passed : Text) : Text → Text
  | [] => []
  | char :: rest =>
    let image :=
      if char.toNat == 0x3A3 then
        if meetsCased passed && !meetsCased rest then [Char.ofNat 0x3C2] else [Char.ofNat 0x3C3]
      else
        lowerChar char
    -- The characters as they were count for those behind them, not their images.
    image ++ lowerAfter (char :: passed) rest

/-- The lower-case form of a text. -/
def lower (text : Text) : Text :=
  lowerAfter [] text

/-- The upper-case form of a text. -/
def upper (text : Text) : Text :=
  text.flatMap upperChar

end Docket.Text
