import Docket.Proofs.Text.Decimal
import Docket.Text.Extract
import Mathlib.Algebra.Group.Int.Defs
import Mathlib.Algebra.Group.Nat.Defs

/-!
Slices of texts.

The first characters of a text and its last ones are cut at the same place, and the characters from
a position on are those behind it.

The slices are also reckoned in words of 64 bits. Bounds are words with a sign and lengths are words
without one. Every step gives its exact result or nothing at all, so that a slice is there only if
no step on the way to it leaves the 64 bits. For the texts that a memory can hold every slice is
there, whatever the bounds, and it is the slice that is reckoned in integers without limits.
-/

namespace Docket.Text

/-- The nearest integer that fits in 64 bits does fit. -/
theorem fits_saturate (value : Int) : fits (saturate value) = true := by
  have low : -negativeCount ≤ saturate value := Int.le_max_left _ _
  have high : saturate value < negativeCount := by
    simp only [saturate, negativeCount]
    omega
  exact Bool.and_eq_true_iff.mpr ⟨decide_eq_true low, decide_eq_true high⟩

/-- An integer that fits in 64 bits is the nearest one that does. -/
theorem saturate_of_fits {value : Int} (fitting : fits value = true) : saturate value = value := by
  obtain ⟨low, high⟩ := Bool.and_eq_true_iff.mp fitting
  have low := of_decide_eq_true low
  have high := of_decide_eq_true high
  simp only [saturate]
  omega

/-- The first characters of a text stand before their cut. -/
theorem left_eq_take (text : Text) (count : Int) :
    left text count = text.take (cut count text.length) := by
  simp [left, slice]

/-- The last characters of a text stand behind a cut that is counted from the end. -/
theorem right_eq_drop {count : Int} (nonzero : count ≠ 0) (fitting : fits (-count) = true) :
    right text count = text.drop (cut (-count) text.length) := by
  rw [right, if_neg nonzero, saturate_of_fits fitting]
  -- Everything behind the cut is taken.
  exact List.take_of_length_le (by simp)

/-- The first characters of a text and the characters that are left make up the text. -/
theorem left_append_right (text : Text) {count : Int} (nonzero : count ≠ 0)
    (fitting : fits count = true) : left text count ++ right text (-count) = text := by
  -- Both are cut at the same place.
  rw [left_eq_take, right_eq_drop (by omega) (by rwa [Int.neg_neg]), Int.neg_neg,
    List.take_append_drop]

/-- As many first characters are found as were asked for, if there are so many. -/
theorem length_left_of_nonneg (text : Text) {count : Int} (nonneg : 0 ≤ count) :
    (left text count).length = min count.toNat text.length := by
  have above : ¬ count < 0 := by omega
  rw [left_eq_take, List.length_take, cut, if_neg above]
  omega

/-- A negative number of first characters leaves out so many at the end, as far as there are any. -/
theorem length_left_of_neg (text : Text) {count : Int} (negative : count < 0) :
    ((left text count).length : Int) = max (text.length + count) 0 := by
  rw [left_eq_take, List.length_take, cut, if_pos negative]
  simp only [Int.ofNat_eq_natCast]
  omega

/-- A slice that is not counted from the end begins behind so many characters. -/
theorem slice_from (text : Text) {first : Int} (nonneg : 0 ≤ first) (stop : Option Int) :
    slice text (some first) stop = (text.drop first.toNat).take
      ((stop.map (cut · text.length)).getD text.length - first.toNat) := by
  have above : ¬ first < 0 := by omega
  simp only [slice, Option.map_some, Option.getD_some, cut, if_neg above]
  by_cases inside : first.toNat ≤ text.length
  · rw [Nat.min_eq_left inside]
  · -- There is nothing behind the end.
    have all : text.length ≤ min first.toNat text.length := by omega
    rw [List.drop_eq_nil_of_le all, List.drop_eq_nil_of_le (by omega), List.take_nil,
      List.take_nil]

/-- From a position on all characters are left but those before it. -/
theorem mid_none (text : Text) (start : Int) :
    mid text start none = text.drop (max start 1 - 1).toNat := by
  rw [mid, slice_from text (by omega)]
  exact List.take_of_length_le (by simp)

/-- With a length, the first characters of these are taken. A negative length that leads before the
front counts from the end of the text. -/
theorem mid_some (short : text.length < 2 ^ 63) (start : Int) {length : Int}
    (low : -2 ^ 63 ≤ length) :
    mid text start (some length) = (text.drop (max start 1 - 1).toNat).take
      (if length < 1 - max start 1 then text.length + length else length).toNat := by
  have count : negativeCount = 2 ^ 63 := rfl
  have nonneg : 0 ≤ max start 1 - 1 := by omega
  rw [mid, slice_from text nonneg, List.take_eq_take_iff, List.length_drop]
  simp only [Option.map_some, Option.getD_some, cut, saturate, Int.ofNat_eq_natCast]
  by_cases before : length < 1 - max start 1
  · -- The cut is counted from the end, and its distance to the start does not depend on the start.
    rw [if_pos before, if_pos (by omega)]
    omega
  · -- The cut is at most as far behind the start as the length says, or at the end of the text.
    rw [if_neg before, if_neg (by omega)]
    omega

namespace InWords

/-- An integer as a word with a sign, if it fits. -/
def signed? (value : Int) : Option Int64 :=
  if fits value then some (.ofInt value) else none

/-- An integer as a word without a sign, if it fits. -/
def unsigned? (value : Int) : Option UInt64 :=
  if 0 ≤ value ∧ value < wordCount then some (.ofNat value.toNat) else none

/-- The nearest word with a sign. -/
def saturated (value : Int) : Int64 :=
  .ofInt (saturate value)

/-- The cut that a bound names: a negative bound is added to the length, but does not lead below the
front. -/
def cut? (bound : Int64) (length : UInt64) : Option UInt64 := do
  let size ← signed? length.toNat
  if bound < 0 then
    let place ← signed? (size.toInt + bound.toInt)
    unsigned? (max place.toInt 0)
  else unsigned? (min bound.toInt size.toInt)

/-- The cut of a bound, or the text's own end where there is none. -/
def cutOr? (bound : Option Int64) (length missing : UInt64) : Option UInt64 :=
  match bound with
  | some bound => cut? bound length
  | none => some missing

/-- The characters from one cut up to another one. -/
def slice? (text : Text) (start stop : Option Int64) : Option Text := do
  let length ← unsigned? text.length
  let first ← cutOr? start length 0
  let last ← cutOr? stop length length
  if last ≤ first then some []
  else
    let count ← unsigned? (last.toNat - first.toNat)
    some ((text.drop first.toNat).take count.toNat)

/-- The first characters of a text. -/
def left? (text : Text) (count : Int64) : Option Text :=
  slice? text none (some count)

/-- The last characters of a text. -/
def right? (text : Text) (count : Int64) : Option Text :=
  if count = 0 then some [] else slice? text (some (saturated (-count.toInt))) none

/-- The characters of a text from a position on. -/
def mid? (text : Text) (start : Int64) (length : Option Int64) : Option Text := do
  let first ← signed? (max start.toInt 1 - 1)
  slice? text (some first) (length.map fun length => saturated (first.toInt + length.toInt))

/-- An integer within the bounds has a word with a sign. -/
theorem signed?_eq {value : Int} (low : -negativeCount ≤ value) (high : value < negativeCount) :
    ∃ word, signed? value = some word ∧ word.toInt = value := by
  have inside : fits value = true := by simp [fits, low, high]
  exact ⟨.ofInt value, if_pos inside, toInt_ofInt_of_fits inside⟩

/-- A natural number below the bound has a word without a sign. -/
theorem unsigned?_eq {value : Nat} (small : value < wordCount) :
    ∃ word, unsigned? value = some word ∧ word.toNat = value := by
  have inside : 0 ≤ (value : Int) ∧ (value : Int) < wordCount := by omega
  exact ⟨.ofNat value, if_pos inside, UInt64.toNat_ofNat_of_lt' small⟩

@[simp] theorem toInt_saturated (value : Int) : (saturated value).toInt = saturate value :=
  toInt_ofInt_of_fits (fits_saturate value)

variable {text : Text}

/-- A bound is turned into its cut without leaving the 64 bits. -/
theorem cut?_eq (bound : Int64) {length : UInt64} (short : length.toNat < 2 ^ 63) :
    ∃ place, cut? bound length = some place ∧ place.toNat = cut bound.toInt length.toNat := by
  have low : -2 ^ 63 ≤ bound.toInt := Int64.le_toInt bound
  have count : negativeCount = 2 ^ 63 := rfl
  have words : wordCount = 2 ^ 64 := rfl
  obtain ⟨size, fits, same⟩ := @signed?_eq length.toNat (by omega) (by omega)
  simp only [cut?, fits, Option.bind_eq_bind, Option.bind_some, same]
  by_cases negative : bound.toInt < 0
  · -- The length is not negative, so the sum is no lower than the bound.
    have below : bound < 0 := Int64.lt_iff_toInt_lt.mpr negative
    obtain ⟨place, fits, same⟩ := @signed?_eq (length.toNat + bound.toInt) (by omega) (by omega)
    obtain ⟨word, stands, worth⟩ := @unsigned?_eq (length.toNat + bound.toInt).toNat (by omega)
    have raised : max (length.toNat + bound.toInt) 0 = (length.toNat + bound.toInt).toNat := by
      omega
    simp only [if_pos below, fits, Option.bind_some, same, raised]
    exact ⟨word, stands, by rw [worth, cut, if_pos negative]; rfl⟩
  · -- A bound from the front is only cut down to the length.
    have above : ¬ bound < 0 := fun below => negative (Int64.lt_iff_toInt_lt.mp below)
    obtain ⟨word, stands, worth⟩ := @unsigned?_eq (min bound.toInt.toNat length.toNat) (by omega)
    have lowered : min bound.toInt length.toNat = (min bound.toInt.toNat length.toNat : Nat) := by
      omega
    simp only [if_neg above, lowered]
    exact ⟨word, stands, by rw [worth, cut, if_neg negative]⟩

/-- So is a bound that may be missing. -/
theorem cutOr?_eq (bound : Option Int64) {length : UInt64} (short : length.toNat < 2 ^ 63)
    (missing : UInt64) :
    ∃ place, cutOr? bound length missing = some place ∧
      place.toNat = ((bound.map Int64.toInt).map (cut · length.toNat)).getD missing.toNat := by
  cases bound with
  | none => exact ⟨missing, rfl, rfl⟩
  | some bound => exact cut?_eq bound short

/-- A slice of a text that a memory can hold is cut without leaving the 64 bits. -/
theorem slice?_eq (short : text.length < 2 ^ 63) (start stop : Option Int64) :
    slice? text start stop =
      some (slice text (start.map Int64.toInt) (stop.map Int64.toInt)) := by
  have words : wordCount = 2 ^ 64 := rfl
  obtain ⟨length, fits, same⟩ := @unsigned?_eq text.length (by omega)
  rw [← same] at short
  obtain ⟨first, begins, from_⟩ := cutOr?_eq start short 0
  obtain ⟨last, ends, until_⟩ := cutOr?_eq stop short length
  rw [same] at from_ until_
  -- Both bounds have cuts within the text.
  have zero : UInt64.toNat 0 = 0 := rfl
  rw [zero] at from_
  simp only [slice?, slice, fits, begins, ends, Option.bind_eq_bind, Option.bind_some, ← from_,
    ← until_]
  by_cases empty : last ≤ first
  · -- A slice that ends before it begins has no characters.
    have none_ : last.toNat - first.toNat = 0 := Nat.sub_eq_zero_of_le empty
    rw [if_pos empty, none_, List.take_zero]
  · have ahead : first.toNat < last.toNat := UInt64.not_le.mp empty
    have bounded : last.toNat < wordCount := UInt64.toNat_lt last
    obtain ⟨count, stands, worth⟩ := @unsigned?_eq (last.toNat - first.toNat) (by omega)
    have exact_ : (last.toNat : Int) - first.toNat = (last.toNat - first.toNat : Nat) := by omega
    rw [if_neg empty, exact_, stands, Option.bind_some, worth]

/-- The first characters of a text are found without leaving the 64 bits. -/
theorem left?_eq (short : text.length < 2 ^ 63) (count : Int64) :
    left? text count = some (left text count.toInt) :=
  slice?_eq short none (some count)

/-- The last characters of a text are found without leaving the 64 bits. -/
theorem right?_eq (short : text.length < 2 ^ 63) (count : Int64) :
    right? text count = some (right text count.toInt) := by
  by_cases none_ : count = 0
  · subst none_
    rfl
  · have other : count.toInt ≠ 0 := fun zero => none_ (Int64.toInt_inj.mp zero)
    rw [right?, right, if_neg none_, if_neg other, slice?_eq short]
    simp

/-- The characters from a position on are found without leaving the 64 bits. -/
theorem mid?_eq (short : text.length < 2 ^ 63) (start : Int64) (length : Option Int64) :
    mid? text start length = some (mid text start.toInt (length.map Int64.toInt)) := by
  have high : start.toInt < 2 ^ 63 := Int64.toInt_lt start
  have count : negativeCount = 2 ^ 63 := rfl
  obtain ⟨first, fits, same⟩ := @signed?_eq (max start.toInt 1 - 1) (by omega) (by omega)
  simp only [mid?, mid, fits, Option.bind_eq_bind, Option.bind_some, slice?_eq short]
  simp [Function.comp_def, same]

end InWords

end Docket.Text
