import Docket.Proofs.Expression.Insertion
import Docket.Proofs.Text.Slice

/-!
The functions that cut a text: its first characters, its last ones, and those from a position on.

The first characters of a text and its last ones make up the text, for every number that has a
negative. From a position on, no more characters are taken than were asked for, unless a negative
number leads before the front of the text: such a number counts from the end. No step of the
reckoning leaves the 64 bits.
-/

namespace Docket

namespace Text

/-- Only the least value of 64 bits has no negative. -/
theorem toInt_neg_of_ne {value : Int64} (negatable : value ≠ Int64.minValue) :
    (-value).toInt = -value.toInt := by
  have low : -2 ^ 63 ≤ value.toInt := Int64.le_toInt value
  have high : value.toInt < 2 ^ 63 := Int64.toInt_lt value
  have above : value.toInt ≠ -2 ^ 63 := fun least => negatable (Int64.toInt_inj.mp least)
  rw [Int64.toInt_neg, Int.bmod_eq_of_le (by omega) (by omega)]

/-- What is read as an integer stays when it is trimmed. -/
theorem trim_of_integer? {text : Text} {value : Int64} (reads : integer? text = some value) :
    trim text = text := by
  -- What is read as an integer has digits and signs only.
  refine trim_eq_self ?_ ?_
  · cases first : text.head? with
    | none => rfl
    | some char => exact isBlank_of_mem_integer? reads (List.mem_of_head? first)
  · cases last : text.getLast? with
    | none => rfl
    | some char => exact isBlank_of_mem_integer? reads (List.mem_of_getLast? last)

end Text

namespace Function

variable (environment : Environment) (resources : Resources) {text written : Text}

/-- What is read as an integer is accepted as an argument. -/
theorem integer_of_integer? {value : Int64} (reads : Text.integer? text = some value)
    (index : Nat) : integer index text = .ok value := by
  rw [integer, Text.trim_of_integer? reads, reads]

/-- The decimal form of a value of 64 bits is accepted as that value. -/
theorem integer_ofInt64 (index : Nat) (value : Int64) :
    integer index (Text.ofInt64 value) = .ok value :=
  integer_of_integer? (Text.integer?_ofInt64 value) index

/-- The function of the first characters gives them for every number that it can read. -/
theorem left_call {count : Int64} (reads : integer 1 written = .ok count) :
    left.call environment [text, written] resources =
      (.ok (Text.left text count.toInt), resources) := by
  have run : left.call environment [text, written] resources =
      ((integer 1 written).map fun number => Text.left text number.toInt, resources) :=
    rfl
  rw [run, reads]
  rfl

/-- The function of the last characters gives them for every number that it can read. -/
theorem right_call {count : Int64} (reads : integer 1 written = .ok count) :
    right.call environment [text, written] resources =
      (.ok (Text.right text count.toInt), resources) := by
  have run : right.call environment [text, written] resources =
      ((integer 1 written).map fun number => Text.right text number.toInt, resources) :=
    rfl
  rw [run, reads]
  rfl

/-- Without a length, and with an empty one, all characters from a position on are given. -/
theorem mid_call {start : Int64} (reads : integer 1 written = .ok start) :
    mid.call environment [text, written] resources =
        (.ok (Text.mid text start.toInt none), resources) ∧
      mid.call environment [text, written, []] resources =
        (.ok (Text.mid text start.toInt none), resources) := by
  -- Both calls come to the same position.
  have run (arguments : List Text) (two : arguments = [] ∨ arguments = [[]]) :
      mid.call environment (text :: written :: arguments) resources =
        ((integer 1 written).bind fun number => .ok (Text.mid text number.toInt none),
          resources) := by
    rcases two with rfl | rfl <;> rfl
  rw [run [] (.inl rfl), run [[]] (.inr rfl), reads]
  exact ⟨rfl, rfl⟩

/-- With a length, the characters up to the position that it leads to are given. -/
theorem mid_call_length {start length : Int64} {size : Text}
    (reads : integer 1 written = .ok start) (sized : integer 2 size = .ok length) :
    mid.call environment [text, written, size] resources =
      (.ok (Text.mid text start.toInt (some length.toInt)), resources) := by
  cases size with
  | nil =>
    -- The empty text is no number.
    have refused : integer 2 [] = .error (.argument 2 (.noInteger [])) := rfl
    exact absurd (refused.symm.trans sized) (by simp)
  | cons char rest =>
    have run : mid.call environment [text, written, char :: rest] resources =
        ((integer 1 written).bind fun number => (integer 2 (char :: rest)).bind fun length =>
          .ok (Text.mid text number.toInt (some length.toInt)), resources) :=
      rfl
    rw [run, reads, Except.bind, sized, Except.bind]

/--
The first characters of a text and its last ones make up the text.

For every number that has a negative and is not zero, both functions give a value, however the
numbers are written, and the values are the two halves of the text. The first half has as many
characters as the number says, if there are so many; if the number is negative, it has so many less
than the text. For a text that a memory can hold, no step of the reckoning leaves the 64 bits, with
these numbers or with any others.
-/
theorem left_right_partition {count : Int64} (nonzero : count ≠ 0)
    (negatable : count ≠ Int64.minValue) (text : Text) :
    ∃ front back, front ++ back = text ∧
      (0 < count → front.length = min count.toInt.toNat text.length) ∧
      (count < 0 → (front.length : Int) = max (text.length + count.toInt) 0) ∧
      (∀ written, integer 1 written = .ok count →
        left.call environment [text, written] resources = (.ok front, resources)) ∧
      (∀ written, integer 1 written = .ok (-count) →
        right.call environment [text, written] resources = (.ok back, resources)) ∧
      integer 1 (Text.ofInt64 count) = .ok count ∧
      integer 1 (Text.ofInt64 (-count)) = .ok (-count) ∧
      (text.length < 2 ^ 63 → Text.InWords.left? text count = some front ∧
        Text.InWords.right? text (-count) = some back ∧
        ∀ bound, Text.InWords.left? text bound ≠ none ∧ Text.InWords.right? text bound ≠ none) := by
  -- The two functions cut at the same place, since the number has a negative.
  have other : count.toInt ≠ 0 := fun zero => nonzero (Int64.toInt_inj.mp zero)
  have negated : (-count).toInt = -count.toInt := Text.toInt_neg_of_ne negatable
  refine ⟨Text.left text count.toInt, Text.right text (-count).toInt, ?_, ?_, ?_, ?_, ?_,
    integer_ofInt64 1 count, integer_ofInt64 1 (-count), ?_⟩
  · rw [negated]
    exact Text.left_append_right text other (Text.fits_toInt count)
  · -- A count above zero takes characters, and one below zero leaves them.
    intro positive
    exact Text.length_left_of_nonneg text (Int.le_of_lt (Int64.lt_iff_toInt_lt.mp positive))
  · intro negative
    exact Text.length_left_of_neg text (Int64.lt_iff_toInt_lt.mp negative)
  · exact fun written reads => left_call environment resources reads
  · exact fun written reads => right_call environment resources reads
  · -- In words each half is cut as without limits, and so it is for any other bound.
    intro short
    refine ⟨Text.InWords.left?_eq short count, Text.InWords.right?_eq short (-count),
      fun bound => ?_⟩
    simp [Text.InWords.left?_eq short, Text.InWords.right?_eq short]

/-- Three characters are dropped from the end, and the same three are the last ones. -/
theorem left_right_partition_wide :
    let text := "Größe".toList
    let here := Scope.standard.environment
    ((-3 : Int64) ≠ 0 ∧ (-3 : Int64) ≠ Int64.minValue) ∧
      ∃ front back, front ++ back = text ∧ front.length = 2 ∧
        left.call here [text, " -3".toList] .fresh = (.ok front, .fresh) ∧
        right.call here [text, "+3 ".toList] .fresh = (.ok back, .fresh) := by
  intro text here
  -- White space and a plus sign are read, so each half is asked for in its own way.
  have nonzero : (-3 : Int64) ≠ 0 := by decide
  have negatable : (-3 : Int64) ≠ Int64.minValue := by decide
  obtain ⟨front, back, whole, -, size, first, last, -⟩ :=
    left_right_partition here .fresh nonzero negatable text
  have length : (front.length : Int) = 2 := size (by decide)
  exact ⟨⟨nonzero, negatable⟩, front, back, whole, by omega, first _ (by decide +kernel),
    last _ (by decide +kernel)⟩

/--
The characters of a text that a memory can hold from a position on, and so many of them.

For every position, however it is written, these are the characters of the text without those before
the position, where positions below one count as one. With a length, the first of them are taken: as
many as the length says, or, if the length leads before the front, as many as it leaves of the text
when it is dropped from the end. These are more than the length says exactly if a length that leads
before the front does not drop the whole text. No step of the reckoning leaves the 64 bits.
-/
theorem mid_length_iff {text : Text} (short : text.length < 2 ^ 63) (start length : Int64) :
    let rest := text.drop (max start.toInt 1 - 1).toNat
    let taken := rest.take (if length.toInt < 1 - max start.toInt 1 then
      text.length + length.toInt else length.toInt).toNat
    (∀ written, integer 1 written = .ok start →
      mid.call environment [text, written] resources = (.ok rest, resources) ∧
      mid.call environment [text, written, []] resources = (.ok rest, resources) ∧
      ∀ size, integer 2 size = .ok length →
        mid.call environment [text, written, size] resources = (.ok taken, resources)) ∧
    (taken = rest.take (max length.toInt 0).toNat ↔
      ¬ (-(text.length : Int) < length.toInt ∧ length.toInt < 1 - max start.toInt 1)) ∧
    integer 1 (Text.ofInt64 start) = .ok start ∧ integer 2 (Text.ofInt64 length) = .ok length ∧
    Text.InWords.mid? text start none = some rest ∧
    Text.InWords.mid? text start (some length) = some taken := by
  intro rest taken
  -- Both functions are cuts of the text, in words as well as without limits.
  have whole : Text.mid text start.toInt none = rest := Text.mid_none text start.toInt
  have part : Text.mid text start.toInt (some length.toInt) = taken :=
    Text.mid_some short start.toInt (Int64.le_toInt length)
  refine ⟨fun written reads => ?_, ?_, integer_ofInt64 1 start, integer_ofInt64 2 length, ?_, ?_⟩
  · obtain ⟨left_out, empty⟩ := @mid_call environment resources text _ _ reads
    rw [whole] at left_out empty
    exact ⟨left_out, empty, fun size sized => by
      rw [mid_call_length environment resources reads sized, part]⟩
  · -- Two counts take the same where both reach the end or they are equal.
    rw [List.take_eq_take_iff, List.length_drop]
    by_cases before : length.toInt < 1 - max start.toInt 1
    · -- The length is negative, so none are asked for.
      rw [if_pos before]
      omega
    · rw [if_neg before]
      omega
  · rw [Text.InWords.mid?_eq short, Option.map_none, whole]
  · rw [Text.InWords.mid?_eq short, Option.map_some, part]

/-- The longest length of 64 bits leads past the end from the second position on. -/
theorem mid_length_iff_longest :
    let text := "Größe".toList
    let here := Scope.standard.environment
    text.length < 2 ^ 63 ∧
      mid.call here [text, "2".toList] .fresh = (.ok "röße".toList, .fresh) ∧
      mid.call here [text, "2".toList, "9223372036854775807".toList] .fresh =
        (.ok "röße".toList, .fresh) ∧
      mid.call here [text, "2".toList, "-6".toList] .fresh = (.ok [], .fresh) := by
  intro text here
  -- Each length is a case of the general theorem at the same position.
  have short : text.length < 2 ^ 63 := by decide
  have reads : integer 1 "2".toList = .ok 2 := by decide +kernel
  obtain ⟨longest, -⟩ := mid_length_iff here .fresh short 2 Int64.maxValue
  obtain ⟨none_, -⟩ := mid_length_iff here .fresh short 2 (-6)
  obtain ⟨rest, -, taken⟩ := longest _ reads
  obtain ⟨-, -, dropped⟩ := none_ _ reads
  exact ⟨short, rest, taken _ (by decide +kernel), dropped _ (by decide +kernel)⟩

/-- From the second position on, a length of -2 gives all characters but the last one. -/
theorem mid_length_counts_from_end :
    let text := "abcdef".toList
    let here := Scope.standard.environment
    let rest := mid.call here [text, "2".toList] .fresh
    let taken := mid.call here [text, "2".toList, "-2".toList] .fresh
    integer 1 "2".toList = .ok 2 ∧ integer 2 "-2".toList = .ok (-2) ∧
      rest.1 = .ok "bcdef".toList ∧ taken.1 = .ok "bcde".toList ∧
      taken.1 ≠ .ok ("bcdef".toList.take (max (-2 : Int) 0).toNat) := by
  -- The calls are evaluated.
  decide +kernel

end Function

end Docket
