import Docket.Text.Extract
import Mathlib.Data.List.TakeWhile
import Mathlib.Data.Nat.Find

/-!
Searching a text: the places at which another text occurs in it, and the first of them.

The search finds a place exactly if there is one, and then it finds the first one behind the
characters that are passed over. In the same way a text is cut around a mark exactly if the mark
stands in it, and then around the first one. A run of characters that pass a test ends at a mark
that does not pass it.
-/

namespace Docket.Text

variable {needle text : Text} {index skipped : Nat}

/-- A text occurs in another one behind so many characters. The empty text occurs at every place,
up to the one behind the last character. -/
def OccursAt (needle text : Text) (index : Nat) : Prop :=
  ∃ front back, text = front ++ needle ++ back ∧ front.length = index

/-- At the front of a text occurs what the text begins with. -/
theorem occursAt_zero_iff : OccursAt needle text 0 ↔ needle <+: text := by
  constructor
  · rintro ⟨front, back, rfl, none_⟩
    obtain rfl := List.eq_nil_of_length_eq_zero none_
    exact List.prefix_append needle back
  · rintro ⟨back, rfl⟩
    exact ⟨[], back, rfl, rfl⟩

/-- Behind the first character occurs what occurs in the rest. -/
theorem occursAt_succ_iff {char : Char} {rest : Text} :
    OccursAt needle (char :: rest) (index + 1) ↔ OccursAt needle rest index := by
  constructor
  · rintro ⟨front, back, same, size⟩
    -- What stands in front is not empty, so it begins with the first character.
    cases front with
    | nil => exact absurd size (Nat.succ_ne_zero index).symm
    | cons first front =>
      obtain ⟨-, rfl⟩ := List.cons.inj same
      exact ⟨front, back, rfl, Nat.succ.inj size⟩
  · rintro ⟨front, back, rfl, rfl⟩
    exact ⟨char :: front, back, rfl, rfl⟩

/-- In the empty text only the empty text occurs. -/
theorem occursAt_nil_iff : OccursAt needle [] index ↔ needle = [] ∧ index = 0 := by
  constructor
  · rintro ⟨front, back, same, rfl⟩
    obtain ⟨both, -⟩ := List.append_eq_nil_iff.mp same.symm
    obtain ⟨rfl, rfl⟩ := List.append_eq_nil_iff.mp both
    exact ⟨rfl, rfl⟩
  · rintro ⟨rfl, rfl⟩
    exact ⟨[], [], rfl, rfl⟩

/-- What occurs in a text ends in it. -/
theorem OccursAt.add_length_le (occurs : OccursAt needle text index) :
    index + needle.length ≤ text.length := by
  obtain ⟨front, back, rfl, rfl⟩ := occurs
  simp only [List.length_append]
  omega

/-- What occurs at a place is found there again when the text is cut. -/
theorem OccursAt.take_drop (occurs : OccursAt needle text index) :
    (text.drop index).take needle.length = needle := by
  obtain ⟨front, back, rfl, rfl⟩ := occurs
  rw [List.append_assoc, List.drop_left, List.take_left]

/-- Behind some characters of a text occurs what occurs in the rest of it. -/
theorem occursAt_drop_iff (inside : skipped ≤ text.length) :
    OccursAt needle (text.drop skipped) index ↔ OccursAt needle text (skipped + index) := by
  -- One character after the other is passed over.
  induction skipped generalizing text with
  | zero => rw [List.drop_zero, Nat.zero_add]
  | succ skipped ih =>
    cases text with
    | nil => exact absurd inside (Nat.not_succ_le_zero skipped)
    | cons char rest =>
      rw [List.drop_succ_cons, Nat.add_right_comm, occursAt_succ_iff]
      exact ih (Nat.le_of_succ_le_succ inside)

/-- What occurs at a place stands at the front of the rest. -/
theorem occursAt_iff :
    OccursAt needle text index ↔ index ≤ text.length ∧ needle <+: text.drop index := by
  constructor
  · intro occurs
    have inside : index ≤ text.length := Nat.le_of_add_right_le occurs.add_length_le
    exact ⟨inside, occursAt_zero_iff.mp ((occursAt_drop_iff inside).mpr occurs)⟩
  · rintro ⟨inside, stands⟩
    exact (occursAt_drop_iff inside).mp (occursAt_zero_iff.mpr stands)

instance (needle text : Text) (index : Nat) : Decidable (OccursAt needle text index) :=
  decidable_of_iff _ occursAt_iff.symm

/-- A place is the first one behind the characters that are passed over. -/
structure IsFirstFrom (needle text : Text) (skipped index : Nat) : Prop where
  behind : skipped ≤ index
  occurs : OccursAt needle text index
  least : ∀ other, skipped ≤ other → OccursAt needle text other → index ≤ other

/-- There is only one first place. -/
theorem IsFirstFrom.unique {other : Nat} (one : IsFirstFrom needle text skipped index)
    (two : IsFirstFrom needle text skipped other) : index = other := by
  have low : index ≤ other := one.least other two.behind two.occurs
  have high : other ≤ index := two.least index one.behind one.occurs
  exact Nat.le_antisymm low high

/-- What a text begins with is first found at its front. -/
theorem isFirstFrom_front (stands : needle <+: text) : IsFirstFrom needle text 0 0 where
  behind := Nat.le_refl 0
  occurs := occursAt_zero_iff.mpr stands
  least other _ _ := Nat.zero_le other

/-- What does not stand at the front is first found where it is first found in the rest. -/
theorem isFirstFrom_zero_cons_iff {char : Char} {rest : Text}
    (later : ¬ needle <+: char :: rest) :
    IsFirstFrom needle (char :: rest) 0 (index + 1) ↔ IsFirstFrom needle rest 0 index := by
  constructor
  · intro first
    refine ⟨Nat.zero_le index, occursAt_succ_iff.mp first.occurs, fun other _ occurs => ?_⟩
    exact Nat.le_of_succ_le_succ (first.least _ (Nat.zero_le _) (occursAt_succ_iff.mpr occurs))
  · intro first
    refine ⟨Nat.zero_le _, occursAt_succ_iff.mpr first.occurs, fun other _ occurs => ?_⟩
    -- The front is no place, and every other place lies in the rest.
    cases other with
    | zero => exact absurd (occursAt_zero_iff.mp occurs) later
    | succ other =>
      exact Nat.succ_le_succ (first.least other (Nat.zero_le _) (occursAt_succ_iff.mp occurs))

/-- The search finds exactly the first place. -/
theorem indexOf?_eq_some_iff :
    indexOf? needle text = some index ↔ IsFirstFrom needle text 0 index := by
  -- The search looks at the front and then in the rest, and so do the places.
  induction text generalizing index with
  | nil =>
    simp only [indexOf?, List.isEmpty_iff]
    constructor
    · intro found
      split at found
      · rename_i empty
        obtain rfl := Option.some.inj found
        exact isFirstFrom_front (List.prefix_nil.mpr empty)
      · exact absurd found (by simp)
    · intro first
      obtain ⟨empty, rfl⟩ := occursAt_nil_iff.mp first.occurs
      rw [if_pos empty]
  | cons char rest ih =>
    rw [indexOf?]
    split
    · -- What stands at the front is found there.
      rename_i here
      have first := isFirstFrom_front (List.isPrefixOf_iff_prefix.mp here)
      constructor
      · intro found
        obtain rfl := Option.some.inj found
        exact first
      · intro other
        rw [first.unique other]
    · -- Else the search goes on in the rest, one character further.
      rename_i later
      have later : ¬ needle <+: char :: rest := fun front =>
        later (List.isPrefixOf_iff_prefix.mpr front)
      cases index with
      | zero =>
        constructor
        · intro found
          simp at found
        · intro first
          exact absurd (occursAt_zero_iff.mp first.occurs) later
      | succ index =>
        rw [isFirstFrom_zero_cons_iff later, ← ih]
        simp

/-- Where a text occurs there is a first place. -/
theorem exists_isFirstFrom (occurs : OccursAt needle text index) (behind : skipped ≤ index) :
    ∃ first, IsFirstFrom needle text skipped first := by
  classical
  -- The least number with both properties.
  have some_ : ∃ place, skipped ≤ place ∧ OccursAt needle text place := ⟨index, behind, occurs⟩
  obtain ⟨passed, found⟩ := Nat.find_spec some_
  exact ⟨Nat.find some_, passed, found, fun other reached there =>
    Nat.find_min' some_ ⟨reached, there⟩⟩

/-- The search finds nothing exactly if there is no place. -/
theorem indexOf?_eq_none_iff :
    indexOf? needle text = none ↔ ∀ index, ¬ OccursAt needle text index := by
  constructor
  · -- A place would mean a first one, and the search finds that.
    intro missing index occurs
    obtain ⟨first, isFirst⟩ := exists_isFirstFrom occurs (Nat.zero_le index)
    exact Option.some_ne_none first ((indexOf?_eq_some_iff.mpr isFirst).symm.trans missing)
  · intro nowhere
    cases found : indexOf? needle text with
    | none => rfl
    | some index => exact absurd (indexOf?_eq_some_iff.mp found).occurs (nowhere index)

/-- The first place behind some characters is the first one in the rest. -/
theorem isFirstFrom_drop_iff (inside : skipped ≤ text.length) :
    IsFirstFrom needle (text.drop skipped) 0 index ↔
      IsFirstFrom needle text skipped (skipped + index) := by
  constructor
  · intro first
    refine ⟨Nat.le_add_right skipped index, (occursAt_drop_iff inside).mp first.occurs, ?_⟩
    intro other reached occurs
    -- Places behind the characters that are passed over are places in the rest, so many further
    -- back.
    obtain ⟨beyond, rfl⟩ := Nat.exists_eq_add_of_le reached
    have least := first.least beyond (Nat.zero_le _) ((occursAt_drop_iff inside).mpr occurs)
    omega
  · intro first
    refine ⟨Nat.zero_le index, (occursAt_drop_iff inside).mpr first.occurs, ?_⟩
    intro other _ occurs
    have least := first.least (skipped + other) (Nat.le_add_right skipped other)
      ((occursAt_drop_iff inside).mp occurs)
    omega

/-- The position of a search is one more than the first place behind the characters that are passed
over. -/
theorem position_eq_succ_iff {start : Int} :
    position start text needle = index + 1 ↔
      IsFirstFrom needle text (passedOver start text.length).toNat index := by
  -- The number of characters that are passed over is never negative.
  have nonneg : 0 ≤ passedOver start text.length := by
    unfold passedOver
    split <;> omega
  simp only [position, Int.ofNat_eq_natCast]
  generalize passedOver start text.length = passed at nonneg
  obtain ⟨skipped, rfl⟩ := Int.eq_ofNat_of_zero_le nonneg
  rw [Int.toNat_natCast]
  split
  · rename_i beyond
    -- No place lies behind the end.
    constructor
    · intro found
      exact absurd found (Nat.succ_ne_zero index).symm
    · intro first
      have ends := first.occurs.add_length_le
      have behind := first.behind
      omega
  · rename_i inside
    have inside : skipped ≤ text.length := by omega
    cases found : indexOf? needle (text.drop skipped) with
    | none =>
      constructor
      · intro same
        exact absurd same (Nat.succ_ne_zero index).symm
      · intro first
        obtain ⟨beyond, rfl⟩ := Nat.exists_eq_add_of_le first.behind
        have occurs := (occursAt_drop_iff inside).mpr first.occurs
        exact absurd occurs (indexOf?_eq_none_iff.mp found beyond)
    | some place =>
      -- A first place in what is left is a first place behind the characters that are passed over.
      have isFirst := (isFirstFrom_drop_iff inside).mp (indexOf?_eq_some_iff.mp found)
      constructor
      · intro same
        obtain rfl : skipped + place = index := Nat.succ.inj same
        exact isFirst
      · intro first
        exact congrArg (· + 1) (isFirst.unique first)

/-- The position of a search is zero exactly if there is no place behind the characters that are
passed over. -/
theorem position_eq_zero_iff {start : Int} :
    position start text needle = 0 ↔
      ∀ index, (passedOver start text.length).toNat ≤ index → ¬ OccursAt needle text index := by
  constructor
  · -- A place would mean a first one, and its position would not be zero.
    intro zero index behind occurs
    obtain ⟨first, isFirst⟩ := exists_isFirstFrom occurs behind
    exact Nat.succ_ne_zero first ((position_eq_succ_iff.mpr isFirst).symm.trans zero)
  · intro nowhere
    cases found : position start text needle with
    | zero => rfl
    | succ index =>
      have isFirst := position_eq_succ_iff.mp found
      exact absurd isFirst.occurs (nowhere index isFirst.behind)

/-- The position of a search is at most so great, and not zero, exactly if there is a place before
that position behind the characters that are passed over. -/
theorem position_le_iff {start : Int} {bound : Nat} :
    0 < position start text needle ∧ position start text needle ≤ bound ↔
      ∃ index < bound, (passedOver start text.length).toNat ≤ index ∧
        OccursAt needle text index := by
  constructor
  · rintro ⟨found, small⟩
    -- A position that is not zero is that of the first place.
    obtain ⟨index, same⟩ := Nat.exists_eq_succ_of_ne_zero (Nat.ne_of_gt found)
    have first := position_eq_succ_iff.mp same
    exact ⟨index, by omega, first.behind, first.occurs⟩
  · rintro ⟨index, below, behind, occurs⟩
    -- The first place comes no later than the one that is given.
    obtain ⟨first, isFirst⟩ := exists_isFirstFrom occurs behind
    have least := isFirst.least index behind occurs
    rw [position_eq_succ_iff.mpr isFirst]
    omega

section Mark

variable {mark : Char} {head tail : Text}

/-- The first mark stands behind a text without it. -/
theorem splitOnce?_append {front : Text} (absent : mark ∉ front) (back : Text) :
    splitOnce? mark (front ++ mark :: back) = some (front, back) := by
  induction front with
  | nil => simp [splitOnce?]
  | cons char rest ih =>
    obtain ⟨other, absent⟩ := List.ne_and_not_mem_of_not_mem_cons absent
    simp [splitOnce?, Ne.symm other, ih absent]

/-- A text is cut exactly if the mark stands in it. -/
theorem splitOnce?_isSome_iff : (splitOnce? mark text).isSome = true ↔ mark ∈ text := by
  induction text with
  | nil => simp [splitOnce?]
  | cons char rest ih =>
    by_cases here : char = mark
    · simp [splitOnce?, here]
    · simp [splitOnce?, here, Ne.symm here, ih]

/-- A text is cut around the first mark in it. -/
theorem splitOnce?_eq_some_iff :
    splitOnce? mark text = some (head, tail) ↔ mark ∉ head ∧ text = head ++ mark :: tail := by
  refine ⟨fun found => ⟨fun inside => ?_, splitOnce?_source found⟩, ?_⟩
  · -- A mark in the head would stand before the one at which the text is cut.
    obtain ⟨front, back, rfl, absent⟩ := List.eq_append_cons_of_mem inside
    rw [splitOnce?_source found, List.append_assoc, List.cons_append,
      splitOnce?_append absent] at found
    have lengths := congrArg (fun parts => parts.map fun cut => cut.1.length) found
    simp at lengths
  · rintro ⟨absent, rfl⟩
    exact splitOnce?_append absent tail

end Mark

section Run

variable {test : Char → Bool} {mark : Char} {run rest : Text}

/-- A run is taken up to a mark that does not pass the test. -/
theorem takeWhile_append_mark (passes : ∀ char ∈ run, test char = true)
    (stops : test mark = false) (rest : Text) :
    (run ++ mark :: rest).takeWhile test = run := by
  rw [List.takeWhile_append_of_pos passes, List.takeWhile_cons_of_neg (by simp [stops]),
    List.append_nil]

/-- What follows a run begins with a mark that does not pass the test. -/
theorem dropWhile_append_mark (passes : ∀ char ∈ run, test char = true)
    (stops : test mark = false) (rest : Text) :
    (run ++ mark :: rest).dropWhile test = mark :: rest := by
  rw [List.dropWhile_append_of_pos passes, List.dropWhile_cons_of_neg (by simp [stops])]

/-- A run is read if it is not empty and the mark comes next. -/
theorem runBefore?_eq (test : Char → Bool) (mark : Char) (text : Text) :
    runBefore? test mark text =
      if text.takeWhile test ≠ [] ∧ (text.dropWhile test).head? = some mark then
        some (text.takeWhile test, (text.dropWhile test).tail)
      else none := by
  unfold runBefore?
  split
  · -- Both conditions can be read off the two parts.
    rename_i taken dropped
    simp [taken, dropped]
  · -- If both conditions held, the first case of the definition would apply.
    rename_i other
    rw [if_neg]
    rintro ⟨filled, follows⟩
    obtain ⟨first, others, taken⟩ := List.exists_cons_of_ne_nil filled
    obtain ⟨behind, dropped⟩ := List.head?_eq_some_iff.mp follows
    exact other first others mark behind taken dropped

/-- A run is read exactly if it stands there with the mark behind it. -/
theorem runBefore?_eq_some_iff (stops : test mark = false) :
    runBefore? test mark text = some (run, rest) ↔
      run ≠ [] ∧ (∀ char ∈ run, test char = true) ∧ text = run ++ mark :: rest := by
  constructor
  · intro found
    have parts := runBefore?_source found
    rw [runBefore?_eq] at found
    obtain ⟨⟨filled, -⟩, cut⟩ := Option.ite_none_right_eq_some.mp found
    obtain ⟨rfl, -⟩ := Prod.mk.inj (Option.some.inj cut)
    exact ⟨filled, fun char inside => List.mem_takeWhile_imp inside, parts⟩
  · -- The mark does not pass the test, so the run is taken up to it and no further.
    rintro ⟨filled, passes, rfl⟩
    rw [runBefore?_eq, takeWhile_append_mark passes stops, dropWhile_append_mark passes stops,
      if_pos ⟨filled, rfl⟩, List.tail_cons]

end Run

end Docket.Text
