import Docket.Proofs.Function.Slicing
import Docket.Proofs.Text.ByteSearch
import Docket.Proofs.Text.Lowering

/-!
The function that finds a text in another one.

Where the case counts it gives the position of the first place at which the text occurs behind the
characters that are passed over, and zero exactly if there is none. The characters from a position
that is not zero on begin with the text that was looked for. No step of the reckoning leaves the 64
bits or cuts through a character.
-/

namespace Docket.Function

variable (environment : Environment) (resources : Resources) {text search written : Text}

/-- The function of the position gives it for every start that it can read. Without a flag, and with
one that is on, the case counts. -/
theorem indexOf_call {start : Int64} (reads : integer 0 written = .ok start) (flag : Option Text) :
    indexOf.call environment (written :: text :: search :: flag.toList) resources =
      let shape := if isOn flag then id else Text.lower
      (.ok (Text.ofNat (Text.position start.toInt (shape text) (shape search))), resources) := by
  -- A flag chooses the shape of both texts, and the reading of the start may fail before.
  have run : indexOf.call environment (written :: text :: search :: flag.toList) resources =
      ((integer 0 written).map fun number =>
        let shape := if isOn flag then id else Text.lower
        Text.ofNat (Text.position number.toInt (shape text) (shape search)), resources) := by
    cases flag <;> rfl
  rw [run, reads]
  rfl

/-- The function of the length gives the number of characters. -/
theorem length_call (text : Text) :
    length.call environment [text] resources = (.ok (Text.ofNat text.length), resources) :=
  rfl

/-- From a place at which a text occurs on, so many characters are that text. -/
theorem mid_call_of_occursAt {index : Nat} (short : text.length < 2 ^ 63) (filled : search ≠ [])
    (occurs : Text.OccursAt search text index) :
    mid.call environment [text, Text.ofNat (index + 1), Text.ofNat search.length] resources =
      (.ok search, resources) := by
  have signs : Text.negativeCount = 2 ^ 63 := rfl
  have ends := occurs.add_length_le
  have some_ := List.length_pos_iff.mpr filled
  -- Both numbers are no greater than the length of the text, so they are read as they are written.
  have number (count : Nat) (small : count ≤ text.length) (place : Nat) :
      integer place (Text.ofNat count) = .ok (Int64.ofInt count) ∧
        (Int64.ofInt count).toInt = count := by
    have fits : Text.fits count = true := by simp only [Text.fits, signs]; simp; omega
    exact ⟨by rw [integer_ofNat, if_pos fits], Text.toInt_ofInt_of_fits fits⟩
  obtain ⟨starts, start⟩ := number (index + 1) (by omega) 1
  obtain ⟨sizes, size⟩ := number search.length (by omega) 2
  have inside : ¬ ((search.length : Nat) : Int) < 1 - max (((index + 1 : Nat) : Int)) 1 := by omega
  have cut : (max (((index + 1 : Nat) : Int)) 1 - 1).toNat = index := by omega
  rw [mid_call_length environment resources starts sizes, start, size,
    Text.mid_some short _ (by omega), if_neg inside, cut, Int.toNat_natCast, occurs.take_drop]

/--
The position of the first place at which a text occurs.

For every text, every text that is looked for and every start, however the start is written, the
function gives a number. It is zero exactly if the text occurs at no place behind the characters
that are passed over, and it is one more than a place exactly if that is the first such place. The
characters from a position that is not zero on begin with the text, if that is not empty. For a text
that a memory can hold the same number is found with offsets in bytes and words of 64 bits.
-/
theorem indexOf_exact (start : Int64) (text search : Text) :
    let skipped :=
      (if start.toInt < 0 then max (text.length + start.toInt) 0 else start.toInt).toNat
    ∃ place : Nat,
      (∀ written, integer 0 written = .ok start → ∀ flag : Option Text, isOn flag = true →
        indexOf.call environment (written :: text :: search :: flag.toList) resources =
          (.ok (Text.ofNat place), resources)) ∧
      integer 0 (Text.ofInt64 start) = .ok start ∧
      (place = 0 ↔ ∀ index, skipped ≤ index → ¬ Text.OccursAt search text index) ∧
      (∀ index, place = index + 1 ↔ Text.IsFirstFrom search text skipped index) ∧
      (text.length < 2 ^ 63 → search ≠ [] → place ≠ 0 →
        ∃ size, length.call environment [search] resources = (.ok size, resources) ∧
          mid.call environment [text, Text.ofNat place, size] resources =
            (.ok search, resources)) ∧
      (Text.byteLength text < 2 ^ 63 → ∃ word,
        Text.InWords.position? start text search = some word ∧ word.toNat = place) := by
  intro skipped
  -- The place is the position of the search, about which all parts are already known.
  refine ⟨Text.position start.toInt text search, ?_, integer_ofInt64 0 start,
    Text.position_eq_zero_iff, fun index => Text.position_eq_succ_iff, ?_, ?_⟩
  · intro written reads flag on
    rw [indexOf_call environment resources reads flag, on]
    rfl
  · intro short filled found
    -- Such a position is that of a place, at which the text stands in full.
    obtain ⟨index, same⟩ := Nat.exists_eq_succ_of_ne_zero found
    have first := Text.position_eq_succ_iff.mp same
    refine ⟨_, length_call environment resources search, ?_⟩
    rw [same]
    exact mid_call_of_occursAt environment resources short filled first.occurs
  · intro short
    exact Text.InWords.position?_eq short start search

/-- What stands twice in a text is found the second time if the search begins behind the first. -/
theorem indexOf_exact_wide :
    let text := "Größe Größe".toList
    let search := "öß".toList
    let here := Scope.standard.environment
    ∃ place size, place = 9 ∧
      indexOf.call here [" -4".toList, text, search] .fresh = (.ok (Text.ofNat place), .fresh) ∧
      length.call here [search] .fresh = (.ok size, .fresh) ∧
      mid.call here [text, Text.ofNat place, size] .fresh = (.ok search, .fresh) ∧
      ∃ word, Text.InWords.position? (-4) text search = some word ∧ word.toNat = place := by
  intro text search here
  obtain ⟨place, calls, -, -, exactly, taken, words⟩ := indexOf_exact here .fresh (-4) text search
  have nine : place = 9 := by
    refine (exactly 8).mpr ⟨by decide, by decide, fun other behind occurs => ?_⟩
    -- Only the place directly behind the characters that are passed over comes before.
    have elsewhere : ¬ Text.OccursAt search text 7 := by decide
    have apart : other ≠ 7 := fun same => elsewhere (same ▸ occurs)
    have reached : 7 ≤ other := behind
    omega
  obtain ⟨size, sized, same⟩ := taken (by decide) (by decide) (by omega)
  exact ⟨place, size, nine, calls _ (by decide +kernel) none rfl, sized, same, words (by decide)⟩

/--
A search that ignores the case finds what a search finds that does not, and no later: this is so
exactly if the match keeps its form and its place in the text in lower case, or there is another
match there.

The match keeps its form exactly if each of its capital sigmas is final in the text and in the text
that is looked for, or in none of them. It keeps its place exactly if no capital I with a dot stands
before it. So it keeps both if the text has no such I and the text that is looked for no sigma.
-/
theorem indexOf_ignoring_case_iff (text search : Text) :
    ∃ place other : Nat,
      (∀ start, integer 0 start = .ok 0 →
        (∀ flag : Option Text, isOn flag = true →
          indexOf.call environment (start :: text :: search :: flag.toList) resources =
            (.ok (Text.ofNat place), resources)) ∧
        ∀ flag, isOn (some flag) = false →
          indexOf.call environment [start, text, search, flag] resources =
            (.ok (Text.ofNat other), resources)) ∧
      (0 < place → ∃ front back, text = front ++ search ++ back ∧ place = front.length + 1 ∧
        (0 < other ∧ other ≤ place ↔
          'İ' ∉ front ∧ Text.KeepsSigmas front search back ∨
            ∃ index < place, index ≠ front.length + front.count 'İ' ∧
              Text.OccursAt (Text.lower search) (Text.lower text) index) ∧
        ('İ' ∉ text → 'Σ' ∉ search → 0 < other ∧ other ≤ place)) := by
  -- The two numbers are the positions of the two searches.
  refine ⟨Text.position 0 text search, Text.position 0 (Text.lower text) (Text.lower search),
    fun start reads => ⟨fun flag on => ?_, fun flag off => ?_⟩, fun found => ?_⟩
  · rw [indexOf_call environment resources reads flag, on]
    rfl
  · have call := @indexOf_call environment resources text search start 0 reads (some flag)
    rw [off] at call
    exact call
  · -- A match cuts the text into what comes before it, itself and what comes behind it.
    obtain ⟨index, same⟩ := Nat.exists_eq_succ_of_ne_zero (Nat.ne_of_gt found)
    obtain ⟨front, back, whole, rfl⟩ := (Text.position_eq_succ_iff.mp same).occurs
    have kept : 0 < Text.position 0 (Text.lower text) (Text.lower search) ∧
        Text.position 0 (Text.lower text) (Text.lower search) ≤ Text.position 0 text search ↔
          'İ' ∉ front ∧ Text.KeepsSigmas front search back ∨
            ∃ index < Text.position 0 text search, index ≠ front.length + front.count 'İ' ∧
              Text.OccursAt (Text.lower search) (Text.lower text) index := by
      rw [same, whole]
      exact Text.position_lower_le_iff
    refine ⟨front, back, whole, same, kept, fun undotted plain => kept.mpr (.inl ⟨?_, ?_⟩)⟩
    · rw [whole, List.append_assoc] at undotted
      exact fun inside => undotted (List.mem_append_left _ inside)
    · exact Text.keepsSigmas_of_not_mem plain

/-- A word is found earlier where it is written in capitals. -/
theorem indexOf_ignoring_case_earlier :
    let text := "ÖL Öl".toList
    let search := "Öl".toList
    let here := Scope.standard.environment
    ∃ place other, place = 4 ∧ 0 < other ∧ other ≤ place ∧
      indexOf.call here [['0'], text, search] .fresh = (.ok (Text.ofNat place), .fresh) ∧
      indexOf.call here [['0'], text, search, "false".toList] .fresh =
        (.ok (Text.ofNat other), .fresh) := by
  intro text search here
  obtain ⟨place, other, calls, kept⟩ := indexOf_ignoring_case_iff here .fresh text search
  obtain ⟨exactly, loosely⟩ := calls ['0'] (by decide)
  have call : indexOf.call here [['0'], text, search] .fresh = (.ok (Text.ofNat place), .fresh) :=
    exactly none rfl
  have four : place = 4 := by
    -- The call gives the number four, and each number has its own decimal form.
    have shown : (indexOf.call here [['0'], text, search] .fresh).1 = .ok ['4'] := by
      decide +kernel
    rw [call] at shown
    have digits : Text.ofNat place = ['4'] := Except.ok.inj shown
    have read := Text.natural?_ofNat place
    rw [digits] at read
    exact (Option.some.inj read).symm
  -- Neither text has a capital I with a dot or a sigma, so the match is kept.
  obtain ⟨front, back, -, -, -, plain⟩ := kept (by omega)
  obtain ⟨found, early⟩ := plain (by decide) (by decide)
  exact ⟨place, other, four, found, early, call, loosely _ (by decide)⟩

/-- A sigma that is final in the text that is looked for is not found within a word, and a capital I
with a dot moves what stands behind it. -/
theorem indexOf_ignoring_case_loses :
    let here := Scope.standard.environment
    (∃ place other, 0 < place ∧ ¬ (0 < other ∧ other ≤ place) ∧
      (indexOf.call here [['0'], "αΣβ".toList, "αΣ".toList] .fresh).1 = .ok (Text.ofNat place) ∧
      (indexOf.call here [['0'], "αΣβ".toList, "αΣ".toList, "false".toList] .fresh).1 =
        .ok (Text.ofNat other)) ∧
    ∃ place other, 0 < other ∧ place < other ∧
      (indexOf.call here [['0'], "İa".toList, ['a']] .fresh).1 = .ok (Text.ofNat place) ∧
      (indexOf.call here [['0'], "İa".toList, ['a'], "false".toList] .fresh).1 =
        .ok (Text.ofNat other) :=
  -- In the first search nothing is found, in the second one the match comes later.
  ⟨⟨1, 0, by decide +kernel⟩, ⟨2, 3, by decide +kernel⟩⟩

end Docket.Function
