import Docket.Proofs.Text.Bytes
import Docket.Proofs.Text.Search
import Docket.Proofs.Text.Slice

/-!
Searching a text by its bytes.

The bytes of a text stand among those of another one only where the text itself does: a character
begins with a byte that never stands within a character, and no character begins like another one.
So the first place that is found among the bytes is the first place among the characters.

The position of a search is reckoned here with offsets in bytes and in words of 64 bits, where every
step gives its exact result or nothing at all. For the texts that a memory can hold there is a
result for every start, and it is the position that is reckoned in characters.
-/

namespace Docket.Text

variable {needle text : Text}

/-- A character is a byte that begins one and bytes that continue it. -/
theorem exists_lead_tails (char : Char) : ∃ first others,
    String.utf8EncodeChar char = first :: others ∧ isTail first = false ∧
      ∀ byte ∈ others, isTail byte = true := by
  have bound : char.val.toNat < 0x110000 := by
    rcases char.valid with low | high
    · exact Nat.lt_trans low (by omega)
    · exact high.2
  -- A byte that continues a character carries six bits above 128.
  have tail (number : Nat) : isTail (UInt8.ofNat (number % 64 + 128)) = true := by
    simp only [isTail, Bool.and_eq_true, decide_eq_true_eq, UInt8.le_iff_toNat_le,
      UInt8.toNat_ofNat']
    exact ⟨show 128 ≤ (number % 64 + 128) % 256 by omega,
      show (number % 64 + 128) % 256 ≤ 191 by omega⟩
  -- A byte that begins one lies below 128 or from 192 on.
  have lead {number : Nat} (outside : number < 128 ∨ 192 ≤ number) (small : number < 256) :
      isTail (UInt8.ofNat number) = false := by
    simp only [isTail, Bool.and_eq_false_iff, decide_eq_false_iff_not, UInt8.le_iff_toNat_le,
      UInt8.toNat_ofNat', Nat.mod_eq_of_lt small]
    rcases outside with low | high
    · exact .inl (show ¬ 128 ≤ number by omega)
    · exact .inr (show ¬ number ≤ 191 by omega)
  -- The four cases are the four lengths of a character.
  unfold String.utf8EncodeChar
  generalize char.val.toNat = value at bound
  dsimp only
  split
  · exact ⟨_, _, rfl, lead (by omega) (by omega), List.forall_mem_nil _⟩
  · split
    · exact ⟨_, _, rfl, lead (by omega) (by omega), List.forall_mem_singleton.mpr (tail _)⟩
    · split
      · refine ⟨_, _, rfl, lead (by omega) (by omega), ?_⟩
        simp only [List.forall_mem_cons]
        exact ⟨tail _, tail _, List.forall_mem_nil _⟩
      · refine ⟨_, _, rfl, lead (by omega) (by omega), ?_⟩
        simp only [List.forall_mem_cons]
        exact ⟨tail _, tail _, tail _, List.forall_mem_nil _⟩

/-- No character begins like another one. -/
theorem utf8EncodeChar_append_inj {a b : Char} {left right : List UInt8}
    (same : String.utf8EncodeChar a ++ left = String.utf8EncodeChar b ++ right) :
    a = b ∧ left = right := by
  -- Of two different characters the one with the lower code point has the lower bytes.
  have equal : a = b := by
    by_contra other
    have apart : a.val ≠ b.val := fun codes => other (Char.ext codes)
    rcases UInt32.lt_or_lt_of_ne apart with less | more
    · exact List.lt_irrefl _ (same ▸ utf8EncodeChar_lt less left right)
    · exact List.lt_irrefl _ (same ▸ utf8EncodeChar_lt more right left)
  subst equal
  exact ⟨rfl, List.append_cancel_left same⟩

/-- The bytes of a text begin with those of another one exactly if the text begins with it. -/
theorem utf8_prefix_iff : utf8 needle <+: utf8 text ↔ needle <+: text := by
  constructor
  · intro front
    -- One character after the other is the same.
    induction needle generalizing text with
    | nil => exact List.nil_prefix
    | cons char others ih =>
      obtain ⟨back, whole⟩ := front
      rw [utf8_cons, List.append_assoc] at whole
      cases text with
      | nil =>
        obtain ⟨none_, -⟩ := List.append_eq_nil_iff.mp whole
        exact absurd none_ (utf8EncodeChar_ne_nil char)
      | cons first rest =>
        rw [utf8_cons] at whole
        obtain ⟨rfl, same⟩ := utf8EncodeChar_append_inj whole
        exact (List.prefix_cons_inj char).mpr (ih ⟨back, same⟩)
  · rintro ⟨back, rfl⟩
    rw [utf8_append]
    exact List.prefix_append _ _

/-- Within a character no text begins. -/
theorem not_prefix_drop_utf8EncodeChar (filled : needle ≠ []) {char : Char} {offset : Nat}
    (behind : 0 < offset) (inside : offset < char.utf8Size) (rest : List UInt8) :
    ¬ utf8 needle <+: (String.utf8EncodeChar char ++ rest).drop offset := by
  obtain ⟨first, others, bytes, -, tails⟩ := exists_lead_tails char
  have size : others.length + 1 = char.utf8Size := by
    rw [← String.length_utf8EncodeChar, bytes, List.length_cons]
  obtain ⟨before, rfl⟩ := Nat.exists_eq_succ_of_ne_zero (Nat.ne_of_gt behind)
  rw [bytes, List.cons_append, List.drop_succ_cons, List.drop_append_of_le_length (by omega)]
  -- The next byte continues the character, and the first one of the text does not.
  obtain ⟨byte, left, further⟩ := List.exists_cons_of_length_pos
    (show 0 < (others.drop before).length by rw [List.length_drop]; omega)
  have continues : isTail byte = true :=
    tails byte (List.mem_of_mem_drop (further ▸ List.mem_cons_self))
  obtain ⟨lead, more, rfl⟩ := List.exists_cons_of_ne_nil filled
  obtain ⟨start, ends, begins, opens, -⟩ := exists_lead_tails lead
  rintro ⟨back, same⟩
  rw [further, utf8_cons, begins] at same
  obtain ⟨rfl, -⟩ := List.cons.inj same
  exact Bool.false_ne_true (opens.symm.trans continues)

/-- The bytes of a text stand behind an offset exactly if the text itself does. -/
theorem prefix_drop_utf8_iff (filled : needle ≠ []) {offset : Nat} :
    utf8 needle <+: (utf8 text).drop offset ↔
      ∃ front back, text = front ++ needle ++ back ∧ byteLength front = offset := by
  constructor
  · intro stands
    induction text generalizing offset with
    | nil =>
      -- Behind nothing there is nothing.
      rw [utf8_nil, List.drop_nil, ← utf8_nil, utf8_prefix_iff, List.prefix_nil] at stands
      exact absurd stands filled
    | cons char rest ih =>
      by_cases start : offset = 0
      · subst start
        rw [List.drop_zero, utf8_prefix_iff] at stands
        obtain ⟨back, whole⟩ := stands
        exact ⟨[], back, whole.symm, rfl⟩
      · rw [utf8_cons] at stands
        by_cases inside : offset < char.utf8Size
        · exact absurd stands
            (not_prefix_drop_utf8EncodeChar filled (Nat.pos_of_ne_zero start) inside _)
        · -- The offset lies behind the first character.
          have passed :
              offset = (String.utf8EncodeChar char).length + (offset - char.utf8Size) := by
            rw [String.length_utf8EncodeChar]
            omega
          rw [passed, List.drop_length_add_append] at stands
          obtain ⟨front, back, rfl, size⟩ := ih stands
          refine ⟨char :: front, back, rfl, ?_⟩
          rw [byteLength_cons, size]
          omega
  · rintro ⟨front, back, rfl, rfl⟩
    rw [List.append_assoc, drop_utf8, utf8_append]
    exact List.prefix_append _ _

/-- The least offset at which bytes stand among others. -/
def firstAt? (needle bytes : List UInt8) : Option Nat :=
  (List.range (bytes.length + 1)).find? fun offset => needle.isPrefixOf (bytes.drop offset)

/-- A front part of a text takes no more bytes than a longer one. -/
theorem byteLength_mono {front text : Text} (stands : front <+: text) :
    byteLength front ≤ byteLength text := by
  obtain ⟨rest, rfl⟩ := stands
  rw [byteLength_append]
  exact Nat.le_add_right _ _

/-- The first offset among the bytes is that of the first place among the characters. -/
theorem firstAt?_utf8 (needle text : Text) :
    firstAt? (utf8 needle) (utf8 text) =
      (indexOf? needle text).map fun index => byteLength (text.take index) := by
  unfold firstAt?
  cases found : indexOf? needle text with
  | none =>
    have nowhere := indexOf?_eq_none_iff.mp found
    have filled : needle ≠ [] := by
      rintro rfl
      exact nowhere 0 (occursAt_zero_iff.mpr List.nil_prefix)
    rw [Option.map_none, List.find?_range_eq_none]
    intro offset _
    rw [Bool.not_eq_true', ← Bool.not_eq_true, List.isPrefixOf_iff_prefix]
    intro stands
    obtain ⟨front, back, whole, -⟩ := (prefix_drop_utf8_iff filled).mp stands
    exact nowhere front.length ⟨front, back, whole, rfl⟩
  | some index =>
    have first := indexOf?_eq_some_iff.mp found
    obtain ⟨front, back, whole, size⟩ := first.occurs
    have cut : text.take index = front := by
      rw [whole, List.append_assoc, ← size, List.take_left]
    rw [Option.map_some, cut, List.find?_range_eq_some]
    refine ⟨?_, ?_, ?_⟩
    · rw [List.isPrefixOf_iff_prefix, whole, List.append_assoc, drop_utf8, utf8_append]
      exact List.prefix_append _ _
    · rw [List.mem_range, length_utf8]
      have inside : front <+: text := cut ▸ List.take_prefix index text
      exact Nat.lt_succ_of_le (byteLength_mono inside)
    · intro offset before
      rw [Bool.not_eq_true', ← Bool.not_eq_true, List.isPrefixOf_iff_prefix]
      intro stands
      by_cases filled : needle = []
      · -- The empty text stands at the front, before which there is nothing.
        subst filled
        have start := first.least 0 (Nat.le_refl 0) (occursAt_zero_iff.mpr List.nil_prefix)
        obtain rfl := List.eq_nil_of_length_eq_zero (size.trans (Nat.le_zero.mp start))
        exact Nat.not_lt_zero offset before
      · obtain ⟨earlier, left, again, there⟩ := (prefix_drop_utf8_iff filled).mp stands
        have least := first.least earlier.length (Nat.zero_le _) ⟨earlier, left, again, rfl⟩
        -- Of two front parts of the text the one with fewer characters has no more bytes.
        have inside : front <+: earlier :=
          List.prefix_of_prefix_length_le (cut ▸ List.take_prefix index text)
            (by rw [again, List.append_assoc]; exact List.prefix_append _ _) (size ▸ least)
        have bytes := byteLength_mono inside
        omega

/-- The offset in bytes of the character behind so many others, if there is one. -/
def offsetOf? : Nat → Text → Option Nat
  | _, [] => none
  | 0, _ :: _ => some 0
  | count + 1, char :: rest => (offsetOf? count rest).map (char.utf8Size + ·)

/-- So many characters, or all that there are, take the bytes up to the offset behind them. -/
theorem getD_offsetOf? (count : Nat) (text : Text) :
    (offsetOf? count text).getD (byteLength text) = byteLength (text.take count) := by
  induction text generalizing count with
  | nil => simp [offsetOf?]
  | cons char rest ih =>
    -- The first character takes its bytes, and the others are counted one by one.
    cases count with
    | zero => rfl
    | succ count =>
      rw [offsetOf?, byteLength_cons, Option.getD_map, ih, List.take_succ_cons, byteLength_cons]

/-- Every character takes a byte. -/
theorem length_le_byteLength (text : Text) : text.length ≤ byteLength text := by
  induction text with
  | nil => exact Nat.le_refl 0
  | cons char rest ih =>
    have filled := char.utf8Size_pos
    rw [List.length_cons, byteLength_cons]
    omega

namespace InWords

/-- The number of characters that a search passes over. A negative start is added to the length,
but does not lead below the front. -/
def passedOver? (start length : Int64) : Option Int64 :=
  if start < 0 then do
    let place ← signed? (length.toInt + start.toInt)
    signed? (max place.toInt 0)
  else some start

/-- The position of a search that passes over characters that are there. The bytes behind them are
searched, and the characters up to the offset that is found are counted. -/
def positionBehind? (skipped : UInt64) (text needle : Text) : Option UInt64 := do
  let offset ← unsigned? ((offsetOf? skipped.toNat text).getD (byteLength text))
  let (_, rest) ← partsAt? offset.toNat text
  match firstAt? (utf8 needle) (utf8 rest) with
  | none => some 0
  | some distance =>
    let stop ← unsigned? ↑(offset.toNat + distance)
    let between ← between? text offset.toNat stop.toNat
    let place ← unsigned? ↑(skipped.toNat + between.length)
    unsigned? ↑(place.toNat + 1)

/-- The position of a search. It is zero if more characters are passed over than there are. -/
def position? (start : Int64) (text needle : Text) : Option UInt64 := do
  let count ← unsigned? text.length
  let length ← signed? count.toNat
  let passed ← passedOver? start length
  if length < passed then some 0
  else
    let skipped ← unsigned? passed.toInt
    positionBehind? skipped text needle

/-- The characters that are passed over are counted without leaving the 64 bits. -/
theorem passedOver?_eq (start : Int64) {length : Int64} (nonneg : 0 ≤ length.toInt) :
    ∃ passed, passedOver? start length = some passed ∧
      passed.toInt = passedOver start.toInt length.toInt.toNat := by
  have low : -2 ^ 63 ≤ start.toInt := Int64.le_toInt start
  have high : length.toInt < 2 ^ 63 := Int64.toInt_lt length
  have count : negativeCount = 2 ^ 63 := rfl
  unfold passedOver?
  by_cases negative : start.toInt < 0
  · -- The length is not negative, so the sum is no lower than the start.
    have below : start < 0 := Int64.lt_iff_toInt_lt.mpr negative
    obtain ⟨place, fits, same⟩ :=
      @signed?_eq (length.toInt + start.toInt) (by omega) (by omega)
    obtain ⟨raised, stands, worth⟩ := @signed?_eq (max place.toInt 0) (by omega) (by omega)
    refine ⟨raised, ?_, ?_⟩
    · rw [if_pos below, fits, Option.bind_eq_bind, Option.bind_some, stands]
    · rw [worth, same, passedOver, if_pos negative, Int.ofNat_eq_natCast,
        Int.toNat_of_nonneg nonneg]
  · have above : ¬ start < 0 := fun below => negative (Int64.lt_iff_toInt_lt.mp below)
    exact ⟨start, if_neg above, by rw [passedOver, if_neg negative]⟩

/-- Behind characters that are there the search is made without leaving the 64 bits, and without a
cut through a character. -/
theorem positionBehind?_eq {skipped : UInt64} (short : byteLength text < 2 ^ 63)
    (inside : skipped.toNat ≤ text.length) (needle : Text) :
    ∃ place, positionBehind? skipped text needle = some place ∧
      (indexOf? needle (text.drop skipped.toNat) = none → place.toNat = 0) ∧
      ∀ index, indexOf? needle (text.drop skipped.toNat) = some index →
        place.toNat = skipped.toNat + index + 1 := by
  have words : wordCount = 2 ^ 64 := rfl
  obtain ⟨passed, rest, whole, size⟩ :
      ∃ passed rest, text = passed ++ rest ∧ passed.length = skipped.toNat :=
    ⟨text.take skipped.toNat, text.drop skipped.toNat, (List.take_append_drop _ text).symm,
      List.length_take_of_le inside⟩
  subst whole
  rw [byteLength_append] at short
  obtain ⟨offset, offsets, worth⟩ := @unsigned?_eq (byteLength passed) (by omega)
  -- The text is cut behind the characters that are passed over.
  have parts : partsAt? (byteLength passed) (passed ++ rest) = some (passed, rest) :=
    partsAt?_append passed rest
  simp only [positionBehind?, getD_offsetOf?, ← size, List.take_left, List.drop_left, offsets,
    worth, parts, firstAt?_utf8, Option.bind_eq_bind, Option.bind_some]
  cases found : indexOf? needle rest with
  | none => exact ⟨0, rfl, fun _ => rfl, fun index same => absurd same (by simp)⟩
  | some index =>
    obtain ⟨between, back, whole, count⟩ := (indexOf?_eq_some_iff.mp found).occurs
    have cut : rest.take index = between := by
      rw [whole, List.append_assoc, ← count, List.take_left]
    have fewer := length_le_byteLength passed
    have between_le := length_le_byteLength between
    have bytes : byteLength between ≤ byteLength rest :=
      byteLength_mono (cut ▸ List.take_prefix index rest)
    obtain ⟨stop, stops, end_⟩ := @unsigned?_eq (byteLength passed + byteLength between) (by omega)
    -- Between the two offsets stand the characters up to the place.
    have counted : between? (passed ++ rest) (byteLength passed) stop.toNat = some between :=
      between?_eq_some_iff.mpr ⟨passed, needle ++ back, by simp [whole], rfl, by simp [end_]⟩
    obtain ⟨place, places, reached⟩ := @unsigned?_eq (passed.length + between.length) (by omega)
    obtain ⟨next, follows, after⟩ := @unsigned?_eq (place.toNat + 1) (by omega)
    refine ⟨next, ?_, fun none_ => absurd none_ (by simp), ?_⟩
    · simp only [Option.map_some, cut]
      rw [stops, Option.bind_some, counted, Option.bind_some, places, Option.bind_some, follows]
    · intro other same
      obtain rfl := Option.some.inj same
      rw [after, reached, count]

/-- The position of a search in a text that a memory can hold is found without leaving the 64 bits,
and without a cut through a character. -/
theorem position?_eq (short : byteLength text < 2 ^ 63) (start : Int64) (needle : Text) :
    ∃ place, position? start text needle = some place ∧
      place.toNat = position start.toInt text needle := by
  have words : wordCount = 2 ^ 64 := rfl
  have signs : negativeCount = 2 ^ 63 := rfl
  -- A text has at most as many characters as bytes, so all numbers on the way fit.
  have fewer := length_le_byteLength text
  obtain ⟨count, counts, size⟩ := @unsigned?_eq text.length (by omega)
  obtain ⟨length, fits, same⟩ := @signed?_eq count.toNat (by omega) (by omega)
  rw [size] at same
  have counted : 0 ≤ length.toInt := by omega
  obtain ⟨passed, passes, worth⟩ := passedOver?_eq start counted
  rw [same, Int.toNat_natCast] at worth
  have nonneg : 0 ≤ passed.toInt := by
    rw [worth, passedOver]
    split <;> omega
  have beyond_iff : length < passed ↔ Int.ofNat text.length < passed.toInt := by
    rw [Int64.lt_iff_toInt_lt, same, Int.ofNat_eq_natCast]
  simp only [position?, Option.bind_eq_bind]
  rw [counts, Option.bind_some, fits, Option.bind_some, passes, Option.bind_some]
  by_cases beyond : length < passed
  · -- Nothing is left to be searched.
    refine ⟨0, if_pos beyond, ?_⟩
    simp only [position, ← worth, if_pos (beyond_iff.mp beyond), UInt64.toNat_zero]
  · -- What is passed over lies in the text, and the rest is searched.
    have inside : ¬ Int.ofNat text.length < passed.toInt := fun behind =>
      beyond (beyond_iff.mpr behind)
    rw [Int.ofNat_eq_natCast] at inside
    obtain ⟨skipped, skips, skip⟩ := @unsigned?_eq passed.toInt.toNat (by omega)
    rw [Int.toNat_of_nonneg nonneg] at skips
    have reached : skipped.toNat ≤ text.length := by omega
    obtain ⟨place, places, missing, found⟩ := positionBehind?_eq short reached needle
    refine ⟨place, ?_, ?_⟩
    · rw [if_neg beyond, skips, Option.bind_some, places]
    · simp only [position, ← worth, Int.ofNat_eq_natCast, if_neg inside]
      rw [skip] at missing found
      cases first : indexOf? needle (text.drop passed.toInt.toNat) with
      | none => exact missing first
      | some index => exact found index first

end InWords

end Docket.Text
