import Docket.Proofs.Function.Slicing
import Docket.Proofs.Text.Bytes

/-!
The function that fills a number up with zeros.

The filled text is as long as the pattern says, or as long as the number if that is longer, and it
is read as the same number: the zeros come between the sign and the digits, where they are worth
nothing. So different numbers stay different under one pattern.
-/

namespace Docket

namespace Text

variable {text digits : Text} {value : Int64}

/-- Zeros in front are worth nothing. -/
theorem digitsAfter?_replicate (count : Nat) :
    digitsAfter? 0 (List.replicate count '0') = some 0 := by
  induction count with
  | zero => rfl
  | succ count ih =>
    rw [List.replicate_succ]
    exact ih

/-- Zeros in front of digits do not change their value. -/
theorem natural?_replicate_append (count : Nat) (filled : digits ≠ []) :
    natural? (List.replicate count '0' ++ digits) = natural? digits := by
  have both : List.replicate count '0' ++ digits ≠ [] := List.append_ne_nil_of_right_ne_nil _ filled
  rw [natural?_of_ne_nil both, natural?_of_ne_nil filled, digitsAfter?_append,
    digitsAfter?_replicate, Option.bind_some]

/-- Zeros come behind a sign. -/
theorem zeroFill_sign (width : Nat) {sign : Char} (signs : sign = '-' ∨ sign = '+')
    (digits : Text) : zeroFill width (sign :: digits) =
      sign :: (List.replicate (width - (digits.length + 1)) '0' ++ digits) := by
  rcases signs with rfl | rfl <;> rfl

/-- Without a sign zeros come in front. -/
theorem zeroFill_unsigned (width : Nat) {first : Char} (noMinus : first ≠ '-')
    (noPlus : first ≠ '+') (rest : Text) : zeroFill width (first :: rest) =
      List.replicate (width - (rest.length + 1)) '0' ++ first :: rest := by
  simp [zeroFill, noMinus, noPlus]

/-- A text that is long enough stays. -/
theorem zeroFill_of_le {width : Nat} (enough : width ≤ text.length) :
    zeroFill width text = text := by
  unfold zeroFill
  rw [Nat.sub_eq_zero_of_le enough]
  cases text with
  | nil => rfl
  | cons first rest => simp

/-- A filled text is as long as it was asked for, or as it was if that is longer. -/
theorem length_zeroFill (width : Nat) (text : Text) :
    (zeroFill width text).length = max text.length width := by
  cases text with
  | nil => simp [zeroFill]
  | cons first rest =>
    -- A sign stays in front of the zeros, and they fill up what is missing either way.
    by_cases signs : first = '-' ∨ first = '+'
    · rw [zeroFill_sign width signs]
      simp only [List.length_cons, List.length_append, List.length_replicate]
      omega
    · obtain ⟨noMinus, noPlus⟩ := not_or.mp signs
      rw [zeroFill_unsigned width noMinus noPlus]
      simp only [List.length_cons, List.length_append, List.length_replicate]
      omega

/-- A filled text is read as the same integer. -/
theorem integer?_zeroFill (width : Nat) (reads : integer? text = some value) :
    integer? (zeroFill width text) = some value := by
  rcases integer?_cases reads with
    ⟨sign, digits, signs, rfl, some_, same⟩ | ⟨first, rest, noMinus, noPlus, rfl, _, same⟩
  · rw [zeroFill_sign width signs]
    refine same _ (natural?_replicate_append _ ?_)
    rintro rfl
    exact some_ rfl
  · rw [zeroFill_unsigned width noMinus noPlus]
    generalize width - (rest.length + 1) = count
    have digits := natural?_replicate_append count (List.cons_ne_nil first rest)
    cases count with
    | zero => exact reads
    | succ count =>
      -- The first zero is no sign either.
      rw [List.replicate_succ, List.cons_append] at digits ⊢
      exact same '0' _ (by decide) (by decide) digits

namespace InWords

/-- A text filled up with zeros. What stands behind a sign is cut off behind its first byte. -/
def zeroFill? (width : Nat) (text : Text) : Option Text := do
  let wanted ← unsigned? width
  let length ← unsigned? text.length
  if wanted ≤ length then some text
  else
    let missing ← unsigned? ↑(wanted.toNat - length.toNat)
    let zeros := List.replicate missing.toNat '0'
    match text.head? with
    | none => some (zeros ++ text)
    | some first =>
      if first = '-' ∨ first = '+' then
        (partsAt? 1 text).map fun parts => first :: (zeros ++ parts.2)
      else some (zeros ++ text)

/-- A text is filled up without leaving the 64 bits, and without a cut through a character. -/
theorem zeroFill?_eq {width : Nat} (narrow : width < 2 ^ 64) (short : text.length < 2 ^ 64) :
    zeroFill? width text = some (zeroFill width text) := by
  -- The lengths fit, so they are words with the same values, and so is their difference.
  have words : wordCount = 2 ^ 64 := rfl
  obtain ⟨wanted, wants, wide⟩ := @unsigned?_eq width (by omega)
  obtain ⟨length, counts, long⟩ := @unsigned?_eq text.length (by omega)
  obtain ⟨missing, misses, many⟩ := @unsigned?_eq (wanted.toNat - length.toNat) (by omega)
  simp only [zeroFill?, Option.bind_eq_bind]
  rw [wants, Option.bind_some, counts, Option.bind_some]
  by_cases enough : wanted ≤ length
  · have none_ : width ≤ text.length := by
      rw [← wide, ← long]
      exact UInt64.le_iff_toNat_le.mp enough
    rw [if_pos enough, zeroFill_of_le none_]
  · rw [if_neg enough, misses, Option.bind_some, many, wide, long]
    cases text with
    | nil => exact congrArg some (List.append_nil _)
    | cons first rest =>
      dsimp only [List.head?_cons]
      by_cases signs : first = '-' ∨ first = '+'
      · -- A sign is one byte.
        have single : byteLength [first] = 1 := by rcases signs with rfl | rfl <;> rfl
        have parts : partsAt? 1 (first :: rest) = some ([first], rest) :=
          partsAt?_eq_some_iff.mpr ⟨rfl, single⟩
        rw [if_pos signs, parts, zeroFill_sign width signs]
        rfl
      · obtain ⟨noMinus, noPlus⟩ := not_or.mp signs
        rw [if_neg signs, zeroFill_unsigned width noMinus noPlus]
        rfl

end InWords

end Text

namespace Function

variable (environment : Environment) (resources : Resources)

/-- The function that fills a text up always gives a text. -/
theorem format_call (written pattern : Text) :
    format.call environment [written, pattern] resources =
      (.ok (Text.zeroFill (pattern.count '#') written), resources) :=
  rfl

/--
A number that is filled up with zeros is the same number.

However the number is written, the filled text has as many characters as the pattern has signs, or
as the number has if these are more, and it is read as the number. No other number, however it is
written, gives the same text under the same pattern. For texts that a memory can hold the text is
found without leaving the 64 bits, and the sign is cut off between characters.
-/
theorem format_keeps_number (value : Int64) (pattern : Text) :
    Text.integer? (Text.ofInt64 value) = some value ∧
    ∀ written, Text.integer? written = some value → ∃ shown,
      format.call environment [written, pattern] resources = (.ok shown, resources) ∧
      shown.length = max written.length (pattern.count '#') ∧
      Text.integer? shown = some value ∧ (∀ index, integer index shown = .ok value) ∧
      (∀ other number, Text.integer? other = some number → number ≠ value →
        format.call environment [other, pattern] resources ≠ (.ok shown, resources)) ∧
      (pattern.length < 2 ^ 63 → written.length < 2 ^ 63 →
        Text.InWords.zeroFill? (pattern.count '#') written = some shown) := by
  refine ⟨Text.integer?_ofInt64 value, fun written reads => ?_⟩
  -- The filled text is read as the same number; everything else hangs on this.
  have shown := Text.integer?_zeroFill (pattern.count '#') reads
  refine ⟨_, format_call environment resources written pattern, Text.length_zeroFill _ written,
    shown, integer_of_integer? shown, ?_, fun narrow short => ?_⟩
  · intro other number others different same
    -- The same text is read as one number only.
    rw [format_call] at same
    have text := Except.ok.inj (Prod.mk.inj same).1
    have read := Text.integer?_zeroFill (pattern.count '#') others
    rw [text, shown] at read
    exact different (Option.some.inj read).symm
  · have fewer : pattern.count '#' ≤ pattern.length := List.count_le_length
    exact Text.InWords.zeroFill?_eq (by omega) (by omega)

/-- The least value of 64 bits keeps its sign in front of the zeros. -/
theorem format_keeps_number_least :
    let here := Scope.standard.environment
    let pattern := "Nr. ######################".toList
    ∃ shown, format.call here ["-9223372036854775808".toList, pattern] .fresh =
        (.ok shown, .fresh) ∧
      shown.length = 22 ∧ Text.integer? shown = some Int64.minValue := by
  intro here pattern
  -- The length and the number are those of the general theorem.
  obtain ⟨-, keeps⟩ := format_keeps_number here .fresh Int64.minValue pattern
  obtain ⟨shown, call, size, read, -⟩ := keeps "-9223372036854775808".toList (by decide +kernel)
  exact ⟨shown, call, by rw [size]; decide, read⟩

end Function

end Docket
