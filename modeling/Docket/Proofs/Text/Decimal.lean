import Docket.Text.Integer

/-! Decimal texts read back as the numbers that they were written from, and what a text is that is
read as a number. -/

namespace Docket.Text

/-- Each of the ten digits has its own value. -/
theorem digit?_digitChar {value : Nat} (small : value < 10) :
    digit? value.digitChar = some value := by
  -- Ten characters, each checked against the range that the reader tests.
  revert value
  decide

/-- Only characters from zero to nine have a value. -/
theorem digit?_eq_none_of_isBlank {char : Char} (blank : isBlank char = true) :
    digit? char = none := by
  -- A digit that was read would put the character among the ten codes.
  cases read : digit? char with
  | none => rfl
  | some digit =>
    unfold digit? at read
    split at read
    · -- No white space has a code between those of the digits.
      rename_i between
      obtain ⟨low, high⟩ := Bool.and_eq_true_iff.mp between
      have low : '0'.toNat ≤ char.toNat := of_decide_eq_true low
      have high : char.toNat ≤ '9'.toNat := of_decide_eq_true high
      have codes : '0'.toNat = 48 ∧ '9'.toNat = 57 := by decide
      simp [isBlank] at blank
      omega
    · exact absurd read (by simp)

/-- The digits of a front part are worth what comes before the rest. -/
theorem digitsAfter?_append (value : Nat) (left right : Text) :
    digitsAfter? value (left ++ right) =
      (digitsAfter? value left).bind (digitsAfter? · right) := by
  -- The induction runs along the front part, and the value read so far is carried through it.
  induction left generalizing value with
  | nil => rfl
  | cons char rest ih =>
    cases read : digit? char with
    | none => simp [digitsAfter?, read]
    | some digit => simp [digitsAfter?, read, ih]

/-- A text that is not empty is read digit by digit. -/
theorem natural?_of_ne_nil {digits : Text} (filled : digits ≠ []) :
    natural? digits = digitsAfter? 0 digits := by
  cases digits with
  | nil => exact absurd rfl filled
  | cons first rest => rfl

/-- The decimal form of a number has a digit. -/
theorem ofNat_ne_nil (value : Nat) : ofNat value ≠ [] :=
  Nat.toDigits_ne_nil

/-- The decimal form of a number has digits only. -/
theorem isDigit_of_mem_ofNat {value : Nat} {char : Char} (inside : char ∈ ofNat value) :
    char.isDigit = true :=
  Nat.isDigit_of_mem_toDigits (by decide) (by decide) inside

/-- A number of several digits ends in its remainder, after the digits of its tenth part. -/
theorem ofNat_of_ten_le {value : Nat} (large : 10 ≤ value) :
    ofNat value = ofNat (value / 10) ++ [(value % 10).digitChar] :=
  Nat.toDigits_of_base_le (by decide) large

/-- The digits of a number are worth that number. -/
theorem digitsAfter?_ofNat (value : Nat) : digitsAfter? 0 (ofNat value) = some value := by
  -- Dropping the last digit leaves the digits of a smaller number.
  induction value using Nat.strongRecOn with
  | ind value ih =>
    by_cases small : value < 10
    · -- A number below ten is a single digit.
      rw [ofNat, Nat.toDigits_of_lt_base small]
      simp [digitsAfter?, digit?_digitChar small]
    · -- The tenth part is read first, then the last digit is added to ten times of it.
      rw [ofNat_of_ten_le (by omega), digitsAfter?_append, ih (value / 10) (by omega)]
      have last : digit? (value % 10).digitChar = some (value % 10) :=
        digit?_digitChar (by omega)
      have whole : 10 * (value / 10) + value % 10 = value := by omega
      simp [digitsAfter?, last, whole]

/-- Reading the decimal form of a number gives that number back. -/
theorem natural?_ofNat (value : Nat) : natural? (ofNat value) = some value := by
  -- Only the empty text is refused, and no number is written as the empty text.
  rw [natural?_of_ne_nil (ofNat_ne_nil value), digitsAfter?_ofNat]

/-- A text with a character that is no digit is no run of digits. -/
theorem digitsAfter?_eq_none_of_mem {char : Char} {text : Text} (noDigit : digit? char = none)
    (inside : char ∈ text) (value : Nat) : digitsAfter? value text = none := by
  -- Reading stops there at the latest.
  induction text generalizing value with
  | nil => exact absurd inside List.not_mem_nil
  | cons first rest ih =>
    rcases List.mem_cons.mp inside with rfl | inside
    · simp [digitsAfter?, noDigit]
    · cases digit : digit? first with
      | none => simp [digitsAfter?, digit]
      | some found => simp [digitsAfter?, digit, ih inside]

/-- A run of digits has no other characters. -/
theorem natural?_eq_none_of_mem {char : Char} {digits : Text} (noDigit : digit? char = none)
    (inside : char ∈ digits) : natural? digits = none := by
  rw [natural?_of_ne_nil (List.ne_nil_of_mem inside)]
  exact digitsAfter?_eq_none_of_mem noDigit inside 0

/-- A text with a character that is neither a digit nor a plus sign is no number. -/
theorem word?_eq_none_of_mem {char : Char} {text : Text} (noDigit : digit? char = none)
    (noSign : char ≠ '+') (inside : char ∈ text) : word? text = none := by
  -- Without its sign the text still holds the character.
  unfold word?
  split
  · rename_i digits
    have missing := natural?_eq_none_of_mem noDigit (List.mem_of_ne_of_mem noSign inside)
    simp only [missing, Option.filter_none]
  · simp only [natural?_eq_none_of_mem noDigit inside, Option.filter_none]

/-- Numbers are read below their bound. -/
theorem lt_wordCount_of_word? {text : Text} {value : Nat} (read : word? text = some value) :
    value < wordCount := by
  simpa using (Option.filter_eq_some_iff.mp read).2

/-- A positive number is written without a zero in front. -/
theorem ofNat_head {value : Nat} (positive : 0 < value) : (ofNat value).head? ≠ some '0' := by
  -- The first digit is the first digit of the tenth part, until only one digit is left.
  induction value using Nat.strongRecOn with
  | ind value ih =>
    by_cases small : value < 10
    · rw [ofNat, Nat.toDigits_of_lt_base small]
      have each : ∀ digit, digit < 10 → 0 < digit → digit.digitChar ≠ '0' := by decide
      simpa using each value small positive
    · rw [ofNat_of_ten_le (by omega)]
      have front := ih (value / 10) (by omega) (by omega)
      cases digits : ofNat (value / 10) with
      | nil => exact absurd digits (ofNat_ne_nil _)
      | cons first rest => simpa [digits] using front

/-- Every value of 64 bits fits in 64 bits. -/
theorem fits_toInt (value : Int64) : fits value.toInt = true := by
  -- The bounds of the reader are those of the type.
  have low : -negativeCount ≤ value.toInt := Int64.le_toInt value
  have high : value.toInt < negativeCount := Int64.toInt_lt value
  simp [fits, low, high]

/-- Behind a minus sign the digits are read. -/
theorem integer?_minus (digits : Text) : integer? ('-' :: digits) =
    (((natural? digits).map fun size => -(Int.ofNat size)).filter fits).map Int64.ofInt :=
  rfl

/-- Behind a plus sign the digits are read. -/
theorem integer?_plus (digits : Text) : integer? ('+' :: digits) =
    (((natural? digits).map Int.ofNat).filter fits).map Int64.ofInt :=
  rfl

/-- Without a sign the text is read from its first character on. -/
theorem integer?_unsigned {first : Char} (rest : Text) (noMinus : first ≠ '-')
    (noPlus : first ≠ '+') : integer? (first :: rest) =
      (((natural? (first :: rest)).map Int.ofNat).filter fits).map Int64.ofInt := by
  simp [integer?, noMinus, noPlus]

/-- The decimal form of a natural number is read as that number if it fits in 64 bits. -/
theorem integer?_ofNat (value : Nat) :
    integer? (ofNat value) = ((some (value : Int)).filter fits).map Int64.ofInt := by
  have read := natural?_ofNat value
  cases digits : ofNat value with
  | nil => exact absurd digits (ofNat_ne_nil _)
  | cons first rest =>
    have inside : first ∈ ofNat value := by simp [digits]
    have digit : first.isDigit = true := isDigit_of_mem_ofNat inside
    -- A digit is no sign, so the number is read from its first character on.
    have unsigned : first ≠ '-' ∧ first ≠ '+' := by
      constructor <;> rintro rfl <;> exact absurd digit (by decide)
    rw [digits] at read
    rw [integer?_unsigned rest unsigned.1 unsigned.2, read, Option.map_some,
      Int.ofNat_eq_natCast]

/-- An integer that fits in 64 bits is not changed by being stored. -/
theorem toInt_ofInt_of_fits {value : Int} (fits : fits value = true) :
    (Int64.ofInt value).toInt = value := by
  obtain ⟨low, high⟩ := Bool.and_eq_true_iff.mp fits
  exact Int64.toInt_ofInt_of_le (of_decide_eq_true low) (of_decide_eq_true high)

/-- Reading the decimal form of a value of 64 bits gives that value back. -/
theorem integer?_ofInt64 (value : Int64) : integer? (ofInt64 value) = some value := by
  -- Once the sign is read off, what is left is the decimal form of a natural number.
  have whole : ((some value.toInt).filter fits).map Int64.ofInt = some value := by
    simp only [Option.filter_some, fits_toInt, if_true, Option.map_some, Int64.ofInt_toInt]
  have read := natural?_ofNat value.toInt.natAbs
  unfold ofInt64 ofInt
  split
  · rename_i negative
    have signed : -(value.toInt.natAbs : Int) = value.toInt := by omega
    simp only [integer?, read, Option.map_some, Int.ofNat_eq_natCast, signed, whole]
  · have signed : (value.toInt.natAbs : Int) = value.toInt := by omega
    rw [integer?_ofNat, signed, whole]

/-- What is read as an integer is a sign and digits, or digits alone, and with other digits that are
worth the same it is the same integer. -/
theorem integer?_cases {text : Text} {value : Int64} (reads : integer? text = some value) :
    (∃ sign digits, (sign = '-' ∨ sign = '+') ∧ text = sign :: digits ∧ natural? digits ≠ none ∧
      ∀ more, natural? more = natural? digits → integer? (sign :: more) = some value) ∨
    ∃ first rest, first ≠ '-' ∧ first ≠ '+' ∧ text = first :: rest ∧ natural? text ≠ none ∧
      ∀ other more, other ≠ '-' → other ≠ '+' → natural? (other :: more) = natural? text →
        integer? (other :: more) = some value := by
  cases text with
  | nil => exact absurd reads (by simp [integer?, natural?])
  | cons first rest =>
    -- The first character decides how the text is read, and only the value of the digits counts.
    by_cases minus : first = '-'
    · subst minus
      refine .inl ⟨'-', rest, .inl rfl, rfl, fun missing => ?_, fun more same => ?_⟩
      · rw [integer?_minus, missing] at reads
        exact absurd reads (by simp)
      · rw [integer?_minus, same, ← integer?_minus, reads]
    · by_cases plus : first = '+'
      · subst plus
        refine .inl ⟨'+', rest, .inr rfl, rfl, fun missing => ?_, fun more same => ?_⟩
        · rw [integer?_plus, missing] at reads
          exact absurd reads (by simp)
        · rw [integer?_plus, same, ← integer?_plus, reads]
      · -- Without a sign all characters are digits.
        refine .inr ⟨first, rest, minus, plus, rfl, fun missing => ?_, ?_⟩
        · rw [integer?_unsigned rest minus plus, missing] at reads
          exact absurd reads (by simp)
        · intro other more noMinus noPlus same
          rw [integer?_unsigned more noMinus noPlus, same, ← integer?_unsigned rest minus plus,
            reads]

/-- What is read as an integer has no white space. -/
theorem isBlank_of_mem_integer? {text : Text} {value : Int64}
    (reads : integer? text = some value) {char : Char} (inside : char ∈ text) :
    isBlank char = false := by
  refine Bool.eq_false_iff.mpr fun blank => ?_
  rcases integer?_cases reads with ⟨sign, digits, signs, rfl, some_, -⟩ | ⟨_, _, _, _, _, some_, _⟩
  · rcases List.mem_cons.mp inside with rfl | inside
    · -- No sign is white space.
      rcases signs with rfl | rfl <;> exact absurd blank (by decide)
    · exact some_ (natural?_eq_none_of_mem (digit?_eq_none_of_isBlank blank) inside)
  · exact some_ (natural?_eq_none_of_mem (digit?_eq_none_of_isBlank blank) inside)

end Docket.Text
