import Docket.Json.Reader
import Docket.Json.Writer
import Docket.Proofs.Text.Decimal
import Mathlib.Data.List.Forall2

/-! Strings and integers that the JSON writer writes read back as what they were written from. -/

namespace Docket.Json

/-- The marks that can be written for a character: itself, or its unit for a control character. -/
def Mark.Shows (mark : Mark) (char : Char) : Prop :=
  -- Control characters are written by their numbers, all others as themselves or by a short escape.
  mark = .char char ∨ (char.toNat < 0x20 ∧ mark = .unit char.toNat)

/-- The escape of a control character reads back as the number of that character. -/
theorem unit?_hexDigit {code : Nat} (control : code < 0x20) :
    unit? '0' '0' (hexDigit (code / 16)) (hexDigit (code % 16)) = some code := by
  -- There are thirty-two control characters.
  revert code
  decide

/-- A character that is no control, quote or backslash is a mark of its own. -/
theorem marks?_plain {char : Char} (rest : Text) (visible : 0x20 ≤ char.toNat)
    (quote : char ≠ '"') (slash : char ≠ '\\') :
    marks? (char :: rest) =
      (marks? rest).map fun (marks, after) => (.char char :: marks, after) := by
  -- None of the earlier cases of the reader applies.
  have plain : (char.toNat < 0x20 || char == '\\') = false := by
    simp only [Bool.or_eq_false_iff, decide_eq_false_iff_not, beq_eq_false_iff_ne]
    exact ⟨Nat.not_lt.mpr visible, slash⟩
  rw [marks?, plain]
  · rfl
  all_goals simp [quote, slash]

/-- Reading the written form of a character gives one mark and leaves what follows. -/
theorem marks?_escape (char : Char) : ∃ mark : Mark, mark.Shows char ∧ ∀ rest : Text,
    marks? (escape char ++ rest) =
      (marks? rest).map fun (marks, after) => (mark :: marks, after) := by
  -- The writer distinguishes the characters with escapes of their own.
  unfold escape
  split
  case h_8 quote slash backspace feed line carriage tab =>
    -- What is left is a control character or a plain one.
    split
    · rename_i control
      refine ⟨.unit char.toNat, .inr ⟨control, rfl⟩, fun rest => ?_⟩
      simp only [List.cons_append, List.nil_append, marks?, unit?_hexDigit control]
    · rename_i visible
      refine ⟨.char char, .inl rfl, fun rest => ?_⟩
      simp only [List.cons_append, List.nil_append]
      exact marks?_plain rest (Nat.not_lt.mp visible) quote slash
  all_goals exact ⟨_, .inl rfl, fun rest => by simp [marks?, escaped?]⟩

/-- The unit of a control character is no half of a pair, whatever stands behind it. -/
theorem ofMarks?_control {unit : Nat} (control : unit < 0x20) (marks : List Mark) :
    ofMarks? (.unit unit :: marks) = (ofMarks? marks).map (Char.ofNat unit :: ·) := by
  -- Halves of pairs have numbers far above those of control characters.
  have high : isHigh unit = false := by
    simp only [isHigh, Bool.and_eq_false_iff, decide_eq_false_iff_not]
    omega
  have low : isLow unit = false := by
    simp only [isLow, Bool.and_eq_false_iff, decide_eq_false_iff_not]
    omega
  rw [ofMarks?.eq_def]
  split <;> simp_all

/-- Marks of the characters of a text stand for that text. -/
theorem ofMarks?_shows {marks : List Mark} {text : Text}
    (shown : List.Forall₂ Mark.Shows marks text) : ofMarks? marks = some text := by
  -- A mark for a character is either that character or a unit that stands alone.
  induction shown with
  | nil => rfl
  | @cons mark char marks text shows _ ih =>
    rcases shows with rfl | ⟨control, rfl⟩
    · -- The character stands for itself.
      simp [ofMarks?, ih]
    · -- The unit is the number of the character.
      simp [ofMarks?_control control, ih]

/-- Reading the inside of a quoted text up to its closing quote gives the text. -/
theorem stringTail?_escape (text after : Text) :
    stringTail? (text.flatMap escape ++ '"' :: after) = some (some text, after) := by
  -- The marks are read first, one for each character up to the closing quote.
  have read : ∃ marks, List.Forall₂ Mark.Shows marks text ∧
      marks? (text.flatMap escape ++ '"' :: after) = some (marks, after) := by
    induction text with
    | nil => exact ⟨[], .nil, by simp [marks?]⟩
    | cons char rest ih =>
      obtain ⟨marks, shown, read⟩ := ih
      obtain ⟨mark, shows, step⟩ := marks?_escape char
      refine ⟨mark :: marks, .cons shows shown, ?_⟩
      rw [List.flatMap_cons, List.append_assoc, step, read]
      rfl
  obtain ⟨marks, shown, read⟩ := read
  simp [stringTail?, read, ofMarks?_shows shown]

/-- What follows a number must not read as a part of it. -/
def EndsNumber (after : Text) : Prop :=
  -- The end of the text ends a number, too.
  ∀ char, after.head? = some char →
    char.isDigit = false ∧ char ≠ '.' ∧ char ≠ 'e' ∧ char ≠ 'E'

/-- A number may be followed by a character that is in none. -/
theorem EndsNumber.cons {char : Char} (rest : Text)
    (apart : char.isDigit = false ∧ char ≠ '.' ∧ char ≠ 'e' ∧ char ≠ 'E') :
    EndsNumber (char :: rest) := by
  intro first head
  rwa [← Option.some.inj head]

/-- A run of digits ends where no digit follows. -/
theorem digits?_append {digits after : Text} (filled : digits ≠ [])
    (all : ∀ char ∈ digits, char.isDigit = true) (ends : EndsNumber after) :
    digits? (digits ++ after) = some (digits, after) := by
  -- The run takes all the digits, since it stops at what follows them.
  have stop : after.takeWhile Char.isDigit = [] ∧ after.dropWhile Char.isDigit = after := by
    cases after with
    | nil => simp
    | cons char rest => simp [(ends char rfl).1]
  have taken : (digits ++ after).takeWhile Char.isDigit = digits := by
    rw [List.takeWhile_append_of_pos all, stop.1, List.append_nil]
  have left : (digits ++ after).dropWhile Char.isDigit = after := by
    rw [List.dropWhile_append_of_pos all, stop.2]
  cases digits with
  | nil => exact absurd rfl filled
  | cons first rest => simp only [digits?, taken, left]

/-- There is no fraction behind a whole number. -/
theorem fraction?_ends {after : Text} (ends : EndsNumber after) :
    fraction? after = some (false, after) := by
  -- A fraction would begin with a point.
  rw [fraction?.eq_def]
  split
  · exact absurd rfl (ends _ rfl).2.1
  · rfl

/-- There is no exponent behind a whole number. -/
theorem exponent?_ends {after : Text} (ends : EndsNumber after) :
    exponent? after = some (false, after) := by
  -- An exponent would begin with one of two letters.
  cases after with
  | nil => rfl
  | cons mark rest =>
    obtain ⟨-, -, small, capital⟩ := ends mark rfl
    simp [exponent?, small, capital]

/-- The decimal form of a natural number reads back as a plain number. -/
theorem unsigned?_ofNat (value : Nat) {after : Text} (ends : EndsNumber after) :
    unsigned? (Text.ofNat value ++ after) = some (value, true, after) := by
  -- Only zero itself begins with a zero.
  have whole := Text.natural?_ofNat value
  rcases Nat.eq_zero_or_pos value with rfl | positive
  · -- Behind a single zero the number must be over.
    have zero : Text.ofNat 0 = ['0'] := Nat.toDigits_zero 10
    rw [zero] at whole ⊢
    have stop : after.head?.any Char.isDigit = false := by
      cases after with
      | nil => rfl
      | cons char rest => exact (ends char rfl).1
    simp [unsigned?, stop, fraction?_ends ends, exponent?_ends ends, whole]
  · -- A positive number is a run of digits without a zero in front.
    have read := digits?_append (Text.ofNat_ne_nil value)
      (fun _ inside => Text.isDigit_of_mem_ofNat inside) ends
    have head := Text.ofNat_head positive
    cases digits : Text.ofNat value with
    | nil => exact absurd digits (Text.ofNat_ne_nil value)
    | cons first rest =>
      rw [digits] at read whole head
      have first_ne : first ≠ '0' := by simpa using head
      simp only [List.cons_append] at read ⊢
      simp [unsigned?, first_ne, read, fraction?_ends ends, exponent?_ends ends, whole]

/-- The decimal form of an integer reads back as that integer. -/
theorem number?_ofInt (value : Int) {after : Text} (ends : EndsNumber after) :
    number? (Text.ofInt value ++ after) = some (integer value, after) := by
  -- A minus sign is read off first, and what is left is the decimal form of a natural number.
  unfold Text.ofInt
  split
  · rename_i negative
    have size : value.natAbs ≠ 0 := by omega
    have signed : -(value.natAbs : Int) = value := by omega
    have read : number? ('-' :: Text.ofNat value.natAbs ++ after) =
        some (integer (-(value.natAbs : Int)), after) := by
      simp [number?, unsigned?_ofNat value.natAbs ends, size]
    rw [signed] at read
    exact read
  · have signed : (value.natAbs : Int) = value := by omega
    have read := unsigned?_ofNat value.natAbs ends
    cases digits : Text.ofNat value.natAbs with
    | nil => exact absurd digits (Text.ofNat_ne_nil _)
    | cons first rest =>
      have inside : first ∈ Text.ofNat value.natAbs := by simp [digits]
      have digit : first.isDigit = true := Text.isDigit_of_mem_ofNat inside
      -- A digit is no sign, so the number is read from its first character on.
      have unsigned : first ≠ '-' := by
        rintro rfl
        exact absurd digit (by decide)
      rw [digits] at read
      simp only [List.cons_append] at read ⊢
      simp [number?, unsigned, read, signed]

/-- The decimal form of an integer begins with a minus sign or a digit. -/
theorem ofInt_cons (value : Int) : ∃ char rest,
    Text.ofInt value = char :: rest ∧ (char = '-' ∨ char.isDigit = true) := by
  -- Without a sign the first character is the first digit.
  unfold Text.ofInt
  split
  · exact ⟨'-', _, rfl, .inl rfl⟩
  · cases digits : Text.ofNat value.natAbs with
    | nil => exact absurd digits (Text.ofNat_ne_nil _)
    | cons first rest =>
      have inside : first ∈ Text.ofNat value.natAbs := by simp [digits]
      exact ⟨first, rest, rfl, .inr (Text.isDigit_of_mem_ofNat inside)⟩

end Docket.Json
