import Docket.Text.Order
import Docket.Text.Utf8

/-! Texts as bytes: which byte stands at an offset, which offsets lie between characters, and that
the order of texts is that of their bytes. -/

namespace Docket.Text

/-- ASCII characters are those below 128. -/
def isAscii (char : Char) : Bool :=
  char.toNat ≤ 127

/-- The byte of an ASCII character. -/
def code (char : Char) : UInt8 :=
  UInt8.ofNat char.toNat

@[simp] theorem utf8_nil : utf8 [] = [] := rfl

@[simp] theorem utf8_cons (char : Char) (rest : Text) :
    utf8 (char :: rest) = String.utf8EncodeChar char ++ utf8 rest := by
  simp [utf8]

theorem utf8_append (front back : Text) : utf8 (front ++ back) = utf8 front ++ utf8 back :=
  List.flatMap_append

@[simp] theorem length_utf8 (text : Text) : (utf8 text).length = byteLength text := by
  induction text with
  | nil => rfl
  | cons char rest ih => simp [ih]

/-- A text takes no bytes only if it is empty. -/
theorem byteLength_eq_zero_or_pos (text : Text) : text = [] ∨ 0 < byteLength text := by
  cases text with
  | nil => exact .inl rfl
  | cons char rest =>
    have filled := char.utf8Size_pos
    exact .inr (by rw [byteLength_cons]; omega)

/-- A text takes as many bytes as before only if nothing is added. -/
theorem byteLength_append_eq_iff (front added : Text) :
    byteLength (front ++ added) = byteLength front ↔ added = [] := by
  rw [byteLength_append]
  -- Anything that is added takes at least one byte.
  rcases byteLength_eq_zero_or_pos added with rfl | filled
  · simp
  · constructor
    · intro same
      omega
    · rintro rfl
      simp

/-- An ASCII character is one byte. -/
theorem utf8EncodeChar_of_isAscii {char : Char} (ascii : isAscii char = true) :
    String.utf8EncodeChar char = [code char] := by
  have small : char.val.toNat ≤ 127 := by simpa [isAscii] using ascii
  simp only [String.utf8EncodeChar, if_pos small]
  rfl

theorem utf8Size_of_isAscii {char : Char} (ascii : isAscii char = true) : char.utf8Size = 1 := by
  rw [← String.length_utf8EncodeChar, utf8EncodeChar_of_isAscii ascii, List.length_singleton]

/-- An ASCII character at the end adds one byte. -/
theorem byteLength_concat {char : Char} (ascii : isAscii char = true) (text : Text) :
    byteLength (text ++ [char]) = byteLength text + 1 := by
  rw [byteLength_append, byteLength_cons, utf8Size_of_isAscii ascii, byteLength_nil]

/-- The place behind a front part lies before the end if something follows. -/
theorem byteLength_lt_length_utf8 (front : Text) {rest : Text} (filled : rest ≠ []) :
    byteLength front < (utf8 (front ++ rest)).length := by
  have longer := (byteLength_eq_zero_or_pos rest).resolve_left filled
  rw [length_utf8, byteLength_append]
  omega

/-- All bytes of any other character lie above the ASCII range. -/
theorem le_of_mem_utf8EncodeChar {char : Char} (other : isAscii char = false) :
    ∀ byte ∈ String.utf8EncodeChar char, 128 ≤ byte := by
  have large : ¬ char.val.toNat ≤ 127 := by simpa [isAscii] using other
  -- Each byte has its high bit set, whichever length the character takes.
  have high (number : Nat) (low : 128 ≤ number) (bound : number < 256) :
      128 ≤ UInt8.ofNat number := by
    rw [UInt8.le_iff_toNat_le, UInt8.toNat_ofNat', Nat.mod_eq_of_lt bound]
    exact low
  simp only [String.utf8EncodeChar, if_neg large]
  split
  · simp only [List.forall_mem_cons]
    exact ⟨high _ (by omega) (by omega), high _ (by omega) (by omega), by simp⟩
  · split
    · simp only [List.forall_mem_cons]
      exact ⟨high _ (by omega) (by omega), high _ (by omega) (by omega),
        high _ (by omega) (by omega), by simp⟩
    · simp only [List.forall_mem_cons]
      exact ⟨high _ (by omega) (by omega), high _ (by omega) (by omega),
        high _ (by omega) (by omega), high _ (by omega) (by omega), by simp⟩

/-- A character that is not ASCII is none of the ASCII characters. -/
theorem ne_of_not_isAscii {char : Char} (other : isAscii char = false) (mark : Char)
    (single : isAscii mark = true) : char ≠ mark := by
  rintro rfl
  exact Bool.false_ne_true (other.symm.trans single)

/-- A scan that passes over bytes above the ASCII range passes over the characters that are not
ASCII. -/
theorem scan_of_not_isAscii {α : Type} {scan : Nat → List UInt8 → α}
    (passes : ∀ position byte rest, 128 ≤ byte →
      scan position (byte :: rest) = scan (position + 1) rest)
    {char : Char} (other : isAscii char = false) (position : Nat) (rest : Text) :
    scan position (utf8 (char :: rest)) = scan (position + char.utf8Size) (utf8 rest) := by
  -- All bytes of the character are above the range, and the scan passes over one after the other.
  have passed (bytes : List UInt8) (high : ∀ byte ∈ bytes, 128 ≤ byte) (position : Nat) :
      scan position (bytes ++ utf8 rest) = scan (position + bytes.length) (utf8 rest) := by
    induction bytes generalizing position with
    | nil => rfl
    | cons byte others ih =>
      obtain ⟨above, high⟩ := List.forall_mem_cons.mp high
      rw [List.cons_append, passes _ _ _ above, ih high, List.length_cons, Nat.add_assoc,
        Nat.add_comm 1]
  rw [utf8_cons, passed _ (le_of_mem_utf8EncodeChar other), String.length_utf8EncodeChar]

/-- Every character takes at least one byte. -/
theorem utf8EncodeChar_ne_nil (char : Char) : String.utf8EncodeChar char ≠ [] := by
  have filled := char.utf8Size_pos
  rw [← String.length_utf8EncodeChar] at filled
  exact List.ne_nil_of_length_pos filled

/-- The byte of an ASCII character has the character's number. -/
theorem toNat_code {char : Char} (ascii : isAscii char = true) :
    (code char).toNat = char.toNat := by
  have small : char.toNat ≤ 127 := by simpa [isAscii] using ascii
  rw [code, UInt8.toNat_ofNat', Nat.mod_eq_of_lt (by omega)]

/-- A test on bytes detects a kind of ASCII characters if it holds of their bytes and of no byte of
other characters. -/
structure Detects (test : UInt8 → Bool) (kind : Char → Bool) : Prop where
  ascii : ∀ char, isAscii char = true → test (code char) = kind char
  high : ∀ byte, 128 ≤ byte → test byte = false
  other : ∀ char, isAscii char = false → kind char = false

/-- Comparing bytes detects an ASCII character. -/
theorem detects_code (mark : Char) (single : isAscii mark = true) :
    Detects (fun byte => byte == code mark) (fun char => char == mark) where
  -- The byte of an ASCII character is its code, so bytes are equal where the characters are.
  ascii := by
    intro char ascii
    rw [Bool.eq_iff_iff, beq_iff_eq, beq_iff_eq, ← UInt8.toNat_inj, toNat_code ascii,
      toNat_code single]
    exact Char.toNat_inj
  -- The mark lies below 128.
  high := by
    intro byte above
    have small : mark.toNat ≤ 127 := by simpa [isAscii] using single
    have large : 128 ≤ byte.toNat := UInt8.le_iff_toNat_le.mp above
    rw [beq_eq_false_iff_ne]
    rintro rfl
    rw [toNat_code single] at large
    omega
  other := by
    intro char other
    exact beq_eq_false_iff_ne.mpr (ne_of_not_isAscii other mark single)

/-- Different ASCII characters have different bytes. -/
theorem code_eq_iff {char : Char} (ascii : isAscii char = true) (mark : Char)
    (single : isAscii mark = true) : code char = code mark ↔ char = mark := by
  have same := (detects_code _ single).ascii char ascii
  rwa [Bool.eq_iff_iff, beq_iff_eq, beq_iff_eq] at same

/-- A byte above the ASCII range is not that of an ASCII character. -/
theorem ne_code_of_le {byte : UInt8} (above : 128 ≤ byte) (mark : Char)
    (single : isAscii mark = true) : byte ≠ code mark :=
  beq_eq_false_iff_ne.mp ((detects_code _ single).high byte above)

namespace Detects

variable {test : UInt8 → Bool} {kind : Char → Bool}

/-- Two tests together detect both kinds. -/
theorem or {second : UInt8 → Bool} {further : Char → Bool} (left : Detects test kind)
    (right : Detects second further) :
    Detects (fun byte => test byte || second byte) (fun char => kind char || further char) where
  -- Each of the two tests detects its own kind, and so they do together.
  ascii := by
    intro char ascii
    rw [left.ascii char ascii, right.ascii char ascii]
  high := by
    intro byte above
    rw [left.high byte above, right.high byte above, Bool.or_self]
  other := by
    intro char other
    rw [left.other char other, right.other char other, Bool.or_self]

/-- Either all bytes of a character pass unnoticed, or it is a single byte. -/
theorem utf8EncodeChar (detects : Detects test kind) (char : Char) :
    (String.utf8EncodeChar char = [code char] ∧ test (code char) = kind char) ∨
      (kind char = false ∧ ∀ byte ∈ String.utf8EncodeChar char, test byte = false) := by
  cases ascii : isAscii char with
  | true => exact .inl ⟨utf8EncodeChar_of_isAscii ascii, detects.ascii char ascii⟩
  | false =>
    exact .inr ⟨detects.other char ascii, fun byte inside =>
      detects.high byte (le_of_mem_utf8EncodeChar ascii byte inside)⟩

/-- The test holds of the first byte of a text exactly if the first character is of the kind. -/
theorem any_head? (detects : Detects test kind) (text : Text) :
    (utf8 text).head?.any test = text.head?.any kind := by
  cases text with
  | nil => rfl
  | cons char rest =>
    -- The first character is one byte on which the test agrees, or bytes on which it fails.
    rcases detects.utf8EncodeChar char with ⟨single, same⟩ | ⟨no, unnoticed⟩
    · simp [single, same]
    · obtain ⟨first, others, bytes⟩ := List.exists_cons_of_ne_nil (utf8EncodeChar_ne_nil char)
      have passed : test first = false := unnoticed first (by simp [bytes])
      simp [bytes, passed, no]

/-- The test holds of the last byte of a text exactly if the last character is of the kind. -/
theorem any_getLast? (detects : Detects test kind) (text : Text) :
    (utf8 text).getLast?.any test = text.getLast?.any kind := by
  rcases List.eq_nil_or_concat text with rfl | ⟨front, char, rfl⟩
  · rfl
  · rcases detects.utf8EncodeChar char with ⟨single, same⟩ | ⟨no, unnoticed⟩
    · simp [utf8_append, single, same]
    · -- The last byte is one of those of the last character.
      have filled := utf8EncodeChar_ne_nil char
      have passed : test ((String.utf8EncodeChar char).getLast filled) = false :=
        unnoticed _ (List.getLast_mem filled)
      simp [utf8_append, List.getLast?_append, List.getLast?_eq_some_getLast filled, passed, no]

/-- A run of bytes that pass the test is a run of characters of the kind. -/
theorem takeWhile_utf8 (detects : Detects test kind) (text : Text) :
    (utf8 text).takeWhile test = utf8 (text.takeWhile kind) := by
  induction text with
  | nil => rfl
  | cons char rest ih =>
    rcases detects.utf8EncodeChar char with ⟨single, same⟩ | ⟨no, unnoticed⟩
    · rw [utf8_cons, single, List.singleton_append, List.takeWhile_cons, List.takeWhile_cons, same,
        ih]
      split <;> simp [single]
    · -- The run ends at the first byte of such a character.
      obtain ⟨first, others, bytes⟩ := List.exists_cons_of_ne_nil (utf8EncodeChar_ne_nil char)
      have passed : test first = false := unnoticed first (by simp [bytes])
      simp [bytes, passed, no]

end Detects

/-- The bytes behind a front part are those of the rest. -/
theorem drop_utf8 (front rest : Text) :
    (utf8 (front ++ rest)).drop (byteLength front) = utf8 rest := by
  rw [utf8_append, ← length_utf8, List.drop_left]

/-- The byte behind a front part is the first one of the rest. -/
theorem getElem?_utf8 (front rest : Text) :
    (utf8 (front ++ rest))[byteLength front]? = (utf8 rest).head? := by
  rw [← drop_utf8 front rest, List.head?_drop]

/-- The last byte of a text is that of an ASCII character exactly if this character stands there. -/
theorem getLast?_utf8_eq_code_iff {mark : Char} (single : isAscii mark = true) (text : Text) :
    (utf8 text).getLast? = some (code mark) ↔ text.getLast? = some mark := by
  have same := (detects_code _ single).any_getLast? text
  rw [Bool.eq_iff_iff, Option.any_eq_true, Option.any_eq_true] at same
  simpa using same

/-- The byte behind a front part is that of an ASCII character exactly if this character stands
there. -/
theorem getElem?_utf8_eq_code_iff {mark : Char} (single : isAscii mark = true)
    (front rest : Text) :
    (utf8 (front ++ rest))[byteLength front]? = some (code mark) ↔ rest.head? = some mark := by
  have same := (detects_code _ single).any_head? rest
  rw [Bool.eq_iff_iff, Option.any_eq_true, Option.any_eq_true] at same
  rw [getElem?_utf8]
  simpa using same

/-- The two parts of a text around an offset in bytes. There are none if the offset lies inside a
character or behind the end. -/
def partsAt? (offset : Nat) : Text → Option (Text × Text)
  | [] => if offset = 0 then some ([], []) else none
  | char :: rest =>
    if offset = 0 then some ([], char :: rest)
    else if offset < char.utf8Size then none
    else (partsAt? (offset - char.utf8Size) rest).map fun (front, back) => (char :: front, back)

/-- A text falls into two parts behind the bytes of the first. -/
theorem partsAt?_append (front back : Text) :
    partsAt? (byteLength front) (front ++ back) = some (front, back) := by
  induction front with
  | nil => cases back <;> rfl
  | cons char rest ih =>
    -- The offset lies behind the first character, which takes at least one byte.
    have filled := char.utf8Size_pos
    have later : ¬ byteLength (char :: rest) = 0 := by simp only [byteLength_cons]; omega
    have behind : ¬ byteLength (char :: rest) < char.utf8Size := by
      simp only [byteLength_cons]; omega
    have left : byteLength (char :: rest) - char.utf8Size = byteLength rest := by
      simp only [byteLength_cons]; omega
    rw [List.cons_append, partsAt?, if_neg later, if_neg behind, left, ih, Option.map_some]

/-- The parts around an offset are those that make up the text, where the first one takes as many
bytes as the offset says. -/
theorem partsAt?_eq_some_iff {offset : Nat} {text front back : Text} :
    partsAt? offset text = some (front, back) ↔
      text = front ++ back ∧ byteLength front = offset := by
  constructor
  · intro found
    induction text generalizing offset front with
    | nil =>
      simp only [partsAt?] at found
      split at found
      · -- At the offset zero the text is cut before everything else.
        rename_i start
        obtain ⟨rfl, rfl⟩ := Prod.mk.inj (Option.some.inj found)
        exact ⟨rfl, start.symm⟩
      · -- A text that has ended has no later offset.
        exact absurd found (by simp)
    | cons char rest ih =>
      simp only [partsAt?] at found
      split at found
      · rename_i start
        obtain ⟨rfl, rfl⟩ := Prod.mk.inj (Option.some.inj found)
        exact ⟨rfl, start.symm⟩
      · split at found
        · exact absurd found (by simp)
        · -- Further back the first character goes to the front part, and takes its bytes.
          obtain ⟨⟨later, behind⟩, further, equal⟩ := Option.map_eq_some_iff.mp found
          obtain ⟨rfl, rfl⟩ := Prod.mk.inj equal
          obtain ⟨rfl, same⟩ := ih further
          refine ⟨rfl, ?_⟩
          rw [byteLength_cons, same]
          omega
  · rintro ⟨rfl, rfl⟩
    exact partsAt?_append front back

/-- The part of a text between two offsets in bytes, if both lie between characters. -/
def between? (text : Text) (start stop : Nat) : Option Text :=
  (partsAt? stop text).bind fun parts => (partsAt? start parts.1).map Prod.snd

/-- There is a part between two offsets exactly if it stands there in the text. -/
theorem between?_eq_some_iff {text part : Text} {start stop : Nat} :
    between? text start stop = some part ↔ ∃ front back, text = front ++ part ++ back ∧
      byteLength front = start ∧ byteLength (front ++ part) = stop := by
  constructor
  · intro found
    -- The text is cut at the end of the part first, and what comes before it is cut at the start.
    obtain ⟨⟨whole, back⟩, first, rest⟩ := Option.bind_eq_some_iff.mp found
    obtain ⟨⟨front, inner⟩, second, rfl⟩ := Option.map_eq_some_iff.mp rest
    obtain ⟨rfl, stops⟩ := partsAt?_eq_some_iff.mp first
    obtain ⟨rfl, starts⟩ := partsAt?_eq_some_iff.mp second
    exact ⟨front, back, rfl, starts, stops⟩
  · rintro ⟨front, back, rfl, rfl, rfl⟩
    rw [between?, partsAt?_append, Option.bind_some, partsAt?_append, Option.map_some]

/-- Bytes are ordered like the numbers that they are made from. -/
theorem ofNat_cons_lt {first second : Nat} (small : first < 256) (bound : second < 256)
    (left right : List UInt8) :
    UInt8.ofNat first :: left < UInt8.ofNat second :: right ↔
      first < second ∨ first = second ∧ left < right := by
  rw [List.cons_lt_cons_iff, UInt8.lt_iff_toNat_lt, ← UInt8.toNat_inj, UInt8.toNat_ofNat',
    UInt8.toNat_ofNat', Nat.mod_eq_of_lt small, Nat.mod_eq_of_lt bound]

/-- The bytes of a character come before those of a character with a greater code point, whatever
follows them. -/
theorem utf8EncodeChar_lt {a b : Char} (less : a.val < b.val) (left right : List UInt8) :
    String.utf8EncodeChar a ++ left < String.utf8EncodeChar b ++ right := by
  have less : a.val.toNat < b.val.toNat := less
  have bound : b.val.toNat < 0x110000 := by
    rcases b.valid with low | high
    · exact Nat.lt_trans low (by omega)
    · exact high.2
  unfold String.utf8EncodeChar
  generalize a.val.toNat = first at less
  generalize b.val.toNat = second at less bound
  -- The digits to the base 64 are those of the number without its last digit, again and again.
  have thirds (number : Nat) : number / 4096 = number / 64 / 64 := by omega
  have fourths (number : Nat) : number / 262144 = number / 64 / 64 / 64 := by omega
  simp only [thirds, fourths]
  -- A longer form begins with a greater byte; of two that are equally long the digits decide.
  repeat' split
  all_goals
    simp (disch := omega) only [List.cons_append, List.nil_append, ofNat_cons_lt]
    omega

/-- A text comes before another one exactly if its bytes do. -/
theorem before_iff_utf8_lt {left right : Text} :
    before left right = true ↔ utf8 left < utf8 right := by
  -- The first character that differs decides, and its bytes differ in the same direction.
  have forth {left right : Text} (ahead : before left right = true) : utf8 left < utf8 right := by
    induction left generalizing right with
    | nil =>
      cases right with
      | nil => simp at ahead
      | cons b right =>
        obtain ⟨byte, bytes, filled⟩ := List.exists_cons_of_ne_nil (utf8EncodeChar_ne_nil b)
        rw [utf8_nil, utf8_cons, filled]
        exact List.nil_lt_cons byte _
    | cons a left ih =>
      cases right with
      | nil => simp at ahead
      | cons b right =>
        rw [utf8_cons, utf8_cons]
        rcases (cons_before_cons a b left right).mp ahead with less | ⟨rfl, later⟩
        · exact utf8EncodeChar_lt less _ _
        · exact List.append_left_lt (ih later)
  -- The other way round the order is total on both sides.
  refine ⟨forth, fun less => ?_⟩
  by_cases same : left = right
  · exact absurd (same ▸ less) (List.lt_irrefl _)
  · rcases before_or_before same with ahead | behind
    · exact ahead
    · exact absurd less (List.lt_asymm (forth behind))

end Docket.Text
