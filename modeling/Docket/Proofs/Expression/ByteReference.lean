import Docket.Proofs.Expression.Reference
import Docket.Proofs.Text.Bytes

/-! References found and replaced byte by byte are those found character by character, and they
begin and end between characters. -/

namespace Docket

namespace Text.Detects

variable {test : UInt8 → Bool} {kind : Char → Bool}

/-- A run of bytes that fail the test is a run of characters of the other kind. -/
theorem takeWhile_not (detects : Detects test fun char => !kind char) (text : Text) :
    (utf8 text).takeWhile (!test ·) = utf8 (text.takeWhile kind) := by
  -- All bytes of such a character fail the test; any other character is a byte that passes it.
  induction text with
  | nil => rfl
  | cons char rest ih =>
    rcases detects.utf8EncodeChar char with ⟨single, same⟩ | ⟨no, unnoticed⟩
    · cases here : kind char with
      | true => simp [single, same, here, ih]
      | false => simp [single, same, here]
    · have here : kind char = true := by simpa using no
      have run : ∀ byte ∈ String.utf8EncodeChar char, (!test byte) = true := by
        intro byte inside
        simp [unnoticed byte inside]
      rw [utf8_cons, List.takeWhile_append_of_pos run, ih, List.takeWhile_cons_of_pos here,
        utf8_cons]

end Text.Detects

namespace Reference

/-- A reference in front of a text is a name between brackets there. -/
theorem Piece.source_reference_append (name rest : Text) :
    Piece.source (.reference name) ++ rest = '<' :: (name ++ '>' :: rest) := by
  simp [Piece.source]

end Reference

namespace ByteCursor

open Text (code)

/-- The bytes of angle brackets. -/
def isBracketByte (byte : UInt8) : Bool :=
  byte == code '<' || byte == code '>'

/-- Where the bytes without angle brackets end that begin at an offset. -/
def nameStop (bytes : List UInt8) (start : Nat) : Nat :=
  start + ((bytes.drop start).takeWhile (!isBracketByte ·)).length

theorem le_nameStop (bytes : List UInt8) (start : Nat) : start ≤ nameStop bytes start :=
  Nat.le_add_right _ _

/-- The names referred to from an offset on, with the places of the references. Where no name and
`>` follow a `<`, the search goes on at the next angle bracket. Gives nothing if a cut falls inside
a character. -/
def references? (text : Text) (position : Nat) : Option (List (Located Text)) :=
  if position < (Text.utf8 text).length then
    if (Text.utf8 text)[position]? = some (code '<') then
      let stop := nameStop (Text.utf8 text) (position + 1)
      if (Text.utf8 text)[stop]? = some (code '>') ∧ position + 1 < stop then do
        let name ← Text.between? text (position + 1) stop
        let others ← references? text (stop + 1)
        some (⟨name, position, stop + 1⟩ :: others)
      -- A bracket that opens nothing is left behind, up to the bracket that ended the name.
      else references? text (max stop (position + 1))
    else references? text (position + 1)
  else some []
termination_by (Text.utf8 text).length - position
decreasing_by
  · omega
  · have : position + 1 ≤ nameStop (Text.utf8 text) (position + 1) := le_nameStop _ _
    omega
  · omega

/-- A text from an offset on, with the references to variables among the given ones replaced by
their values. What stands before a reference without a value is copied later, with the reference. -/
def fill? (bindings : Variables) (text : Text) (copied : Nat) : List (Located Text) → Option Text
  | [] => Text.between? text copied (Text.utf8 text).length
  | reference :: rest =>
    match bindings.get? reference.value with
    -- A reference without a value is copied with the text around it.
    | none => fill? bindings text copied rest
    | some value => do
      let kept ← Text.between? text copied reference.start
      let filled ← fill? bindings text reference.stop rest
      some (kept ++ value ++ filled)

/-- A text with each reference to a variable replaced, cut at byte offsets. -/
def substitute? (bindings : Variables) (text : Text) : Option Text := do
  let found ← references? text 0
  if found.isEmpty then some text else fill? bindings text 0 found

section Search

open Reference

/-- The test for angle brackets among bytes. -/
theorem detects_isBracketByte : Text.Detects isBracketByte fun char => !isNameChar char := by
  have both := (Text.detects_code '<' (by decide)).or (Text.detects_code '>' (by decide))
  have same : (fun char => !isNameChar char) = fun char => char == '<' || char == '>' := by
    funext char
    simp [isNameChar, bne]
  rw [same]
  exact both

/-- The bytes without angle brackets end where the characters do that may stand in a name. -/
theorem nameStop_utf8 (front rest : Text) :
    nameStop (Text.utf8 (front ++ rest)) (Text.byteLength front) =
      Text.byteLength (front ++ rest.takeWhile isNameChar) := by
  rw [nameStop, Text.drop_utf8, detects_isBracketByte.takeWhile_not, Text.length_utf8,
    Text.byteLength_append]

/-- The search goes over bytes that open no reference. -/
theorem references?_over {text : Text} (front others rest : List UInt8)
    (parts : Text.utf8 text = front ++ others ++ rest)
    (free : ∀ byte ∈ others, byte ≠ code '<') :
    references? text front.length = references? text (front.length + others.length) := by
  -- One byte after the other is passed over.
  induction others generalizing front with
  | nil => rfl
  | cons byte others ih =>
    obtain ⟨other, free⟩ := List.forall_mem_cons.mp free
    have inside : front.length < (Text.utf8 text).length := by
      simp [parts]
    have here : (Text.utf8 text)[front.length]? = some byte := by
      simp [parts]
    -- The byte opens no reference, so the search takes one step.
    have closed : ¬ (Text.utf8 text)[front.length]? = some (code '<') := by
      rw [here]
      exact fun same => other (Option.some.inj same)
    have later := ih (front ++ [byte]) (by simp [parts]) free
    rw [references?, if_pos inside, if_neg closed]
    simpa [Nat.add_assoc, Nat.add_comm 1] using later

/-- No byte of a text without `<` opens a reference. -/
theorem ne_of_mem_utf8 {text : Text} (bare : '<' ∉ text) :
    ∀ byte ∈ Text.utf8 text, byte ≠ code '<' := by
  induction text with
  | nil => simp
  | cons char rest ih =>
    obtain ⟨other, bare⟩ := List.ne_and_not_mem_of_not_mem_cons bare
    intro byte inside
    rw [Text.utf8_cons] at inside
    -- The byte is one of the first character or of the rest.
    rcases List.mem_append.mp inside with here | later
    · rcases (Text.detects_code '<' (by decide)).utf8EncodeChar char with ⟨single, same⟩ | ⟨-, high⟩
      · rw [single, List.mem_singleton] at here
        rw [here]
        exact beq_eq_false_iff_ne.mp (same.trans (beq_eq_false_iff_ne.mpr (Ne.symm other)))
      · exact beq_eq_false_iff_ne.mp (high byte here)
    · exact ih bare byte later

/-- The search goes over a text without `<`. -/
theorem references?_skip (front bare rest : Text) (free : '<' ∉ bare) :
    references? (front ++ (bare ++ rest)) (Text.byteLength front) =
      references? (front ++ (bare ++ rest)) (Text.byteLength (front ++ bare)) := by
  have parts : Text.utf8 (front ++ (bare ++ rest)) =
      Text.utf8 front ++ Text.utf8 bare ++ Text.utf8 rest := by
    simp [Text.utf8_append]
  have skipped := references?_over _ _ _ parts (ne_of_mem_utf8 free)
  simpa using skipped

variable (front rest : Text)

/-- Behind a `<` the search looks for the end of a name, and goes on there or behind it. -/
theorem references?_opening :
    references? (front ++ '<' :: rest) (Text.byteLength front) =
      if (rest.dropWhile isNameChar).head? = some '>' ∧ rest.takeWhile isNameChar ≠ [] then do
        let name ← Text.between? (front ++ '<' :: rest) (Text.byteLength (front ++ ['<']))
          (Text.byteLength (front ++ '<' :: rest.takeWhile isNameChar))
        let others ← references? (front ++ '<' :: rest)
          (Text.byteLength (front ++ '<' :: rest.takeWhile isNameChar) + 1)
        some (⟨name, Text.byteLength front,
          Text.byteLength (front ++ '<' :: rest.takeWhile isNameChar) + 1⟩ :: others)
      else references? (front ++ '<' :: rest)
        (Text.byteLength (front ++ '<' :: rest.takeWhile isNameChar)) := by
  have inside := Text.byteLength_lt_length_utf8 front (List.cons_ne_nil '<' rest)
  have opens := (Text.getElem?_utf8_eq_code_iff (show Text.isAscii '<' = true by decide) front
    ('<' :: rest)).mpr rfl
  have next : Text.byteLength front + 1 = Text.byteLength (front ++ ['<']) :=
    (Text.byteLength_concat (by decide) front).symm
  have whole : front ++ ['<'] ++ rest = front ++ '<' :: rest := by simp
  have ends : front ++ ['<'] ++ rest.takeWhile isNameChar =
      front ++ '<' :: rest.takeWhile isNameChar := by simp
  have stop := nameStop_utf8 (front ++ ['<']) rest
  rw [whole, ends] at stop
  -- What stands behind the name among the bytes stands there among the characters.
  have closes := Text.getElem?_utf8_eq_code_iff (show Text.isAscii '>' = true by decide)
    (front ++ '<' :: rest.takeWhile isNameChar) (rest.dropWhile isNameChar)
  rw [List.append_assoc, List.cons_append, List.takeWhile_append_dropWhile] at closes
  -- The name is not empty exactly if it ends behind its start.
  have filled : Text.byteLength (front ++ ['<']) <
      Text.byteLength (front ++ '<' :: rest.takeWhile isNameChar) ↔
        rest.takeWhile isNameChar ≠ [] := by
    rw [← ends, Text.byteLength_append (front ++ ['<'])]
    rcases Text.byteLength_eq_zero_or_pos (rest.takeWhile isNameChar) with empty | long
    · simp [empty]
    · have some : rest.takeWhile isNameChar ≠ [] := by
        intro empty
        rw [empty] at long
        exact absurd long (by simp)
      simp only [ne_eq, some, not_false_eq_true, iff_true]
      omega
  -- The search never goes back, so the greater of the two places is the end of the name.
  have ahead : Text.byteLength (front ++ ['<']) ≤
      Text.byteLength (front ++ '<' :: rest.takeWhile isNameChar) := by
    rw [← ends, Text.byteLength_append (front ++ ['<'])]
    exact Nat.le_add_right _ _
  rw [references?, if_pos inside, if_pos opens]
  simp only [next, stop, closes, filled, Nat.max_eq_left ahead]

/-- Behind a `<` that opens no reference the search goes on with the next character. -/
theorem references?_unclosed {rest : Text} (unnamed : name? rest = none) :
    references? (front ++ '<' :: rest) (Text.byteLength front) =
      references? (front ++ '<' :: rest) (Text.byteLength (front ++ ['<'])) := by
  have absent : ¬ ((rest.dropWhile isNameChar).head? = some '>' ∧
      rest.takeWhile isNameChar ≠ []) := by
    intro both
    rw [name?, Text.runBefore?_eq, if_pos both.symm] at unnamed
    exact absurd unnamed (by simp)
  -- What the search jumps over may stand in a name, so it opens no reference either.
  have free : '<' ∉ rest.takeWhile isNameChar := fun inside =>
    absurd (List.mem_takeWhile_imp inside) (by decide)
  have skipped := references?_skip (front ++ ['<']) (rest.takeWhile isNameChar)
    (rest.dropWhile isNameChar) free
  rw [List.takeWhile_append_dropWhile] at skipped
  simp only [List.append_assoc, List.singleton_append] at skipped
  rw [references?_opening, if_neg absent, skipped]

/-- A name in angle brackets is found, and the search goes on behind it. -/
theorem references?_named {name : Text} (named : IsName name) :
    references? (front ++ (Piece.source (.reference name) ++ rest)) (Text.byteLength front) =
      (references? (front ++ (Piece.source (.reference name) ++ rest))
        (Text.byteLength (front ++ Piece.source (.reference name)))).map
          (⟨name, Text.byteLength front,
            Text.byteLength (front ++ Piece.source (.reference name))⟩ :: ·) := by
  -- The reference ends with its closing bracket, which is one byte.
  have behind : Text.byteLength (front ++ '<' :: name) + 1 =
      Text.byteLength (front ++ Piece.source (.reference name)) := by
    have last := Text.byteLength_concat (show Text.isAscii '>' = true by decide)
      (front ++ '<' :: name)
    rw [← last, List.append_assoc]
    rfl
  -- The name is cut out between its angle brackets.
  have slice : Text.between? (front ++ '<' :: (name ++ '>' :: rest))
      (Text.byteLength (front ++ ['<'])) (Text.byteLength (front ++ '<' :: name)) = some name :=
    Text.between?_eq_some_iff.mpr ⟨front ++ ['<'], '>' :: rest, by simp, rfl, by simp⟩
  rw [Piece.source_reference_append, references?_opening,
    Text.takeWhile_append_mark named.bare (by decide),
    Text.dropWhile_append_mark named.bare (by decide), if_pos ⟨rfl, named.filled⟩, slice, behind]
  cases references? (front ++ '<' :: (name ++ '>' :: rest))
    (Text.byteLength (front ++ Piece.source (.reference name))) <;> rfl

/-- The references are found at the same places among the bytes. -/
theorem references?_utf8 :
    references? (front ++ rest) (Text.byteLength front) =
      some (locate (Text.byteLength front) (pieces rest)) := by
  -- The induction is on the pieces, and the search goes on behind the first of them.
  induction rest using pieceInduction generalizing front with
  | nil =>
    rw [references?, if_neg (by simp), pieces_nil]
    rfl
  | plain char rest other ih =>
    have skipped := references?_skip front [char] rest (by simpa using Ne.symm other)
    have later := ih (front ++ [char])
    rw [List.append_assoc] at later
    rw [← List.singleton_append, skipped, later, List.singleton_append, pieces_cons other, locate]
    simp [Piece.source]
  -- The `<` is a piece of its own.
  | unclosed rest unnamed ih =>
    have later := ih (front ++ ['<'])
    rw [List.append_assoc, List.singleton_append] at later
    rw [references?_unclosed front unnamed, later, pieces_unclosed unnamed, locate]
    simp [Piece.source]
  -- The name is cut out as a whole, and the search goes on behind its `>`.
  | reference name rest named ih =>
    have later := ih (front ++ Piece.source (.reference name))
    rw [List.append_assoc] at later
    rw [← Piece.source_reference_append, references?_named front rest named, later,
      Piece.source_reference_append, pieces_reference named, locate, Option.map_some,
      Text.byteLength_append]

end Search

section Copy

open Reference

variable {bindings : Variables}

/-- Copying what stands between the references gives the pieces with their values. -/
theorem fill?_locate (front kept : Text) (list : List Piece) :
    fill? bindings (front ++ (kept ++ list.flatMap Piece.source)) (Text.byteLength front)
        (locate (Text.byteLength (front ++ kept)) list) =
      some (kept ++ list.flatMap (Piece.value bindings)) := by
  -- What is not yet copied grows with each piece that stands for itself.
  induction list generalizing front kept with
  | nil =>
    have slice : Text.between? (front ++ kept) (Text.byteLength front)
        (Text.byteLength (front ++ kept)) = some kept :=
      Text.between?_eq_some_iff.mpr ⟨front, [], by simp, rfl, rfl⟩
    simpa [locate, fill?] using slice
  | cons piece list ih =>
    -- A piece that stands for itself waits to be copied with the rest.
    have longer (same : piece.value bindings = piece.source) :
        fill? bindings (front ++ (kept ++ (piece :: list).flatMap Piece.source))
            (Text.byteLength front)
            (locate (Text.byteLength (front ++ kept) + Text.byteLength piece.source) list) =
          some (kept ++ (piece :: list).flatMap (Piece.value bindings)) := by
      have later := ih front (kept ++ piece.source)
      simpa [same, Nat.add_assoc] using later
    cases piece with
    | plain char => exact longer rfl
    | reference name =>
      simp only [locate, fill?]
      cases found : bindings.get? name with
      | none => exact longer (by simp [Piece.value, found])
      | some value =>
        have slice : Text.between? (front ++ (kept ++ (Piece.reference name :: list).flatMap
            Piece.source)) (Text.byteLength front) (Text.byteLength (front ++ kept)) = some kept :=
          Text.between?_eq_some_iff.mpr
            ⟨front, (Piece.reference name :: list).flatMap Piece.source, by simp, rfl, rfl⟩
        -- Behind the reference nothing is waiting to be copied.
        have later := ih (front ++ kept ++ Piece.source (.reference name)) []
        have whole : front ++ kept ++ Piece.source (.reference name) ++
            ([] ++ list.flatMap Piece.source) =
              front ++ (kept ++ (Piece.reference name :: list).flatMap Piece.source) := by simp
        rw [whole, List.append_nil, Text.byteLength_append] at later
        simp only [slice, later, Option.bind_eq_bind, Option.bind_some]
        simp [Piece.value, found]

/-- No cut falls inside a character when references are replaced, and the text is the one that the
characters give. -/
theorem substitute?_eq (bindings : Variables) (text : Text) :
    substitute? bindings text = some (bindings.substitute text) := by
  have found := references?_utf8 [] text
  have filled := @fill?_locate bindings [] [] (pieces text)
  rw [flatMap_source_pieces] at filled
  simp only [List.nil_append, Text.byteLength_nil] at found filled
  simp only [substitute?, found, Option.bind_eq_bind, Option.bind_some]
  split
  · rename_i none
    -- Without references copying everything gives the text itself.
    rw [List.isEmpty_iff.mp none, fill?] at filled
    have whole : Text.between? text 0 (Text.utf8 text).length = some text :=
      Text.between?_eq_some_iff.mpr ⟨[], [], by simp, rfl, by simp⟩
    exact whole.symm.trans filled
  · exact filled

end Copy

end ByteCursor

end Docket
