import Docket.Proofs.Expression.ByteArguments
import Mathlib.Data.List.Chain

/-! Reading a text byte by byte never cuts a character, and the segments cover the text without
gap or overlap. -/

namespace Docket

/-- A value read from the same bytes. -/
def Located.map {α β : Type} (change : α → β) (located : Located α) : Located β :=
  ⟨change located.value, located.start, located.stop⟩

/-- Located values lie side by side from one offset to another, and none of them is empty. -/
def Tiles {α : Type} (start stop : Nat) : List (Located α) → Prop
  | [] => start = stop
  | located :: rest =>
    located.start = start ∧ located.start < located.stop ∧ Tiles located.stop stop rest

/-- A segment as it is handed out: literal text, or a call with its arguments. -/
inductive Token where
  | text (literal : Text)
  | call (name : Text) (arguments : List Text)
deriving DecidableEq, Repr

/-- What is handed out for a segment. -/
def Segment.token : Segment → Token
  | .text literal => .text literal
  | .call found => .call found.name found.arguments

namespace ByteCursor

/-- Reads the token at an offset, and tells the offset at which to go on. Gives nothing if a cut
falls inside a character. -/
def next? (text : Text) (position : Nat) : Option (Located Token × Nat) :=
  match nextCall? (Text.utf8 text) position with
  | some spot =>
    -- The text before the call comes first; the call is read next time.
    if position < spot.name then do
      let literal ← Text.between? text position spot.name
      some (⟨.text literal, position, spot.name⟩, spot.name)
    else do
      let name ← Text.between? text spot.name spot.opening
      let inner ← Text.between? text (spot.opening + 1) spot.closing
      let arguments ← split? inner
      some (⟨.call name arguments, spot.name, spot.closing + 1⟩, spot.closing + 1)
  | none => do
    let stop := (Text.utf8 text).length
    let literal ← Text.between? text position stop
    some (⟨.text literal, position, stop⟩, stop)

/-- Reading leads forward. -/
theorem next?_forward {text : Text} {position later : Nat} {token : Located Token}
    (inside : position < (Text.utf8 text).length)
    (read : next? text position = some (token, later)) : position < later := by
  unfold next? at read
  split at read
  · rename_i spot found
    -- The reading goes up to the call if text stands before it, and else behind the call.
    have order := nextCall?_forward found
    split at read
    · -- The text before the call ends where the call begins.
      obtain ⟨literal, -, equal⟩ := Option.bind_eq_some_iff.mp read
      obtain ⟨-, rfl⟩ := Prod.mk.inj (Option.some.inj equal)
      assumption
    · obtain ⟨name, -, read⟩ := Option.bind_eq_some_iff.mp read
      obtain ⟨inner, -, read⟩ := Option.bind_eq_some_iff.mp read
      obtain ⟨arguments, -, equal⟩ := Option.bind_eq_some_iff.mp read
      obtain ⟨-, rfl⟩ := Prod.mk.inj (Option.some.inj equal)
      omega
  · obtain ⟨literal, -, equal⟩ := Option.bind_eq_some_iff.mp read
    obtain ⟨-, rfl⟩ := Prod.mk.inj (Option.some.inj equal)
    exact inside

/-- Reads all tokens from an offset on, each with the offset at which the reading stands behind it.
Gives nothing if a cut falls inside a character. -/
def readings? (text : Text) (position : Nat) : Option (List (Located Token × Nat)) :=
  if _inside : position < (Text.utf8 text).length then
    match _read : next? text position with
    | none => none
    | some (token, later) => (readings? text later).map ((token, later) :: ·)
  else some []
termination_by (Text.utf8 text).length - position
decreasing_by
  have ahead := next?_forward _inside _read
  omega

/-- A reading without a failed cut goes on where it stands. -/
theorem readings?_of_next? {text : Text} {position later : Nat} {token : Located Token}
    (inside : position < (Text.utf8 text).length)
    (read : next? text position = some (token, later)) :
    readings? text position = (readings? text later).map ((token, later) :: ·) := by
  -- The reading is a function of the place, so it is the one that is given.
  rw [readings?, dif_pos inside]
  split
  · rename_i failed
    exact absurd (failed.symm.trans read) (by simp)
  · rename_i other behind again
    obtain ⟨rfl, rfl⟩ := Prod.mk.inj (Option.some.inj (again.symm.trans read))
    rfl

section Slices

variable (front : Text) (call : Call) (after : Text)

/-- The name of a call is cut out up to the parenthesis. -/
theorem between?_name :
    Text.between? (front ++ (call.source ++ after)) (Text.byteLength front)
      (Text.byteLength (front ++ call.name)) = some call.name :=
  Text.between?_eq_some_iff.mpr
    ⟨front, '(' :: (call.inner ++ ')' :: after), by simp [Call.source], rfl, rfl⟩

/-- The inner text of a call is cut out between the parentheses. -/
theorem between?_inner :
    Text.between? (front ++ (call.source ++ after)) (Text.byteLength (front ++ call.name) + 1)
      (Text.byteLength (front ++ call.name ++ '(' :: call.inner)) = some call.inner := by
  have opening :=
    Text.byteLength_concat (show Text.isAscii '(' = true by decide) (front ++ call.name)
  exact Text.between?_eq_some_iff.mpr
    ⟨front ++ call.name ++ ['('], ')' :: after, by simp [Call.source], opening, by simp⟩

/-- A call ends behind its closing parenthesis. -/
theorem byteLength_source :
    Text.byteLength (front ++ call.source) =
      Text.byteLength (front ++ call.name ++ '(' :: call.inner) + 1 := by
  have parts : front ++ call.source = (front ++ call.name ++ '(' :: call.inner) ++ [')'] := by
    simp [Call.source]
  rw [parts, Text.byteLength_concat (by decide)]

end Slices

end ByteCursor

namespace Cursor

/-- A cursor stands in a text behind a front part. Unless all is read, no name letter stands
directly before it, so that a name may begin there. -/
structure StandsIn (cursor : Cursor) (text front : Text) : Prop where
  parts : text = front ++ cursor.rest
  place : cursor.position = Text.byteLength front
  fresh : cursor.rest ≠ [] → front.getLast?.any Call.isNameLetter = false

/-- The cursor at the start stands behind nothing. -/
theorem standsIn_start (text : Text) : (start text).StandsIn text [] where
  parts := rfl
  place := rfl
  fresh := fun _ => rfl

variable {cursor : Cursor} {text front : Text} {segment : Segment}

/-- A segment is a call, the text before a call, or all that is left when there is no call. -/
theorem segment?_cases (read : cursor.segment? = some segment) :
    (∃ split, Call.first? false cursor.rest = some split ∧ split.before = [] ∧
        segment = .call split.call) ∨
      (∃ split, Call.first? false cursor.rest = some split ∧ split.before ≠ [] ∧
        segment = .text split.before) ∨
      (Call.first? false cursor.rest = none ∧ segment = .text cursor.rest) := by
  -- One case for each way out of the definition.
  unfold segment? at read
  split at read
  · exact absurd read (by simp)
  · split at read
    · rename_i absent
      exact .inr (.inr ⟨absent, (Option.some.inj read).symm⟩)
    · rename_i split found
      split at read
      · rename_i bare
        exact .inl ⟨split, found, List.isEmpty_iff.mp bare, (Option.some.inj read).symm⟩
      · rename_i led
        exact .inr (.inl ⟨split, found, by simpa using led, (Option.some.inj read).symm⟩)

/-- Where a segment is read, something is left to be read. -/
theorem rest_ne_nil (read : cursor.segment? = some segment) : cursor.rest ≠ [] := by
  intro done
  exact absurd (read.symm.trans (segment?_eq_none_iff.mpr done)) (by simp)

/-- Reading a segment leads forward. -/
theorem position_lt_after (read : cursor.segment? = some segment) :
    cursor.position < (cursor.after segment).position := by
  have filled := (segment?_source read).1
  rcases Text.byteLength_eq_zero_or_pos segment.source with empty | long
  · exact absurd empty filled
  · simp only [after]
    omega

/-- Behind a segment the cursor stands in the text too. -/
theorem StandsIn.after (stands : cursor.StandsIn text front)
    (read : cursor.segment? = some segment) :
    (cursor.after segment).StandsIn text (front ++ segment.source) := by
  -- What was read goes from the rest to the front.
  obtain ⟨-, left, parts⟩ := segment?_source read
  have behind : (cursor.after segment).rest = left := by simp [Cursor.after, parts]
  refine ⟨?_, ?_, ?_⟩
  · rw [stands.parts, behind, parts, List.append_assoc]
  · simp only [Cursor.after, stands.place, Text.byteLength_append]
  · -- A call ends with its parenthesis, and a text before a call not with a name letter.
    intro more
    rcases segment?_cases read with ⟨split, -, -, rfl⟩ | ⟨split, found, -, rfl⟩ | ⟨-, rfl⟩
    · have ends : front ++ split.call.source =
          (front ++ split.call.name ++ '(' :: split.call.inner) ++ [')'] := by simp [Call.source]
      rw [Segment.source, ends, List.getLast?_concat]
      decide
    · rw [← stands.fresh (rest_ne_nil read)] at found
      exact Call.first?_fresh found
    · exact absurd (by simp [Cursor.after, Segment.source]) more

/-- The bytes of a segment that was read are its source. -/
theorem StandsIn.between?_source (stands : cursor.StandsIn text front)
    (read : cursor.segment? = some segment) :
    Text.between? text cursor.position (cursor.after segment).position = some segment.source := by
  have later := stands.after read
  exact Text.between?_eq_some_iff.mpr
    ⟨front, (cursor.after segment).rest, later.parts, stands.place.symm, later.place.symm⟩

/-- A step from byte to byte reads the same segment, and no cut fails. -/
theorem StandsIn.next? (stands : cursor.StandsIn text front)
    (read : cursor.segment? = some segment) :
    ByteCursor.next? text cursor.position =
      some (⟨segment.token, cursor.position, (cursor.after segment).position⟩,
        (cursor.after segment).position) := by
  have slice := stands.between?_source read
  have later := stands.after read
  have unread := rest_ne_nil read
  have search := ByteCursor.nextCall?_utf8 front cursor.rest
  rw [← stands.parts, ← stands.place, stands.fresh unread] at search
  rcases segment?_cases read with ⟨split, found, bare, rfl⟩ | ⟨split, found, led, rfl⟩ |
    ⟨absent, rfl⟩
  · -- The name and the inner text are cut out.
    have parts : text = front ++ (split.call.source ++ split.after) := by
      rw [stands.parts, Call.first?_source found, bare, List.nil_append]
    have ends := later.place
    rw [Segment.source, ByteCursor.byteLength_source] at ends
    have name := ByteCursor.between?_name front split.call split.after
    have inner := ByteCursor.between?_inner front split.call split.after
    rw [← parts] at name inner
    rw [found, Option.map_some, stands.place] at search
    simp only [ByteCursor.next?, stands.place, search, ByteCursor.Spot.ofSplit, bare,
      List.append_nil, Nat.lt_irrefl, if_false, name, inner, ByteCursor.split?_eq, ends]
    rfl
  · -- The text up to the call is cut out.
    have ends : Text.byteLength (front ++ split.before) =
        (cursor.after (.text split.before)).position := later.place.symm
    have ahead := position_lt_after read
    rw [found, Option.map_some] at search
    simp only [ByteCursor.next?, search, ByteCursor.Spot.ofSplit, ends, if_pos ahead, slice]
    rfl
  · -- All that is left is cut out.
    have ends : (Text.utf8 text).length = (cursor.after (.text cursor.rest)).position := by
      rw [Text.length_utf8, stands.parts, later.place]
      rfl
    rw [absent, Option.map_none] at search
    simp only [ByteCursor.next?, search, ends, slice]
    rfl

/-- A run from byte to byte reads the same segments, and no cut fails. -/
theorem StandsIn.readings? (stands : cursor.StandsIn text front) :
    ByteCursor.readings? text cursor.position =
      some (cursor.segments.map fun located => (located.map Segment.token, located.stop)) := by
  induction cursor using readInduction generalizing front with
  | done cursor done =>
    -- The cursor stands at the end.
    have outside : ¬ cursor.position < (Text.utf8 text).length := by
      simp [stands.place, stands.parts, segment?_eq_none_iff.mp done]
    rw [ByteCursor.readings?, dif_neg outside, segments_of_segment?_none done, List.map_nil]
  | step cursor segment read ih =>
    have inside : cursor.position < (Text.utf8 text).length := by
      rw [stands.place, stands.parts]
      exact Text.byteLength_lt_length_utf8 front (rest_ne_nil read)
    rw [ByteCursor.readings?_of_next? inside (stands.next? read), ih (stands.after read),
      segments_of_segment?_some read]
    rfl

/-- The segments that follow lie side by side up to the end. -/
theorem tiles_segments (cursor : Cursor) :
    Tiles cursor.position (cursor.position + Text.byteLength cursor.rest) cursor.segments := by
  induction cursor using readInduction with
  | done cursor done =>
    rw [segments_of_segment?_none done, segment?_eq_none_iff.mp done]
    rfl
  | step cursor segment read ih =>
    obtain ⟨-, left, parts⟩ := segment?_source read
    -- What was read and what is left reach to the same end.
    have whole : (cursor.after segment).position + Text.byteLength (cursor.after segment).rest =
        cursor.position + Text.byteLength cursor.rest := by
      simp only [after, parts, List.drop_left, Text.byteLength_append]
      omega
    rw [segments_of_segment?_some read, ← whole]
    exact ⟨rfl, position_lt_after read, ih⟩

/-- Every segment that follows stands in the text at its place. -/
theorem StandsIn.between?_of_mem (stands : cursor.StandsIn text front)
    {located : Located Segment} (inside : located ∈ cursor.segments) :
    Text.between? text located.start located.stop = some located.value.source := by
  induction cursor using readInduction generalizing front with
  | done cursor done =>
    rw [segments_of_segment?_none done] at inside
    exact absurd inside List.not_mem_nil
  | step cursor segment read ih =>
    rw [segments_of_segment?_some read] at inside
    -- The segment is the next one, or one of those behind it.
    rcases List.mem_cons.mp inside with rfl | later
    · exact stands.between?_source read
    · exact ih (stands.after read) later

end Cursor

/-- Of two neighbouring segments one is a call. -/
theorem isChain_segments (text : Text) :
    (segments text).IsChain fun left right => left.call?.isSome ∨ right.call?.isSome := by
  induction text using segmentInduction with
  | plain text absent =>
    rw [segments_of_first?_none absent, Segment.lead]
    split <;> simp
  | call text split found ih =>
    -- A call may follow on anything, so only the text in front of it has to be looked at.
    have behind : (Segment.call split.call :: segments split.after).IsChain
        fun left right => left.call?.isSome ∨ right.call?.isSome :=
      ih.cons fun next _ => .inl rfl
    rw [segments_of_first?_some found, Segment.lead]
    split
    · exact behind
    · exact behind.cons fun next first => .inr (by
        obtain rfl := Option.some.inj first
        rfl)

/-- Reading a text byte by byte ends and cuts no character: it hands out the segments of the text,
and behind each of them it stands at its end. The segments lie side by side from the start of the
text to its end, none of them is empty, and of two neighbours one is a call. Each literal text and
each call is what stands in the text at its place, and cutting the arguments out of the inner text
of a call cuts no character either. -/
theorem tokenize_lossless (text : Text) :
    ByteCursor.readings? text 0 =
        some ((tokenize text).map fun located => (located.map Segment.token, located.stop)) ∧
      Tiles 0 (Text.utf8 text).length (tokenize text) ∧
      (segments text).IsChain (fun left right => left.call?.isSome ∨ right.call?.isSome) ∧
      (∀ literal start stop, ⟨.text literal, start, stop⟩ ∈ tokenize text →
        Text.between? text start stop = some literal) ∧
      ∀ call start stop, ⟨.call call, start, stop⟩ ∈ tokenize text →
        Text.between? text start stop = some (call.name ++ '(' :: (call.inner ++ [')'])) ∧
          ByteCursor.split? call.inner = some call.arguments := by
  -- The cursor starts at the front of the whole text, and everything is carried along from there.
  have stands := Cursor.standsIn_start text
  refine ⟨stands.readings?, ?_, isChain_segments text, ?_, ?_⟩
  · -- The segments tile what the cursor has before it, and that is the whole text.
    have tiles := Cursor.tiles_segments (Cursor.start text)
    rw [Text.length_utf8]
    simpa [Cursor.start, tokenize] using tiles
  · intro literal start stop inside
    exact stands.between?_of_mem inside
  · intro call start stop inside
    exact ⟨stands.between?_of_mem inside, ByteCursor.split?_eq call.inner⟩

/-- Behind characters of several bytes and an unfinished call, a call with quotes is read. -/
theorem tokenize_lossless_wide :
    ByteCursor.readings? "é(LEFT(A.TRIM('ü' , ż)".toList 0 =
        some [(⟨.text "é(LEFT(".toList, 0, 8⟩, 8),
          (⟨.call "A.TRIM".toList ["ü".toList, "ż".toList], 8, 25⟩, 25)] ∧
      Text.between? "é(LEFT(A.TRIM('ü' , ż)".toList 8 25 = some "A.TRIM('ü' , ż)".toList := by
  -- The segments are evaluated; the readings and the slices come from the general theorem.
  have segmented : tokenize "é(LEFT(A.TRIM('ü' , ż)".toList =
      [⟨.text "é(LEFT(".toList, 0, 8⟩, ⟨.call ⟨"A.TRIM".toList, "'ü' , ż".toList⟩, 8, 25⟩] := by
    decide +kernel
  have lossless := tokenize_lossless "é(LEFT(A.TRIM('ü' , ż)".toList
  rw [segmented] at lossless
  have slices := lossless.2.2.2.2 ⟨"A.TRIM".toList, "'ü' , ż".toList⟩ 8 25 (by decide)
  exact ⟨lossless.1, slices.1⟩

end Docket
