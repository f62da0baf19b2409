import Docket.Proofs.Expression.ByteArguments

/-! The text between the parentheses of a call closes what it opens, as the scan for commas counts
it, so the arguments are what stands between the commas at depth zero. -/

namespace Docket

namespace Argument

/-- A text is only cut at a comma, outside quotes and at depth zero. -/
theorem step?_eq_none_iff {depth : Int} {quote : Option Char} {char : Char} :
    step? depth quote char = none ↔ quote = none ∧ char = ',' ∧ depth = 0 := by
  -- Within quotes every character moves on.
  cases quote with
  | some mark => simp [step?]
  | none =>
    by_cases comma : char = ','
    · subst comma
      have plain : Call.isQuote ',' = false := by decide
      by_cases outermost : depth = 0 <;> simp [step?, plain, outermost]
    · -- Any other character than a comma moves on too, whichever test it meets.
      simp only [step?, comma, false_and, if_false, and_false, iff_false]
      split
      · simp
      · split
        · simp
        · split <;> simp

/-- A character in front of the pieces stands in front of the text that they make up. -/
theorem join_extend (char : Char) {pieces : List Text} (filled : pieces ≠ []) :
    Text.join [','] (extend char pieces) = char :: Text.join [','] pieces := by
  obtain ⟨first, others, rfl⟩ := List.exists_cons_of_ne_nil filled
  cases others with
  | nil => rfl
  | cons second others => simp [extend, Text.join]

/-- An empty piece in front stands before a comma. -/
theorem join_nil_cons {pieces : List Text} (filled : pieces ≠ []) :
    Text.join [','] ([] :: pieces) = ',' :: Text.join [','] pieces := by
  obtain ⟨first, others, rfl⟩ := List.exists_cons_of_ne_nil filled
  rw [Text.join_cons_cons, List.nil_append, List.singleton_append]

/-- The pieces of a text with commas between them make it up. -/
theorem join_pieces (depth : Int) (quote : Option Char) (text : Text) :
    Text.join [','] (pieces depth quote text) = text := by
  induction text generalizing depth quote with
  | nil => rfl
  | cons char rest ih =>
    rw [pieces_cons]
    -- A comma that cuts stands between the empty piece and the rest; any other character joins the
    -- first.
    cases moved : step? depth quote char with
    | none =>
      obtain ⟨-, rfl, -⟩ := step?_eq_none_iff.mp moved
      simp only [join_nil_cons (pieces_ne_nil depth quote rest), ih]
    | some next => simp only [join_extend char (pieces_ne_nil next.1 next.2 rest), ih]

/-- A blank last piece is left out, and any other stays. -/
theorem dropBlankLast_concat (front : List Text) (last : Text) :
    dropBlankLast (front ++ [last]) = front ++ if Text.blank last then [] else [last] := by
  simp only [dropBlankLast, List.getLast?_concat, List.dropLast_concat]
  split <;> simp

end Argument

namespace ByteCursor

open Text (code)

/-- Where the scan for commas stands: the depth, which has a sign since nothing is checked, and the
quotation mark that is open. -/
structure Standing where
  depth : Int
  quote : Option UInt8
deriving DecidableEq, Repr

namespace Standing

/-- Outside quotes and at depth zero. -/
def outside : Standing :=
  ⟨0, none⟩

/-- Where the scan stands behind a byte. -/
def step (standing : Standing) (byte : UInt8) : Standing :=
  match standing.quote with
  | some mark => ⟨standing.depth, if byte = mark then none else some mark⟩
  | none =>
    if isQuoteByte byte then ⟨standing.depth, some byte⟩
    else if byte = code '(' then ⟨standing.depth + 1, none⟩
    else if byte = code ')' then ⟨standing.depth - 1, none⟩
    else ⟨standing.depth, none⟩

/-- Where the scan stands behind some bytes. -/
def along (standing : Standing) (bytes : List UInt8) : Standing :=
  bytes.foldl step standing

@[simp] theorem along_nil (standing : Standing) : standing.along [] = standing := rfl

@[simp] theorem along_cons (standing : Standing) (byte : UInt8) (rest : List UInt8) :
    standing.along (byte :: rest) = (standing.step byte).along rest := rfl

theorem along_append (standing : Standing) (front back : List UInt8) :
    standing.along (front ++ back) = (standing.along front).along back :=
  List.foldl_append

/-- The scan for commas stands where the look for the closing parenthesis does. -/
def ofNesting (nesting : Call.Nesting) : Standing :=
  ⟨nesting.depth, nesting.quote.map code⟩

variable {nesting place : Call.Nesting}

/-- A byte above the ASCII range leaves the scan where it stands. -/
theorem step_high (quoted : nesting.quote.all Call.isQuote = true) {byte : UInt8}
    (above : 128 ≤ byte) : (ofNesting nesting).step byte = ofNesting nesting := by
  have apart := Text.ne_code_of_le above
  obtain ⟨depth, quote⟩ := nesting
  -- It is not the mark that closes the quotes.
  cases quote with
  | some mark =>
    have marks : Call.isQuote mark = true := quoted
    simp [step, ofNesting, apart mark (isAscii_of_isQuote marks)]
  -- Nor is it a mark or a parenthesis.
  | none =>
    have plain := detects_isQuoteByte.high byte above
    simp [step, ofNesting, plain, apart '(' (by decide), apart ')' (by decide)]

/-- Bytes above the ASCII range leave the scan where it stands. -/
theorem along_high (quoted : nesting.quote.all Call.isQuote = true) {bytes : List UInt8}
    (high : ∀ byte ∈ bytes, 128 ≤ byte) : (ofNesting nesting).along bytes = ofNesting nesting := by
  induction bytes with
  | nil => rfl
  | cons byte rest ih =>
    obtain ⟨above, high⟩ := List.forall_mem_cons.mp high
    rw [along_cons, step_high quoted above, ih high]

/-- Where a character leads the look for the closing parenthesis, its byte leads the scan. -/
theorem step_code (quoted : nesting.quote.all Call.isQuote = true) {char : Char}
    (ascii : Text.isAscii char = true) (moved : nesting.step? char = some place) :
    (ofNesting nesting).step (code char) = ofNesting place := by
  obtain ⟨depth, quote⟩ := nesting
  cases quote with
  | some mark =>
    have marks : Call.isQuote mark = true := quoted
    have same := Text.code_eq_iff ascii mark (isAscii_of_isQuote marks)
    obtain rfl := Option.some.inj moved
    by_cases ends : char = mark <;> simp [step, ofNesting, same, ends]
  -- The tests for bytes and for characters agree one by one, in the same order.
  | none =>
    have marks := detects_isQuoteByte.ascii char ascii
    have opens := Text.code_eq_iff ascii '(' (by decide)
    have closes := Text.code_eq_iff ascii ')' (by decide)
    simp only [Call.Nesting.step?] at moved
    simp only [step, ofNesting, Option.map_none, marks, opens, closes]
    split at moved
    · rename_i quotes
      obtain rfl := Option.some.inj moved
      rw [if_pos quotes]
      rfl
    · rename_i plain
      rw [if_neg plain]
      split at moved
      · rename_i opening
        obtain rfl := Option.some.inj moved
        rw [if_pos opening]
        rfl
      · rename_i other
        rw [if_neg other]
        split at moved
        · -- The look ends at a parenthesis that closes nothing, so here one is open.
          rename_i closing
          rw [if_pos closing]
          cases depth with
          | zero => exact absurd moved (by simp)
          | succ outer =>
            obtain rfl := Option.some.inj moved
            simp
        · rename_i plain
          obtain rfl := Option.some.inj moved
          rw [if_neg plain]
          rfl

/-- Where a character leads the look for the closing parenthesis, its bytes lead the scan. -/
theorem along_utf8EncodeChar (quoted : nesting.quote.all Call.isQuote = true) {char : Char}
    (moved : nesting.step? char = some place) :
    (ofNesting nesting).along (String.utf8EncodeChar char) = ofNesting place := by
  -- A character is one byte that counts, or bytes that change nothing.
  cases ascii : Text.isAscii char with
  | true =>
    rw [Text.utf8EncodeChar_of_isAscii ascii, along_cons, step_code quoted ascii moved, along_nil]
  | false =>
    obtain rfl := Option.some.inj ((step?_of_not_isAscii quoted ascii).symm.trans moved)
    exact along_high quoted (Text.le_of_mem_utf8EncodeChar ascii)

/-- Where a text leads the look for the closing parenthesis, its bytes lead the scan. -/
theorem along_utf8 (quoted : nesting.quote.all Call.isQuote = true) {text : Text}
    (leads : nesting.walk? text = some place) :
    (ofNesting nesting).along (Text.utf8 text) = ofNesting place := by
  induction text generalizing nesting with
  | nil =>
    obtain rfl := Option.some.inj leads
    rfl
  | cons char rest ih =>
    -- The bytes of the first character come first, and then those of the rest.
    obtain ⟨next, moved, leads⟩ := Option.bind_eq_some_iff.mp leads
    rw [Text.utf8_cons, along_append, along_utf8EncodeChar quoted moved]
    exact ih (step?_quoted quoted moved) leads

/-- At every byte of a text that leads the look for the closing parenthesis somewhere, the scan for
commas stands where that look would. -/
theorem exists_nesting_of_prefix (quoted : nesting.quote.all Call.isQuote = true) {text : Text}
    (leads : nesting.walk? text = some place) {front : List UInt8}
    (part : front <+: Text.utf8 text) :
    ∃ within, (ofNesting nesting).along front = ofNesting within := by
  -- A part of the bytes ends inside a character or between two of them.
  induction text generalizing nesting front with
  | nil =>
    rw [Text.utf8_nil, List.prefix_nil] at part
    exact ⟨nesting, by rw [part, along_nil]⟩
  | cons char rest ih =>
    obtain ⟨next, moved, leads⟩ := Option.bind_eq_some_iff.mp leads
    obtain ⟨back, whole⟩ := part
    rw [Text.utf8_cons] at whole
    rcases List.append_eq_append_iff.mp whole with ⟨middle, inside, -⟩ | ⟨later, rfl, same⟩
    · -- The part ends within the first character: before its byte, behind it, or among bytes that
      -- change nothing.
      cases ascii : Text.isAscii char with
      | true =>
        rw [Text.utf8EncodeChar_of_isAscii ascii] at inside
        cases front with
        | nil => exact ⟨nesting, rfl⟩
        | cons byte others =>
          obtain ⟨rfl, empty⟩ := List.cons.inj inside
          obtain ⟨rfl, -⟩ := List.append_eq_nil_iff.mp empty.symm
          exact ⟨next, step_code quoted ascii moved⟩
      | false =>
        have high := Text.le_of_mem_utf8EncodeChar ascii
        rw [inside] at high
        exact ⟨nesting, along_high quoted fun byte among =>
          high byte (List.mem_append_left _ among)⟩
    · -- The part goes beyond the first character.
      rw [along_append, along_utf8EncodeChar quoted moved]
      exact ih (step?_quoted quoted moved) leads ⟨back, same.symm⟩

/-- A byte takes the depth up by one at most. -/
theorem depth_step_le (standing : Standing) (byte : UInt8) :
    (standing.step byte).depth ≤ standing.depth + 1 := by
  -- Only an opening parenthesis outside quotes takes it up at all.
  unfold step
  split
  · dsimp only
    omega
  · repeat' split
    all_goals
      dsimp only
      omega

/-- The depth is never greater than the number of bytes. -/
theorem depth_along_le (standing : Standing) (bytes : List UInt8) :
    (standing.along bytes).depth ≤ standing.depth + bytes.length := by
  induction bytes generalizing standing with
  | nil => simp
  | cons byte rest ih =>
    -- The first byte takes the depth up by one at most, and the rest by its length.
    have later := ih (standing.step byte)
    have here := depth_step_le standing byte
    rw [along_cons, List.length_cons]
    push_cast
    omega

end Standing

/-- A comma outside quotes and at depth zero stands at an offset of a text. -/
def IsCut (text : Text) (offset : Nat) : Prop :=
  (Text.utf8 text)[offset]? = some (code ',') ∧
    Standing.outside.along ((Text.utf8 text).take offset) = .outside

/-- The scan for commas finds one here or goes on where the byte leads. -/
theorem commas_cons (standing : Standing) (position : Nat) (byte : UInt8) (rest : List UInt8) :
    commas standing.depth standing.quote position (byte :: rest) =
      (if byte = code ',' ∧ standing = .outside then [position] else []) ++
        commas (standing.step byte).depth (standing.step byte).quote (position + 1) rest := by
  obtain ⟨depth, quote⟩ := standing
  -- Within quotes no comma is found.
  cases quote with
  | some mark => simp [commas, Standing.step, Standing.outside]
  | none =>
    by_cases comma : byte = code ','
    · subst comma
      have plain : isQuoteByte (code ',') = false := by decide
      have opens : code ',' ≠ code '(' := by decide
      have closes : code ',' ≠ code ')' := by decide
      by_cases outermost : depth = 0
      · simp [commas, Standing.step, Standing.outside, plain, opens, closes, outermost]
      · simp [commas, Standing.step, Standing.outside, plain, opens, closes, outermost]
    · -- Any other byte only leads the scan on.
      simp only [commas, Standing.step, comma, false_and, if_false, List.nil_append]
      split
      · rfl
      · split
        · rfl
        · split <;> rfl

/-- The scan finds the commas that stand outside quotes and at depth zero. -/
theorem mem_commas_iff {standing : Standing} {position offset : Nat} {bytes : List UInt8} :
    offset ∈ commas standing.depth standing.quote position bytes ↔
      ∃ count, offset = position + count ∧ bytes[count]? = some (code ',') ∧
        standing.along (bytes.take count) = .outside := by
  induction bytes generalizing standing position with
  | nil => simp [commas]
  | cons byte rest ih =>
    rw [commas_cons, List.mem_append, ih]
    -- The comma is the first byte, or it is one of the rest and the scan has made one step.
    constructor
    · rintro (here | ⟨count, rfl, comma, stands⟩)
      · split at here
        · rename_i both
          obtain ⟨rfl, rfl⟩ := both
          exact ⟨0, by simpa using here, by simp⟩
        · exact absurd here List.not_mem_nil
      · exact ⟨count + 1, by omega, comma, by simpa using stands⟩
    · rintro ⟨count, rfl, comma, stands⟩
      -- No byte lies before the first one, so there the scan stands where it began.
      cases count with
      | zero =>
        left
        have here : byte = code ',' := by simpa using comma
        have outermost : standing = .outside := by simpa using stands
        simp [here, outermost]
      | succ count => exact .inr ⟨count, by omega, by simpa using comma, by simpa using stands⟩

/-- A comma is found wherever pieces that come first end and others follow. -/
theorem mem_commas_utf8_iff {depth : Int} {quote : Option Char}
    (quoted : quote.all Call.isQuote = true) {position offset : Nat} {text : Text} :
    offset ∈ commas depth (quote.map code) position (Text.utf8 text) ↔
      ∃ left right, left ≠ [] ∧ right ≠ [] ∧ left ++ right = Argument.pieces depth quote text ∧
        offset = position + Text.byteLength (Text.join [','] left) := by
  induction text generalizing depth quote position with
  -- An empty text is one piece, which cannot be cut in two that are not empty.
  | nil =>
    simp only [Text.utf8_nil, commas, List.not_mem_nil, Argument.pieces, false_iff]
    rintro ⟨left, right, before, behind, single, -⟩
    have lengths := congrArg List.length single
    have first := List.length_pos_iff.mpr before
    have second := List.length_pos_iff.mpr behind
    simp only [List.length_append, List.length_singleton] at lengths
    omega
  | cons char rest ih =>
    rw [commas_utf8_cons quoted, Argument.pieces_cons]
    cases moved : Argument.step? depth quote char with
    | some next =>
      -- The character belongs to the first piece, which comes first on either side.
      obtain ⟨first, others, parts⟩ := List.exists_cons_of_ne_nil
        (Argument.pieces_ne_nil next.1 next.2 rest)
      simp only
      rw [ih (Argument.quoted_of_step? quoted moved), parts]
      constructor
      · -- Both directions move the character between the first piece and the text before it.
        rintro ⟨left, right, before, behind, cut, rfl⟩
        refine ⟨Argument.extend char left, right, ?_, behind, ?_, ?_⟩
        · cases left <;> simp [Argument.extend]
        · rw [← cut]
          obtain ⟨piece, pieces, rfl⟩ := List.exists_cons_of_ne_nil before
          rfl
        · rw [Argument.join_extend char before, Text.byteLength_cons, Nat.add_assoc]
      · rintro ⟨left, right, before, behind, cut, rfl⟩
        obtain ⟨piece, pieces, rfl⟩ := List.exists_cons_of_ne_nil before
        obtain ⟨rfl, later⟩ := List.cons.inj cut
        refine ⟨first :: pieces, right, by simp, behind, congrArg (first :: ·) later, ?_⟩
        have whole := Argument.join_extend char (List.cons_ne_nil first pieces)
        rw [Argument.extend] at whole
        rw [whole, Text.byteLength_cons, Nat.add_assoc]
    | none =>
      -- The comma ends an empty piece.
      obtain ⟨-, rfl, -⟩ := Argument.step?_eq_none_iff.mp moved
      have filled := Argument.pieces_ne_nil depth quote rest
      simp only [List.mem_cons]
      rw [ih quoted]
      constructor
      · rintro (rfl | ⟨left, right, before, behind, cut, rfl⟩)
        · exact ⟨[[]], Argument.pieces depth quote rest, by simp, filled, rfl, rfl⟩
        · refine ⟨[] :: left, right, by simp, behind, by rw [List.cons_append, cut], ?_⟩
          rw [Argument.join_nil_cons before, Text.byteLength_cons, Nat.add_assoc]
      · rintro ⟨left, right, before, behind, cut, rfl⟩
        obtain ⟨piece, pieces, rfl⟩ := List.exists_cons_of_ne_nil before
        obtain ⟨rfl, later⟩ := List.cons.inj cut
        -- Either this comma is the one that is asked for, or a later one is.
        by_cases last : pieces = []
        · subst last
          exact .inl rfl
        · refine .inr ⟨pieces, right, last, behind, later, ?_⟩
          rw [Argument.join_nil_cons last, Text.byteLength_cons, Nat.add_assoc]

end ByteCursor

namespace Call

open ByteCursor

/-- Between the parentheses of a call the scan for commas never counts below zero, nor further than
there are bytes, and at the end nothing is open. The inner text consists of pieces with commas
between them, which are exactly its commas outside quotes and at depth zero. The arguments that are
cut there are the pieces, trimmed and without quotes, but for a last one that is blank; a blank
inner text has none. -/
theorem arguments_balanced {text : Text} {call : Call}
    (found : Segment.call call ∈ segments text) :
    (∀ front, front <+: Text.utf8 call.inner →
      0 ≤ (Standing.outside.along front).depth ∧
        (Standing.outside.along front).depth ≤ front.length) ∧
    Standing.outside.along (Text.utf8 call.inner) = .outside ∧
    ∃ front last, Text.join [','] (front ++ [last]) = call.inner ∧
      (∀ offset, IsCut call.inner offset ↔ ∃ left right, left ≠ [] ∧ right ≠ [] ∧
        left ++ right = front ++ [last] ∧ offset = Text.byteLength (Text.join [','] left)) ∧
      ByteCursor.split? call.inner = some call.arguments ∧
      call.arguments = if Text.blank call.inner then [] else
        (front ++ if Text.blank last then [] else [last]).map fun piece =>
          Argument.unquote (Text.trim piece) := by
  -- A call among the segments is complete, so the look for its parenthesis ends at depth zero.
  have complete : call.IsComplete := Segment.sound_of_mem_segments found
  have outermost : Standing.ofNesting .outside = .outside := rfl
  refine ⟨fun front part => ⟨?_, ?_⟩, ?_, ?_⟩
  · -- The scan stands where the look for the closing parenthesis would, which counts without sign.
    obtain ⟨within, stands⟩ := Standing.exists_nesting_of_prefix rfl complete.closed part
    rw [← outermost, stands]
    exact Int.natCast_nonneg within.depth
  · have bound := Standing.depth_along_le .outside front
    rwa [show Standing.outside.depth = 0 from rfl, Int.zero_add] at bound
  · exact Standing.along_utf8 rfl complete.closed
  · -- The pieces make up the inner text, and the commas found among bytes are those between them.
    obtain ⟨front, last, parts⟩ := (List.eq_nil_or_concat' _).resolve_left
      (Argument.pieces_ne_nil 0 none call.inner)
    refine ⟨front, last, ?_, fun offset => ?_, ByteCursor.split?_eq call.inner, ?_⟩
    · rw [← parts, Argument.join_pieces]
    · have cuts := @mem_commas_iff .outside 0 offset (Text.utf8 call.inner)
      have pieces := @mem_commas_utf8_iff 0 none rfl 0 offset call.inner
      rw [parts] at pieces
      simp only [Nat.zero_add, exists_eq_left'] at cuts pieces
      rw [IsCut, ← pieces]
      exact cuts.symm
    · rw [Call.arguments, Argument.split, parts, Argument.dropBlankLast_concat]
      rfl

/-- Parentheses in quotes, a nested call, a comma in quotes and a blank last piece. -/
theorem arguments_balanced_nested :
    let text := "é LEFT(TRIM('ä)'),\"(,\", ),2".toList
    let call : Call := ⟨"LEFT".toList, "TRIM('ä)'),\"(,\", ".toList⟩
    Segment.call call ∈ segments text ∧
      (∀ front, front <+: Text.utf8 call.inner →
        0 ≤ (Standing.outside.along front).depth ∧
          (Standing.outside.along front).depth ≤ front.length) ∧
      Standing.outside.along (Text.utf8 call.inner) = .outside ∧
      call.arguments = ["TRIM('ä)')".toList, "(,".toList] := by
  intro text call
  -- That the call is among the segments is evaluated; its balance is a case of the general theorem.
  have found : Segment.call call ∈ segments text := by decide +kernel
  have balanced := arguments_balanced found
  exact ⟨found, balanced.1, balanced.2.1, by decide +kernel⟩

end Call

end Docket
