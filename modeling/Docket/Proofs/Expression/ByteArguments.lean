import Docket.Proofs.Expression.ByteCursor
import Docket.Proofs.Expression.Quoting
import Mathlib.Data.List.Basic

/-! Arguments cut out of a text at byte offsets are those cut out character by character. -/

namespace Docket

namespace Text

/-- Nothing is left of a text by trimming exactly if it is blank. -/
theorem isEmpty_trim (text : Text) : (trim text).isEmpty = blank text := by
  -- Trimming takes away blank characters only.
  have parts := List.takeWhile_append_dropWhile (p := isBlank) (l := text)
  have front : ∀ char ∈ text.takeWhile isBlank, isBlank char = true :=
    fun char inside => List.mem_takeWhile_imp inside
  rw [Bool.eq_iff_iff, List.isEmpty_iff, blank, List.all_eq_true, trim, trimEnd,
    List.reverse_eq_nil_iff, List.dropWhile_eq_nil_iff]
  constructor
  · intro rest char inside
    rw [← parts] at inside
    rcases List.mem_append.mp inside with early | late
    · exact front char early
    · exact rest char (List.mem_reverse.mpr late)
  · intro all char inside
    exact all char ((List.dropWhile_suffix isBlank).subset (List.mem_reverse.mp inside))

end Text

namespace Argument

/-- How the depth and the quotes go on behind a character; there is nothing if it is a comma at
which a text is cut. -/
def step? (depth : Int) (quote : Option Char) (char : Char) : Option (Int × Option Char) :=
  match quote with
  | some mark => some (depth, if char = mark then none else some mark)
  | none =>
    if Call.isQuote char then some (depth, some char)
    else if char = '(' then some (depth + 1, none)
    else if char = ')' then some (depth - 1, none)
    else if char = ',' ∧ depth = 0 then none
    else some (depth, none)

/-- Quotes are only opened by quotation marks. -/
theorem quoted_of_step? {depth : Int} {quote : Option Char}
    (quoted : quote.all Call.isQuote = true) {char : Char} {next : Int × Option Char}
    (moved : step? depth quote char = some next) : next.2.all Call.isQuote = true := by
  -- Quotes stay as they are until their mark closes them.
  cases quote with
  | some mark =>
    obtain rfl := Option.some.inj moved
    simp only
    split
    · rfl
    · exact quoted
  -- Outside quotes only a quotation mark opens some.
  | none =>
    simp only [step?] at moved
    split at moved
    · rename_i opens
      obtain rfl := Option.some.inj moved
      simpa using opens
    · split at moved
      · obtain rfl := Option.some.inj moved
        rfl
      · split at moved
        · obtain rfl := Option.some.inj moved
          rfl
        · split at moved
          · exact absurd moved (by simp)
          · obtain rfl := Option.some.inj moved
            rfl

/-- A character that is not ASCII is no comma and changes nothing. -/
theorem step?_of_not_isAscii {depth : Int} {quote : Option Char}
    (quoted : quote.all Call.isQuote = true) {char : Char} (other : Text.isAscii char = false) :
    step? depth quote char = some (depth, quote) := by
  -- The marks, the parentheses and the comma are all ASCII.
  have apart := Text.ne_of_not_isAscii other
  cases quote with
  | some mark => simp [step?, apart mark (ByteCursor.isAscii_of_isQuote quoted)]
  | none =>
    have plain := ByteCursor.detects_isQuoteByte.other char other
    simp [step?, plain, apart '(' (by decide), apart ')' (by decide), apart ',' (by decide)]

/-- A character ends a piece or belongs to the first one of those that follow. -/
theorem pieces_cons (depth : Int) (quote : Option Char) (char : Char) (rest : Text) :
    pieces depth quote (char :: rest) =
      match step? depth quote char with
      | none => [] :: pieces depth quote rest
      | some (depth, quote) => extend char (pieces depth quote rest) := by
  -- Both sides make the same tests in the same order.
  cases quote with
  | some mark => rfl
  | none =>
    simp only [pieces, step?]
    split
    · rfl
    · split
      · rfl
      · split
        · rfl
        · split <;> rfl

/-- A text has at least one piece. -/
theorem pieces_ne_nil (depth : Int) (quote : Option Char) (text : Text) :
    pieces depth quote text ≠ [] := by
  have cut := pieced_pieces depth quote text
  generalize pieces depth quote text = parts at cut
  obtain ⟨first, others, -, -⟩ := cut
  simp

/-- Only the last piece may be dropped. -/
theorem dropBlankLast_cons (first : Text) {others : List Text} (filled : others ≠ []) :
    dropBlankLast (first :: others) = first :: dropBlankLast others := by
  obtain ⟨front, last, rfl⟩ := (List.eq_nil_or_concat' others).resolve_left filled
  rw [← List.cons_append]
  simp only [dropBlankLast, List.getLast?_concat, List.dropLast_concat]
  split <;> rfl

end Argument

namespace ByteCursor

open Text (code)

/-- A text without the pair of equal quotation marks around it, cut at byte offsets. Gives nothing
if a cut falls inside a character. -/
def unquote? (text : Text) : Option Text :=
  let bytes := Text.utf8 text
  if 2 ≤ bytes.length ∧ bytes.head?.any isQuoteByte = true ∧ bytes.getLast? = bytes.head? then
    Text.between? text 1 (bytes.length - 1)
  else some text

/-- The offsets of the commas at which a text is cut, in bytes that begin at `position`.

The depth has no limit, as in `Argument.pieces`: in the inner text of a call it is never below zero
and at most the number of bytes read so far (`Standing.depth_along_le`), so a counter of 32 bits
with a sign counts the same in texts of less than 2 ^ 31 bytes. -/
def commas (depth : Int) (quote : Option UInt8) (position : Nat) : List UInt8 → List Nat
  | [] => []
  | byte :: rest =>
    match quote with
    | some mark => commas depth (if byte = mark then none else some mark) (position + 1) rest
    | none =>
      if isQuoteByte byte then commas depth (some byte) (position + 1) rest
      else if byte = code '(' then commas (depth + 1) none (position + 1) rest
      -- The depth may go below zero, since nothing has said that the bytes balance.
      else if byte = code ')' then commas (depth - 1) none (position + 1) rest
      else if byte = code ',' ∧ depth = 0 then position :: commas depth none (position + 1) rest
      else commas depth none (position + 1) rest

/-- The arguments in a text from an offset on, where the commas stand at the given offsets. -/
def argumentsAt? (text : Text) (start : Nat) : List Nat → Option (List Text)
  | [] => do
    let last ← Text.between? text start (Text.byteLength text)
    if (Text.trim last).isEmpty then some [] else (unquote? (Text.trim last)).map ([·])
  | comma :: rest => do
    let piece ← Text.between? text start comma
    let argument ← unquote? (Text.trim piece)
    let others ← argumentsAt? text (comma + 1) rest
    some (argument :: others)

/-- The arguments in an inner text, cut at byte offsets. -/
def split? (inner : Text) : Option (List Text) :=
  if (Text.trim inner).isEmpty then some []
  else argumentsAt? inner 0 (commas 0 none 0 (Text.utf8 inner))

/-- Quotation marks are single bytes, so taking them off never cuts a character. -/
theorem unquote?_eq (text : Text) : unquote? text = some (Argument.unquote text) := by
  cases text with
  | nil => rfl
  | cons char rest =>
    have marks := detects_isQuoteByte.any_head? (char :: rest)
    rw [List.head?_cons, Option.any_some] at marks
    -- Without a mark at the front nothing is taken off.
    cases quotes : Call.isQuote char with
    | false =>
      rw [unquote?, if_neg fun all => Bool.false_ne_true (quotes ▸ marks ▸ all.2.1)]
      simp [Argument.unquote, quotes]
    | true =>
      have ascii := isAscii_of_isQuote quotes
      -- The mark at the front is one byte.
      have first : Text.utf8 (char :: rest) = code char :: Text.utf8 rest := by
        rw [Text.utf8_cons, Text.utf8EncodeChar_of_isAscii ascii]
        rfl
      rcases List.eq_nil_or_concat' rest with rfl | ⟨middle, last, rfl⟩
      · simp [unquote?, Argument.unquote, first]
      · have head : (Text.utf8 (char :: (middle ++ [last]))).head? = some (code char) := by
          rw [first, List.head?_cons]
        have tail : (char :: (middle ++ [last])).getLast? = some last := by
          rw [← List.cons_append, List.getLast?_concat]
        have ends := Text.getLast?_utf8_eq_code_iff ascii (char :: (middle ++ [last]))
        rw [tail, Option.some.injEq] at ends
        have long : 2 ≤ (Text.utf8 (char :: (middle ++ [last]))).length := by
          have filled := last.utf8Size_pos
          have opening := char.utf8Size_pos
          simp
          omega
        -- The two ends are the same mark, or the text stays as it is.
        by_cases pair : last = char
        · subst pair
          have single := Text.utf8Size_of_isAscii ascii
          -- Between the first byte and the last one lie whole characters.
          have between : Text.between? (last :: (middle ++ [last])) 1
              ((Text.utf8 (last :: (middle ++ [last]))).length - 1) = some middle := by
            refine Text.between?_eq_some_iff.mpr ⟨[last], [last], by simp, by simp [single], ?_⟩
            simp [single, Nat.add_comm]
          rw [unquote?, if_pos ⟨long, marks.trans quotes, (ends.mpr rfl).trans head.symm⟩, between]
          simp [Argument.unquote, quotes]
        · rw [unquote?, if_neg fun all => pair (ends.mp (all.2.2.trans head))]
          simp [Argument.unquote, pair]

/-- A byte above the ASCII range is no comma and changes nothing. -/
theorem commas_high {quote : Option Char} (quoted : quote.all Call.isQuote = true) (depth : Int)
    (position : Nat) (byte : UInt8) (rest : List UInt8) (above : 128 ≤ byte) :
    commas depth (quote.map code) position (byte :: rest) =
      commas depth (quote.map code) (position + 1) rest := by
  have apart := Text.ne_code_of_le above
  -- It is no mark, no parenthesis and no comma.
  cases quote with
  | some mark =>
    have marks : Call.isQuote mark = true := quoted
    simp [commas, apart mark (isAscii_of_isQuote marks)]
  | none =>
    have plain := detects_isQuoteByte.high byte above
    simp [commas, plain, apart '(' (by decide), apart ')' (by decide), apart ',' (by decide)]

/-- The byte of an ASCII character is a comma to cut at, or moves on, like the character. -/
theorem commas_code {quote : Option Char} (quoted : quote.all Call.isQuote = true) (depth : Int)
    {char : Char} (ascii : Text.isAscii char = true) (position : Nat) (rest : List UInt8) :
    commas depth (quote.map code) position (code char :: rest) =
      match Argument.step? depth quote char with
      | none => position :: commas depth (quote.map code) (position + 1) rest
      | some (depth, quote) => commas depth (quote.map code) (position + 1) rest := by
  -- Within quotes only the mark counts.
  cases quote with
  | some mark =>
    have marks : Call.isQuote mark = true := quoted
    have same := Text.code_eq_iff ascii mark (isAscii_of_isQuote marks)
    by_cases ends : char = mark
    · simp [commas, Argument.step?, ends]
    · simp [commas, Argument.step?, same, ends]
  | none =>
    -- Outside quotes the tests for bytes and for characters agree one by one.
    have marks := detects_isQuoteByte.ascii char ascii
    have opens := Text.code_eq_iff ascii '(' (by decide)
    have closes := Text.code_eq_iff ascii ')' (by decide)
    have parts := Text.code_eq_iff ascii ',' (by decide)
    simp only [Option.map_none, commas, Argument.step?, marks, opens, closes, parts]
    split
    · rfl
    · split
      · rfl
      · split
        · rfl
        · split <;> rfl

/-- A comma at which a text is cut stands at the same place among the bytes. -/
theorem commas_utf8_cons {depth : Int} {quote : Option Char}
    (quoted : quote.all Call.isQuote = true) (position : Nat) (char : Char) (rest : Text) :
    commas depth (quote.map code) position (Text.utf8 (char :: rest)) =
      match Argument.step? depth quote char with
      | none => position ::
          commas depth (quote.map code) (position + char.utf8Size) (Text.utf8 rest)
      | some (depth, quote) =>
          commas depth (quote.map code) (position + char.utf8Size) (Text.utf8 rest) := by
  -- A character is one byte that may count, or bytes that are all passed over.
  cases ascii : Text.isAscii char with
  | true =>
    rw [Text.utf8_cons, Text.utf8EncodeChar_of_isAscii ascii, List.singleton_append,
      commas_code quoted depth ascii, Text.utf8Size_of_isAscii ascii]
  | false =>
    rw [Text.scan_of_not_isAscii (commas_high quoted depth) ascii,
      Argument.step?_of_not_isAscii quoted ascii]

/-- From a place inside an argument on, the arguments cut out at byte offsets are those of the
pieces. -/
theorem argumentsAt?_utf8 (done current rest : Text) (depth : Int) {quote : Option Char}
    (quoted : quote.all Call.isQuote = true) :
    argumentsAt? (done ++ current ++ rest) (Text.byteLength done)
        (commas depth (quote.map code) (Text.byteLength (done ++ current)) (Text.utf8 rest)) =
      some ((Argument.dropBlankLast
        (current.foldr Argument.extend (Argument.pieces depth quote rest))).map
          Argument.ofPiece) := by
  -- The induction is on what is still to be scanned; a comma begins a new argument behind it.
  induction rest generalizing done current depth quote with
  | nil =>
    -- The last argument ends with the text; it is dropped if it is blank.
    have last : Text.between? (done ++ current ++ []) (Text.byteLength done)
        (Text.byteLength (done ++ current ++ [])) = some current :=
      Text.between?_eq_some_iff.mpr ⟨done, [], by simp, rfl, by simp⟩
    have single : current.foldr Argument.extend (Argument.pieces depth quote []) = [current] := by
      rw [Argument.pieces, Argument.foldr_extend, List.append_nil]
    rw [single]
    simp only [Text.utf8_nil, commas, argumentsAt?, last, Option.bind_eq_bind, Option.bind_some,
      Text.isEmpty_trim, unquote?_eq, Option.map_some]
    cases blank : Text.blank current <;> simp [Argument.dropBlankLast, Argument.ofPiece, blank]
  | cons char rest ih =>
    rw [commas_utf8_cons quoted, Argument.pieces_cons]
    cases moved : Argument.step? depth quote char with
    | some next =>
      -- The character belongs to the current argument.
      have later := ih done (current ++ [char]) next.1 (Argument.quoted_of_step? quoted moved)
      have text : done ++ (current ++ [char]) ++ rest = done ++ current ++ char :: rest := by simp
      have place : Text.byteLength (done ++ (current ++ [char])) =
          Text.byteLength (done ++ current) + char.utf8Size := by simp [Nat.add_assoc]
      rw [text, place, List.foldr_append] at later
      exact later
    | none =>
      -- A comma is a single byte; the current argument ends before it.
      have ascii : Text.isAscii char = true := by
        by_contra other
        have stays : Argument.step? depth quote char = some (depth, quote) :=
          Argument.step?_of_not_isAscii quoted (Bool.eq_false_iff.mpr other)
        exact absurd (moved.symm.trans stays) (by simp)
      have size := Text.utf8Size_of_isAscii ascii
      have first : Text.between? (done ++ current ++ char :: rest) (Text.byteLength done)
          (Text.byteLength (done ++ current)) = some current :=
        Text.between?_eq_some_iff.mpr ⟨done, char :: rest, rfl, rfl, rfl⟩
      have later := ih (done ++ current ++ [char]) [] depth quoted
      have text : done ++ current ++ [char] ++ [] ++ rest = done ++ current ++ char :: rest := by
        simp
      have place := Text.byteLength_concat ascii (done ++ current)
      rw [text, List.append_nil, place, List.foldr_nil] at later
      simp only [argumentsAt?, first, size, later, unquote?_eq, Option.bind_eq_bind,
        Option.bind_some, Argument.foldr_extend, List.append_nil,
        Argument.dropBlankLast_cons current (Argument.pieces_ne_nil depth quote rest),
        List.map_cons, Argument.ofPiece]

/-- No cut falls inside a character when arguments are split, and they are the arguments that the
characters give. -/
theorem split?_eq (inner : Text) : split? inner = some (Argument.split inner) := by
  have whole := @argumentsAt?_utf8 [] [] inner 0 none rfl
  simp only [split?, Argument.split, Text.isEmpty_trim]
  split
  · rfl
  · exact whole

end ByteCursor

end Docket
