import Docket.Proofs.Expression.Grammar
import Docket.Proofs.Text.Bytes

/-! Calls found byte by byte are those found character by character, and begin and end between
characters. -/

namespace Docket.ByteCursor

open Text (code)

/-- The bytes of name letters. -/
def isNameByte (byte : UInt8) : Bool :=
  code 'A' ≤ byte && byte ≤ code 'Z'

/-- The bytes of quotation marks. -/
def isQuoteByte (byte : UInt8) : Bool :=
  byte == code '\'' || byte == code '"'

/-- Where the run of name letters ends that begins at an offset. -/
def runStop (bytes : List UInt8) (start : Nat) : Nat :=
  start + ((bytes.drop start).takeWhile isNameByte).length

/-- The offset of the parenthesis behind a single run that begins at an offset. -/
def runOpening? (bytes : List UInt8) (start : Nat) : Option Nat :=
  let stop := runStop bytes start
  if stop ≠ start ∧ bytes[stop]? = some (code '(') then some stop else none

/-- The offset of the parenthesis behind a name that begins at an offset. Where a point and a name
letter follow the first run, a second run has to follow. -/
def opening? (bytes : List UInt8) (start : Nat) : Option Nat :=
  let stop := runStop bytes start
  if stop ≠ start ∧ bytes[stop]? = some (code '.') ∧
      (bytes[stop + 1]?).any isNameByte = true then
    runOpening? bytes (stop + 1)
  else runOpening? bytes start

/-- Whether a name begins at an offset: a name letter stands there, and none directly before. -/
def startsName (bytes : List UInt8) (position : Nat) : Bool :=
  (bytes[position]?).any isNameByte &&
    (position == 0 || !(bytes[position - 1]?).any isNameByte)

/-- The offset of the parenthesis at which the depth returns to zero, in bytes that begin at
`position`. -/
def closing? (depth : Nat) (quote : Option UInt8) (position : Nat) : List UInt8 → Option Nat
  | [] => none
  | byte :: rest =>
    match quote with
    | some mark => closing? depth (if byte = mark then none else some mark) (position + 1) rest
    | none =>
      if isQuoteByte byte then closing? depth (some byte) (position + 1) rest
      else if byte = code '(' then closing? (depth + 1) none (position + 1) rest
      else if byte = code ')' then
        -- The parenthesis that opened the call was counted, so the one that closes it leads to
        -- zero.
        if depth - 1 = 0 then some position else closing? (depth - 1) none (position + 1) rest
      else closing? depth none (position + 1) rest

/-- Where a call stands: the offsets at which its name begins and of its two parentheses. -/
structure Spot where
  name : Nat
  opening : Nat
  closing : Nat
deriving DecidableEq, Repr

/-- The parenthesis behind the name that begins at an offset, if one does. -/
def openingAt? (bytes : List UInt8) (position : Nat) : Option Nat :=
  if startsName bytes position then opening? bytes position else none

theorem runOpening?_lt {bytes : List UInt8} {start opening : Nat}
    (found : runOpening? bytes start = some opening) : start < opening := by
  -- A run ends no earlier than it starts, and an empty one is refused.
  have forward : start ≤ runStop bytes start := Nat.le_add_right _ _
  simp only [runOpening?] at found
  split at found
  · rename_i filled
    obtain rfl := Option.some.inj found
    omega
  · exact absurd found (by simp)

/-- A name is followed by its parenthesis. -/
theorem openingAt?_lt {bytes : List UInt8} {position opening : Nat}
    (found : openingAt? bytes position = some opening) : position < opening := by
  -- The parenthesis stands behind the first run, or behind a second one beyond it.
  have forward : position ≤ runStop bytes position := Nat.le_add_right _ _
  simp only [openingAt?, opening?] at found
  split at found
  · split at found
    · have further := runOpening?_lt found
      omega
    · exact runOpening?_lt found
  · exact absurd found (by simp)

/-- The first complete call whose name begins at an offset or behind it. A call without its closing
parenthesis is passed over up to its opening one. -/
def nextCall? (bytes : List UInt8) (position : Nat) : Option Spot :=
  if position < bytes.length then
    match _found : openingAt? bytes position with
    | some opening =>
      match closing? 0 none opening (bytes.drop opening) with
      | some closing => some ⟨position, opening, closing⟩
      | none => nextCall? bytes (opening + 1)
    | none => nextCall? bytes (position + 1)
  else none
termination_by bytes.length - position
decreasing_by
  · have ahead := openingAt?_lt _found
    omega
  · omega

theorem closing?_le {depth : Nat} {quote : Option UInt8} {position closing : Nat}
    {bytes : List UInt8} (found : closing? depth quote position bytes = some closing) :
    position ≤ closing := by
  -- The search only moves forward.
  induction bytes generalizing depth quote position with
  | nil => exact absurd found (by simp [closing?])
  | cons byte rest ih =>
    -- Every branch but one goes on behind the byte.
    have later {depth : Nat} {quote : Option UInt8}
        (found : closing? depth quote (position + 1) rest = some closing) : position ≤ closing :=
      Nat.le_of_succ_le (ih found)
    cases quote with
    | some mark => exact later found
    | none =>
      simp only [closing?] at found
      split at found
      · exact later found
      · split at found
        · exact later found
        · split at found
          · split at found
            · exact (Option.some.inj found).le
            · exact later found
          · exact later found

/-- A call stands at the offset or behind it, and its parts stand in their order. -/
theorem nextCall?_forward {bytes : List UInt8} {position : Nat} {spot : Spot}
    (found : nextCall? bytes position = some spot) :
    position ≤ spot.name ∧ spot.name < spot.closing := by
  fun_induction nextCall? bytes position with
  | case1 position inside opening opens closing closes =>
    obtain rfl := Option.some.inj found
    exact ⟨le_rfl, Nat.lt_of_lt_of_le (openingAt?_lt opens) (closing?_le closes)⟩
  -- After a parenthesis that nothing closes the search goes on behind it.
  | case2 position inside opening opens unclosed ih =>
    have ahead := openingAt?_lt opens
    have later := ih found
    exact ⟨by omega, later.2⟩
  | case3 position inside absent ih =>
    have later := ih found
    exact ⟨by omega, later.2⟩
  | case4 position outside => exact absurd found (by simp)

/-- The test for name letters among bytes. -/
theorem detects_isNameByte : Text.Detects isNameByte Call.isNameLetter where
  -- The code of an ASCII character is its byte, so both tests compare the same numbers.
  ascii := by
    intro char ascii
    have first : (code 'A').toNat = 'A'.toNat := Text.toNat_code (by decide)
    have last : (code 'Z').toNat = 'Z'.toNat := Text.toNat_code (by decide)
    simp only [isNameByte, Call.isNameLetter, UInt8.le_iff_toNat_le, Char.le_def,
      UInt32.le_iff_toNat_le, Text.toNat_code ascii, first, last]
    rfl
  -- All name letters lie below 128.
  high := by
    intro byte above
    have last : (code 'Z').toNat = 'Z'.toNat := Text.toNat_code (by decide)
    have large : 128 ≤ byte.toNat := UInt8.le_iff_toNat_le.mp above
    have letter : 'Z'.toNat = 90 := by decide
    have beyond : ¬ byte ≤ code 'Z' := by
      rw [UInt8.le_iff_toNat_le, last]
      omega
    simp [isNameByte, beyond]
  other := by
    intro char other
    have large : ¬ char.toNat ≤ 127 := by simpa [Text.isAscii] using other
    have letter : 'Z'.toNat = 90 := by decide
    have beyond : ¬ char ≤ 'Z' := by
      rw [Char.le_def, UInt32.le_iff_toNat_le]
      change ¬ char.toNat ≤ 'Z'.toNat
      omega
    simp [Call.isNameLetter, beyond]

/-- The test for quotation marks among bytes. -/
theorem detects_isQuoteByte : Text.Detects isQuoteByte Call.isQuote :=
  (Text.detects_code '\'' (by decide)).or (Text.detects_code '"' (by decide))

/-- The quotation marks are ASCII characters. -/
theorem isAscii_of_isQuote {mark : Char} (quotes : Call.isQuote mark = true) :
    Text.isAscii mark = true := by
  cases ascii : Text.isAscii mark with
  | true => rfl
  | false => exact (detects_isQuoteByte.other mark ascii).symm.trans quotes

section Closing

variable {nesting : Call.Nesting}

/-- A character that is not ASCII leaves a place as it is. -/
theorem step?_of_not_isAscii (quoted : nesting.quote.all Call.isQuote = true) {char : Char}
    (other : Text.isAscii char = false) : nesting.step? char = some nesting := by
  -- Marks and parentheses are ASCII.
  have apart := Text.ne_of_not_isAscii other
  obtain ⟨depth, quote⟩ := nesting
  cases quote with
  | some mark =>
    have marks : Call.isQuote mark = true := quoted
    simp [Call.Nesting.step?, apart mark (isAscii_of_isQuote marks)]
  | none =>
    have plain := detects_isQuoteByte.other char other
    simp [Call.Nesting.step?, plain, apart '(' (by decide), apart ')' (by decide)]

/-- Only quotation marks open quotes. -/
theorem step?_quoted (quoted : nesting.quote.all Call.isQuote = true) {char : Char}
    {next : Call.Nesting} (moved : nesting.step? char = some next) :
    next.quote.all Call.isQuote = true := by
  obtain ⟨depth, quote⟩ := nesting
  -- Quotes stay as they are until their mark closes them.
  cases quote with
  | some mark =>
    obtain rfl := Option.some.inj moved
    simp only
    split
    · rfl
    · exact quoted
  -- Outside quotes only a quotation mark opens some.
  | none =>
    simp only [Call.Nesting.step?] at moved
    split at moved
    · rename_i opens
      obtain rfl := Option.some.inj moved
      simpa using opens
    · split at moved
      · obtain rfl := Option.some.inj moved
        rfl
      · split at moved
        · cases depth with
          | zero => exact absurd moved (by simp)
          | succ outer =>
            obtain rfl := Option.some.inj moved
            rfl
        · obtain rfl := Option.some.inj moved
          rfl

/-- A byte above the ASCII range is passed over. -/
theorem closing?_high (quoted : nesting.quote.all Call.isQuote = true) (depth position : Nat)
    (byte : UInt8) (rest : List UInt8) (above : 128 ≤ byte) :
    closing? depth (nesting.quote.map code) position (byte :: rest) =
      closing? depth (nesting.quote.map code) (position + 1) rest := by
  have apart := Text.ne_code_of_le above
  -- It does not close the quotes.
  cases quote : nesting.quote with
  | some mark =>
    have marks : Call.isQuote mark = true := by simpa [quote] using quoted
    simp [closing?, apart mark (isAscii_of_isQuote marks)]
  -- It is no mark and no parenthesis.
  | none =>
    have plain := detects_isQuoteByte.high byte above
    simp [closing?, plain, apart '(' (by decide), apart ')' (by decide)]

/-- The byte of an ASCII character moves the search for the closing parenthesis like the
character. -/
theorem closing?_code (quoted : nesting.quote.all Call.isQuote = true) {char : Char}
    (ascii : Text.isAscii char = true) (position : Nat) (rest : List UInt8) :
    closing? (nesting.depth + 1) (nesting.quote.map code) position (code char :: rest) =
      match nesting.step? char with
      | none => some position
      | some next => closing? (next.depth + 1) (next.quote.map code) (position + 1) rest := by
  obtain ⟨depth, quote⟩ := nesting
  -- Within quotes only the mark counts.
  cases quote with
  | some mark =>
    have marks : Call.isQuote mark = true := by simpa using quoted
    have same := Text.code_eq_iff ascii mark (isAscii_of_isQuote marks)
    by_cases ends : char = mark
    · simp [closing?, Call.Nesting.step?, ends]
    · simp [closing?, Call.Nesting.step?, same, ends]
  -- Outside quotes the tests for bytes and for characters agree one by one.
  | none =>
    have marks := detects_isQuoteByte.ascii char ascii
    have opens := Text.code_eq_iff ascii '(' (by decide)
    have closes := Text.code_eq_iff ascii ')' (by decide)
    simp only [Option.map_none, closing?, Call.Nesting.step?, marks, opens, closes]
    split
    · rfl
    · split
      · rfl
      · split
        · cases depth <;> rfl
        · rfl

/-- The closing parenthesis is found at the same place among the bytes. -/
theorem closing?_utf8 (quoted : nesting.quote.all Call.isQuote = true) (position : Nat)
    (text : Text) :
    closing? (nesting.depth + 1) (nesting.quote.map code) position (Text.utf8 text) =
      (Call.closing? nesting.depth nesting.quote text).map
        fun found => position + Text.byteLength found.1 := by
  -- A character is one byte that counts, or bytes that all are passed over.
  induction text generalizing nesting position with
  | nil => rfl
  | cons char rest ih =>
    rw [Call.closing?_cons]
    cases ascii : Text.isAscii char with
    | true =>
      rw [Text.utf8_cons, Text.utf8EncodeChar_of_isAscii ascii, List.singleton_append,
        closing?_code quoted ascii]
      -- The character closes the call, or the search goes on behind its one byte.
      cases moved : nesting.step? char with
      | none => simp
      | some next =>
        have single := Text.utf8Size_of_isAscii ascii
        simp only [ih (step?_quoted quoted moved), Option.map_map]
        congr 1
        funext found
        simp [single]
        omega
    | false =>
      rw [Text.scan_of_not_isAscii (closing?_high quoted _) ascii,
        step?_of_not_isAscii quoted ascii, ih quoted]
      simp only [Option.map_map]
      congr 1
      funext found
      simp
      omega

end Closing

section Opening

/-- A run of bytes ends behind the run of name letters. -/
theorem runStop_utf8 (front rest : Text) :
    runStop (Text.utf8 (front ++ rest)) (Text.byteLength front) =
      Text.byteLength (front ++ rest.takeWhile Call.isNameLetter) := by
  rw [runStop, Text.drop_utf8, detects_isNameByte.takeWhile_utf8, Text.length_utf8,
    Text.byteLength_append]

/-- What stands behind a run among the bytes stands there among the characters. -/
theorem getElem?_runStop (mark : Char) (single : Text.isAscii mark = true) (front rest : Text) :
    (Text.utf8 (front ++ rest))[runStop (Text.utf8 (front ++ rest)) (Text.byteLength front)]? =
        some (code mark) ↔ (rest.dropWhile Call.isNameLetter).head? = some mark := by
  -- The run belongs to what stands in front of the place.
  have parts : front ++ rest = (front ++ rest.takeWhile Call.isNameLetter) ++
      rest.dropWhile Call.isNameLetter := by
    rw [List.append_assoc, List.takeWhile_append_dropWhile]
  have there := Text.getElem?_utf8_eq_code_iff single
    (front ++ rest.takeWhile Call.isNameLetter) (rest.dropWhile Call.isNameLetter)
  rw [runStop_utf8]
  rwa [← parts] at there

/-- The parenthesis behind a single run is found at the same place among the bytes. -/
theorem runOpening?_utf8 (front rest : Text) :
    runOpening? (Text.utf8 (front ++ rest)) (Text.byteLength front) =
      (Call.run? rest).map fun found => Text.byteLength (front ++ found.1) := by
  have stop := runStop_utf8 front rest
  have opens := getElem?_runStop '(' (by decide) front rest
  rw [stop] at opens
  simp only [runOpening?, stop, ne_eq, Text.byteLength_append_eq_iff, opens, Call.run?,
    Text.runBefore?_eq]
  split <;> rfl

/-- The parenthesis behind a name is found at the same place among the bytes. -/
theorem opening?_utf8 (front rest : Text) :
    opening? (Text.utf8 (front ++ rest)) (Text.byteLength front) =
      (Call.name? rest).map fun found => Text.byteLength (front ++ found.1) := by
  have stop := runStop_utf8 front rest
  have point := getElem?_runStop '.' (by decide) front rest
  rw [stop] at point
  simp only [opening?, stop, ne_eq, Text.byteLength_append_eq_iff, point, Call.name?_eq,
    runOpening?_utf8]
  by_cases dotted : ¬ rest.takeWhile Call.isNameLetter = [] ∧
      (rest.dropWhile Call.isNameLetter).head? = some '.'
  · -- The second run begins behind the point.
    obtain ⟨more, dropped⟩ := List.head?_eq_some_iff.mp dotted.2
    generalize taken : rest.takeWhile Call.isNameLetter = run at dotted ⊢
    have parts : front ++ rest = (front ++ run ++ ['.']) ++ more := by
      rw [← List.takeWhile_append_dropWhile (p := Call.isNameLetter) (l := rest), taken, dropped]
      simp
    have behind : Text.byteLength (front ++ run) + 1 = Text.byteLength (front ++ run ++ ['.']) :=
      (Text.byteLength_concat (by decide) _).symm
    rw [if_pos dotted, behind, parts, Text.getElem?_utf8, detects_isNameByte.any_head?,
      runOpening?_utf8, dropped, List.tail_cons]
    by_cases follows : more.head?.any Call.isNameLetter = true
    · rw [if_pos ⟨dotted.1, rfl, follows⟩, Option.map_map]
      congr 1
      funext found
      simp
    · -- Neither the first run nor what follows the point is a run before a parenthesis.
      have single : Call.run? rest = none := by
        simp [Call.run?, Text.runBefore?_eq, dropped]
      have second : Call.run? more = none := by
        cases more with
        | nil => rfl
        | cons char others => 
          have other : Call.isNameLetter char = false := by simpa using follows
          simp [Call.run?, Text.runBefore?_eq, other]
      rw [if_neg fun all => follows all.2.2, single, second]
      rfl
  · -- Without a point the name is the run alone.
    rw [if_neg dotted, if_neg fun all => dotted ⟨all.1, all.2.1⟩]

/-- A name begins at the same place among the bytes. -/
theorem startsName_utf8 (front rest : Text) :
    startsName (Text.utf8 (front ++ rest)) (Text.byteLength front) =
      (rest.head?.any Call.isNameLetter && !front.getLast?.any Call.isNameLetter) := by
  -- The byte at the place is the first one of the rest.
  have here : ((Text.utf8 (front ++ rest))[Text.byteLength front]?).any isNameByte =
      rest.head?.any Call.isNameLetter := by
    rw [Text.getElem?_utf8, detects_isNameByte.any_head?]
  -- The byte before is the last one of the text in front, if there is any.
  have before : (Text.byteLength front == 0 ||
      !((Text.utf8 (front ++ rest))[Text.byteLength front - 1]?).any isNameByte) =
        !front.getLast?.any Call.isNameLetter := by
    rcases Text.byteLength_eq_zero_or_pos front with rfl | filled
    · rfl
    · have within : Text.byteLength front - 1 < (Text.utf8 front).length := by
        rw [Text.length_utf8]
        omega
      have last : (Text.utf8 (front ++ rest))[Text.byteLength front - 1]? =
          (Text.utf8 front).getLast? := by
        rw [Text.utf8_append, List.getElem?_append_left within, List.getLast?_eq_getElem?,
          Text.length_utf8]
      have some : ¬ Text.byteLength front = 0 := by omega
      rw [last, detects_isNameByte.any_getLast?]
      simp [some]
  rw [startsName, here, before]

/-- The parenthesis behind a name that begins here is found at the same place among the bytes. No
name begins directly behind a name letter. -/
theorem openingAt?_utf8 (front rest : Text) :
    openingAt? (Text.utf8 (front ++ rest)) (Text.byteLength front) =
      (if front.getLast?.any Call.isNameLetter then none else Call.name? rest).map
        fun found => Text.byteLength (front ++ found.1) := by
  rw [openingAt?, startsName_utf8, opening?_utf8]
  cases front.getLast?.any Call.isNameLetter with
  | true => simp
  | false =>
    -- A name begins with a name letter.
    cases read : Call.name? rest with
    | none => simp
    | some found =>
      obtain ⟨named, rfl⟩ := Call.name?_eq_some_iff.mp read
      obtain ⟨letter, others, same, isLetter⟩ := named.exists_cons
      simp [same, isLetter]

end Opening

section Search

/-- The search goes on at the next byte where no name begins. -/
theorem nextCall?_of_openingAt?_none {bytes : List UInt8} {position : Nat}
    (inside : position < bytes.length) (absent : openingAt? bytes position = none) :
    nextCall? bytes position = nextCall? bytes (position + 1) := by
  rw [nextCall?, if_pos inside]
  split
  · rename_i opening found
    exact absurd (absent.symm.trans found) (by simp)
  · rfl

/-- Where a name begins, the closing parenthesis tells whether it is that of a call. -/
theorem nextCall?_of_openingAt?_some {bytes : List UInt8} {position opening : Nat}
    (inside : position < bytes.length) (opens : openingAt? bytes position = some opening) :
    nextCall? bytes position =
      match closing? 0 none opening (bytes.drop opening) with
      | some closing => some ⟨position, opening, closing⟩
      | none => nextCall? bytes (opening + 1) := by
  -- The search finds the same parenthesis, since it is a function of the place.
  rw [nextCall?, if_pos inside]
  split
  · rename_i found
    obtain rfl := Option.some.inj (opens.symm.trans found)
    rfl
  · rename_i found
    exact absurd (opens.symm.trans found) (by simp)

/-- The search goes over bytes that are no name letters. -/
theorem nextCall?_over (front others rest : List UInt8)
    (free : ∀ byte ∈ others, isNameByte byte = false) :
    nextCall? (front ++ others ++ rest) front.length =
      nextCall? (front ++ others ++ rest) (front.length + others.length) := by
  -- Where no name letter stands no call begins, so the search moves on by one byte.
  induction others generalizing front with
  | nil => rfl
  | cons byte others ih =>
    obtain ⟨other, free⟩ := List.forall_mem_cons.mp free
    have inside : front.length < (front ++ byte :: others ++ rest).length := by simp
    have absent : openingAt? (front ++ byte :: others ++ rest) front.length = none := by
      simp [openingAt?, startsName, other]
    have later := ih (front ++ [byte]) free
    rw [nextCall?_of_openingAt?_none inside absent]
    simpa [Nat.add_assoc, Nat.add_comm 1] using later

/-- Where a call stands that is found in a text behind a front part. -/
def Spot.ofSplit (front : Text) (split : Call.Split) : Spot :=
  let before := front ++ split.before
  ⟨Text.byteLength before, Text.byteLength (before ++ split.call.name),
    Text.byteLength (before ++ split.call.name ++ '(' :: split.call.inner)⟩

/-- Text that a search has passed over counts like text behind which a search begins. -/
theorem map_ofSplit_behind (front back : Text) (found : Option Call.Split) :
    (found.map (Call.Split.behind back)).map (Spot.ofSplit front) =
      found.map (Spot.ofSplit (front ++ back)) := by
  cases found with
  | none => rfl
  | some split => simp [Spot.ofSplit, Call.Split.behind]

/-- The search goes on at the next character where no name with a parenthesis begins. -/
theorem nextCall?_cons (front : Text) (char : Char) (rest : Text)
    (absent : openingAt? (Text.utf8 (front ++ char :: rest)) (Text.byteLength front) = none) :
    nextCall? (Text.utf8 (front ++ char :: rest)) (Text.byteLength front) =
      nextCall? (Text.utf8 (front ++ [char] ++ rest)) (Text.byteLength (front ++ [char])) := by
  have parts : Text.utf8 (front ++ char :: rest) =
      Text.utf8 front ++ String.utf8EncodeChar char ++ Text.utf8 rest := by
    simp [Text.utf8_append]
  have same : front ++ [char] ++ rest = front ++ char :: rest := by simp
  have behind : Text.byteLength (front ++ [char]) =
      (Text.utf8 front).length + (String.utf8EncodeChar char).length := by simp
  rcases detects_isNameByte.utf8EncodeChar char with ⟨single, -⟩ | ⟨-, free⟩
  · -- The next byte is that of the next character.
    have inside := Text.byteLength_lt_length_utf8 front (List.cons_ne_nil char rest)
    rw [nextCall?_of_openingAt?_none inside absent, same, behind, single, Text.length_utf8]
    rfl
  · -- No byte of the character is a name letter.
    rw [same, behind, parts, ← Text.length_utf8]
    exact nextCall?_over _ _ _ free

/-- The closing parenthesis is looked for at the same places among the bytes. -/
theorem closing?_drop_utf8 (front rest : Text) :
    closing? 0 none (Text.byteLength front)
        ((Text.utf8 (front ++ '(' :: rest)).drop (Text.byteLength front)) =
      (Call.closing? 0 none rest).map fun found => Text.byteLength (front ++ '(' :: found.1) := by
  have first : Text.utf8 ('(' :: rest) = code '(' :: Text.utf8 rest := by
    rw [Text.utf8_cons, Text.utf8EncodeChar_of_isAscii (by decide)]
    rfl
  have inside := @closing?_utf8 .outside rfl (Text.byteLength front + 1) rest
  -- The parenthesis that opens the call takes the depth from zero to one.
  have opened : closing? 0 none (Text.byteLength front) (code '(' :: Text.utf8 rest) =
      closing? 1 none (Text.byteLength front + 1) (Text.utf8 rest) := by
    have plain : isQuoteByte (code '(') = false := by decide
    simp [closing?, plain]
  rw [Text.drop_utf8, first, opened]
  refine inside.trans ?_
  -- What is left is that the opening parenthesis is one byte more in front.
  congr 1
  funext found
  simp only [Text.byteLength_append, Text.byteLength_cons]
  rw [show '('.utf8Size = 1 from rfl]
  omega

/-- Where a name with a parenthesis begins, its call is found, or the search goes on behind the
parenthesis. -/
theorem nextCall?_named (front behind : Text) {name : Text} (named : Call.IsName name)
    (fresh : front.getLast?.any Call.isNameLetter = false) :
    nextCall? (Text.utf8 (front ++ (name ++ '(' :: behind))) (Text.byteLength front) =
      match Call.closing? 0 none behind with
      | some (inner, after) => some (.ofSplit front ⟨[], ⟨name, inner⟩, after⟩)
      | none => nextCall? (Text.utf8 (front ++ name ++ ['('] ++ behind))
          (Text.byteLength (front ++ name ++ ['('])) := by
  have filled : name ++ '(' :: behind ≠ [] := by simp
  have inside := Text.byteLength_lt_length_utf8 front filled
  -- The name begins here, and its parenthesis is found at the same place among the bytes.
  have opens := openingAt?_utf8 front (name ++ '(' :: behind)
  rw [fresh, Call.name?_eq_some_iff.mpr ⟨named, rfl⟩] at opens
  have whole : front ++ (name ++ '(' :: behind) = (front ++ name) ++ '(' :: behind := by simp
  have past : front ++ name ++ '(' :: behind = front ++ name ++ ['('] ++ behind := by simp
  have next : Text.byteLength (front ++ name) + 1 = Text.byteLength (front ++ name ++ ['(']) :=
    (Text.byteLength_concat (by decide) _).symm
  rw [nextCall?_of_openingAt?_some inside opens, whole, closing?_drop_utf8]
  -- Either the call is closed, or the search goes on behind that parenthesis.
  cases closed : Call.closing? 0 none behind with
  | some pair => simp [Spot.ofSplit]
  | none => simp only [Option.map_none, next, past]

/-- The first call is found at the same place among the bytes. -/
theorem nextCall?_utf8 (front rest : Text) :
    nextCall? (Text.utf8 (front ++ rest)) (Text.byteLength front) =
      (Call.first? (front.getLast?.any Call.isNameLetter) rest).map (Spot.ofSplit front) := by
  -- The search goes on behind an unclosed parenthesis, or behind a character without a call.
  induction size : rest.length using Nat.strongRecOn generalizing front rest with
  | _ size ih =>
    cases rest with
    | nil => simp [nextCall?, Call.first?]
    | cons char others =>
      have opens := openingAt?_utf8 front (char :: others)
      generalize before : front.getLast?.any Call.isNameLetter = afterLetter at opens ⊢
      cases read : (if afterLetter then none else Call.name? (char :: others)) with
      | none =>
        -- No call stands here, and none is looked for.
        have absent : Call.isNameLetter char = true → afterLetter = false →
            Call.atFront? (char :: others) = none := by
          rintro - rfl
          rw [Call.atFront?, show Call.name? (char :: others) = none from read, Option.bind_none]
        have later := ih others.length (by simp [← size]) (front ++ [char]) others rfl
        have last : (front ++ [char]).getLast?.any Call.isNameLetter = Call.isNameLetter char := by
          simp
        rw [read] at opens
        rw [nextCall?_cons front char others opens, later, last, Call.first?_cons_of_none absent,
          map_ofSplit_behind]
      -- A name stands here. Its call is the next one, or nothing closes it and the search goes on
      -- inside.
      | some found =>
        obtain ⟨name, behind⟩ := found
        have fresh : afterLetter = false := by
          cases afterLetter with
          | false => rfl
          | true => exact absurd read (by simp)
        subst fresh
        obtain ⟨named, parts⟩ := Call.name?_eq_some_iff.mp read
        rw [parts, nextCall?_named front behind named before, Call.first?_named named]
        cases closed : Call.closing? 0 none behind with
        | some pair => rfl
        | none =>
          -- Behind the parenthesis there is less to search, and no name letter stands before it.
          have shorter : behind.length < (char :: others).length := by
            rw [parts]
            simp only [List.length_append, List.length_cons]
            omega
          have later := ih behind.length (size ▸ shorter) (front ++ name ++ ['(']) behind rfl
          have last : (front ++ name ++ ['(']).getLast?.any Call.isNameLetter = false := by
            rw [List.getLast?_concat]
            decide
          rw [last] at later
          simp only [later, map_ofSplit_behind, ← List.append_assoc]

end Search

end Docket.ByteCursor
