import Docket.Expression.Segment

/-! The segments of a text make it up, and its calls are the complete calls found in turn. -/

namespace Docket

namespace Segment

/-- The call that a segment is. -/
def call? : Segment → Option Call
  | .text _ => none
  | .call found => some found

/-- The literal text that a segment is; a call has none. -/
def literal : Segment → Text
  | .text literal => literal
  | .call _ => []

/-- The segments for the text before a call: there is none if the text is empty. -/
def lead (before : Text) : List Segment :=
  -- Two calls may follow one another directly.
  if before.isEmpty then [] else [.text before]

@[simp] theorem source_lead (before : Text) : (lead before).flatMap source = before := by
  cases before <;> simp [lead, source]

@[simp] theorem literal_lead (before : Text) : (lead before).flatMap literal = before := by
  cases before <;> simp [lead, literal]

@[simp] theorem call?_lead (before : Text) : (lead before).filterMap call? = [] := by
  cases before <;> simp [lead, call?]

end Segment

/-- The complete calls of a text, from left to right. -/
def Call.all (text : Text) : List Call :=
  (segments text).filterMap Segment.call?

/-- What is left of a text when its complete calls are taken out. -/
def literals (text : Text) : Text :=
  (segments text).flatMap Segment.literal

namespace Call

/-- A text with a call in it, cut at that call, has the call at its front. -/
theorem first?_atFront {afterLetter : Bool} {text : Text} {split : Split}
    (found : first? afterLetter text = some split) :
    first? false (split.call.source ++ split.after) = some ⟨[], split.call, split.after⟩ := by
  induction text generalizing afterLetter split with
  | nil => simp [first?] at found
  | cons char rest ih =>
    have parts := first?_source found
    simp only [first?] at found
    split at found
    · -- The call stands here, so no letter came before it.
      rename_i call after here
      obtain rfl := Option.some.inj found
      rw [List.nil_append] at parts
      simp only [← parts]
      by_cases fresh : (isNameLetter char && !afterLetter) = true
      · rw [if_pos fresh] at here
        have letter : isNameLetter char = true := (Bool.and_eq_true_iff.mp fresh).1
        simp [first?, letter, here]
      · rw [if_neg fresh] at here
        exact absurd here (by simp)
    · -- The call stands later, and the text before it makes no difference.
      obtain ⟨later, behind, rfl⟩ := Option.map_eq_some_iff.mp found
      have same := ih behind
      exact same

/-- What follows a call is shorter than the text. -/
theorem first?_after_length {afterLetter : Bool} {text : Text} {split : Split}
    (found : first? afterLetter text = some split) : split.after.length < text.length := by
  -- The call takes at least its two parentheses.
  have parts := congrArg List.length (first?_source found)
  have filled := source_length_pos split.call
  simp only [List.length_append] at parts
  omega

end Call

namespace Cursor

/-- The cursor behind a segment that was read. -/
def after (cursor : Cursor) (segment : Segment) : Cursor :=
  ⟨cursor.position + Text.byteLength segment.source, cursor.rest.drop segment.source.length⟩

/-- Reading a segment moves the cursor behind it. -/
theorem next?_of_segment? {cursor : Cursor} {segment : Segment}
    (read : cursor.segment? = some segment) :
    cursor.next? =
      some (⟨segment, cursor.position, (cursor.after segment).position⟩, cursor.after segment) := by
  simp only [next?, read, Option.map_some, after]

/-- No segments follow where none can be read. -/
theorem segments_of_segment?_none {cursor : Cursor} (done : cursor.segment? = none) :
    cursor.segments = [] := by
  -- The segments are defined by what is read next, and that is nothing.
  have last : cursor.next? = none := by simp only [next?, done, Option.map_none]
  rw [segments]
  split
  · rfl
  · rename_i next
    exact absurd (last.symm.trans next) (by simp)

/-- The segments that follow, by the next of them. -/
theorem segments_of_segment?_some {cursor : Cursor} {segment : Segment}
    (read : cursor.segment? = some segment) :
    cursor.segments = ⟨segment, cursor.position, (cursor.after segment).position⟩ ::
      (cursor.after segment).segments := by
  -- The segments are defined by what is read next, and that is the segment.
  have moved := next?_of_segment? read
  rw [segments]
  split
  · rename_i next
    exact absurd (moved.symm.trans next) (by simp)
  · rename_i next
    obtain ⟨rfl, rfl⟩ := Prod.mk.inj (Option.some.inj (moved.symm.trans next))
    rfl

/-- Nothing is read only at the end. -/
theorem segment?_eq_none_iff {cursor : Cursor} : cursor.segment? = none ↔ cursor.rest = [] := by
  constructor
  · intro done
    -- Where a character is left, each branch of the definition hands out a segment.
    cases left : cursor.rest with
    | nil => rfl
    | cons char rest =>
      simp only [segment?, left] at done
      split at done
      · rename_i empty
        exact absurd empty (by simp)
      · split at done
        · exact absurd done (by simp)
        · split at done <;> exact absurd done (by simp)
  · intro done
    simp [segment?, done]

/-- A fact about cursors holds if it holds at the end, and before a segment whenever it holds
behind it. -/
theorem readInduction {motive : Cursor → Prop}
    (done : ∀ cursor, cursor.segment? = none → motive cursor)
    (step : ∀ cursor segment, cursor.segment? = some segment → motive (cursor.after segment) →
      motive cursor)
    (cursor : Cursor) : motive cursor := by
  -- Each segment leaves less to be read.
  induction size : cursor.rest.length using Nat.strongRecOn generalizing cursor with
  | _ size ih =>
    cases read : cursor.segment? with
    | none => exact done cursor read
    | some segment =>
      have shorter := next?_shorter (next?_of_segment? read)
      exact step cursor segment read (ih _ (size ▸ shorter) _ rfl)

/-- Where a cursor stands in its text has no influence on the segments that follow. -/
theorem map_value_segments {left right : Cursor} (same : left.rest = right.rest) :
    left.segments.map Located.value = right.segments.map Located.value := by
  -- Both cursors read the same segment and go on at the same rest.
  induction left using readInduction generalizing right with
  | done left done =>
    have read : right.segment? = left.segment? := by simp only [segment?, same]
    rw [segments_of_segment?_none done, segments_of_segment?_none (read.trans done)]
  | step left segment next ih =>
    have read : right.segment? = left.segment? := by simp only [segment?, same]
    rw [segments_of_segment?_some next, segments_of_segment?_some (read.trans next)]
    simp only [List.map_cons, List.cons.injEq, true_and]
    exact ih (by simp only [after, same])

end Cursor

/-- The segments of a text, by the segment at its front. -/
theorem segments_eq_of_segment? {text : Text} {segment : Segment}
    (read : (Cursor.start text).segment? = some segment) :
    segments text = segment :: segments (text.drop segment.source.length) := by
  -- The rest is read from another position, which makes no difference.
  simp only [segments, tokenize]
  rw [Cursor.segments_of_segment?_some read]
  simp only [List.map_cons, List.cons.injEq, true_and]
  exact Cursor.map_value_segments rfl

/-- An empty text has no segments. -/
@[simp] theorem segments_nil : segments [] = [] := by
  have done : (Cursor.start []).segment? = none := rfl
  simp only [segments, tokenize, Cursor.segments_of_segment?_none done, List.map_nil]

/-- A text without a complete call is one literal segment. -/
theorem segments_of_first?_none {text : Text} (absent : Call.first? false text = none) :
    segments text = Segment.lead text := by
  -- All that is left is read as one literal segment.
  cases text with
  | nil => simp [Segment.lead]
  | cons char rest =>
    have read : (Cursor.start (char :: rest)).segment? = some (.text (char :: rest)) := by
      simp [Cursor.segment?, Cursor.start, absent]
    rw [segments_eq_of_segment? read]
    simp [Segment.source, Segment.lead]

/-- A text is cut at its first call: literal text, the call, and the segments after it. -/
theorem segments_of_first?_some {text : Text} {split : Call.Split}
    (found : Call.first? false text = some split) :
    segments text = Segment.lead split.before ++ .call split.call :: segments split.after := by
  -- The text before the call is read first; then the call stands at the front.
  have front := Call.first?_atFront found
  have parts := Call.first?_source found
  obtain ⟨before, call, after⟩ := split
  simp only at front parts ⊢
  have atCall : segments (call.source ++ after) = .call call :: segments after := by
    have filled : call.source ≠ [] := List.ne_nil_of_length_pos call.source_length_pos
    have read : (Cursor.start (call.source ++ after)).segment? = some (.call call) := by
      simp [Cursor.segment?, Cursor.start, front, filled]
    rw [segments_eq_of_segment? read]
    simp [Segment.source]
  cases before with
  | nil =>
    rw [parts]
    exact atCall
  | cons char rest =>
    -- The literal text in front is a segment of its own.
    have read : (Cursor.start text).segment? = some (.text (char :: rest)) := by
      have filled : text.isEmpty = false := by simp [parts]
      simp [Cursor.segment?, Cursor.start, found, filled, -List.isEmpty_iff]
    rw [segments_eq_of_segment? read, parts]
    simp [Segment.source, Segment.lead, atCall]

/-- A fact about texts holds if it holds of texts without complete calls, and of a text with one
whenever it holds of what follows that call. -/
theorem segmentInduction {motive : Text → Prop}
    (plain : ∀ text, Call.first? false text = none → motive text)
    (call : ∀ text split, Call.first? false text = some split → motive split.after → motive text)
    (text : Text) : motive text := by
  -- What follows a call is shorter than the text, so the recursion ends.
  induction size : text.length using Nat.strongRecOn generalizing text with
  | _ size ih =>
    cases found : Call.first? false text with
    | none => exact plain text found
    | some split =>
      have shorter := Call.first?_after_length found
      exact call text split found (ih _ (size ▸ shorter) split.after rfl)

/-- The segments of a text make it up. -/
theorem flatMap_source_segments (text : Text) : (segments text).flatMap Segment.source = text := by
  -- A split gives the text before the call, the call and the rest, in this order.
  induction text using segmentInduction with
  | plain text absent => simp [segments_of_first?_none absent]
  | call text split found ih =>
    rw [segments_of_first?_some found]
    simp [ih, Segment.source, ← Call.first?_source found]

namespace Call

/-- A text holds a complete call exactly if reading it finds one. -/
theorem occursIn_iff_all_ne_nil (text : Text) : occursIn text = true ↔ all text ≠ [] := by
  -- Both look for the first call.
  unfold all occursIn
  cases found : first? false text with
  | none => simp [segments_of_first?_none found]
  | some split => simp [segments_of_first?_some found, Segment.call?]

/-- The source of a call of a text stands in the text. -/
theorem source_infix_of_mem_all {text : Text} {call : Call} (inside : call ∈ all text) :
    call.source <:+: text := by
  obtain ⟨segment, among, same⟩ := List.mem_filterMap.mp inside
  cases segment with
  | text literal => exact absurd same (by simp [Segment.call?])
  | call found =>
    obtain rfl : found = call := Option.some.inj same
    -- One of the segments is part of their concatenation.
    have listed : found.source ∈ (segments text).map Segment.source :=
      List.mem_map.mpr ⟨.call found, among, rfl⟩
    have part := List.infix_of_mem_flatten listed
    rwa [← List.flatMap_def, flatMap_source_segments] at part

end Call

end Docket
