import Docket.Expression.Call

/-! Segments: the literal texts and complete calls of which an expression consists. -/

namespace Docket

/-- A value together with the bytes of the source from which it was read. -/
structure Located (α : Type) where
  value : α
  start : Nat
  stop : Nat
deriving DecidableEq, Repr

/-- The number of bytes from which a value was read. -/
def Located.size {α : Type} (located : Located α) : Nat :=
  located.stop - located.start

/-- A segment is literal text or a complete call. -/
inductive Segment where
  | text (literal : Text)
  | call (call : Call)
deriving DecidableEq, Repr

namespace Segment

/-- The text from which a segment was read. -/
def source : Segment → Text
  | .text literal => literal
  | .call found => found.source

end Segment

/-- A cursor stands in a text, before the part that is still to be read. -/
structure Cursor where
  position : Nat
  rest : Text
deriving DecidableEq, Repr

namespace Cursor

/-- The cursor at the start of a text. -/
def start (text : Text) : Cursor :=
  ⟨0, text⟩

/-- The next segment: the text up to the next call, or that call if the cursor stands before it. -/
def segment? (cursor : Cursor) : Option Segment :=
  if cursor.rest.isEmpty then none
  else match Call.first? false cursor.rest with
    | none => some (.text cursor.rest)
    | some split =>
      -- The text before a call is a segment of its own; the call comes with the next reading.
      if split.before.isEmpty then some (.call split.call) else some (.text split.before)

/-- Reads the next segment and moves the cursor behind it. -/
def next? (cursor : Cursor) : Option (Located Segment × Cursor) :=
  cursor.segment?.map fun segment =>
    let stop := cursor.position + Text.byteLength segment.source
    (⟨segment, cursor.position, stop⟩, ⟨stop, cursor.rest.drop segment.source.length⟩)

/-- The next segment is a non-empty front part of what is still to be read. -/
theorem segment?_source {cursor : Cursor} {segment : Segment}
    (found : cursor.segment? = some segment) :
    segment.source ≠ [] ∧ ∃ after, cursor.rest = segment.source ++ after := by
  -- Without a call everything is one text; else the text before the call comes first, if there is
  -- any.
  unfold segment? at found
  split at found
  · exact absurd found (by simp)
  · rename_i filled
    split at found
    · simp only [Option.some.injEq] at found
      subst found
      exact ⟨by simpa [Segment.source] using filled, [], by simp [Segment.source]⟩
    · rename_i split cut
      have parts := Call.first?_source cut
      split at found <;> simp only [Option.some.injEq] at found <;> subst found
      · rename_i bare
        refine ⟨?_, split.after, ?_⟩
        · exact List.ne_nil_of_length_pos split.call.source_length_pos
        · rw [parts, List.isEmpty_iff.mp bare]
          rfl
      · rename_i led
        exact ⟨by simpa [Segment.source] using led, split.call.source ++ split.after, parts⟩

/-- Reading a segment leaves less to be read. -/
theorem next?_shorter {cursor later : Cursor} {segment : Located Segment}
    (found : cursor.next? = some (segment, later)) : later.rest.length < cursor.rest.length := by
  obtain ⟨read, found, equal⟩ := Option.map_eq_some_iff.mp found
  obtain ⟨filled, after, parts⟩ := segment?_source found
  -- The segment is not empty, so what follows it is shorter.
  have longer : 0 < read.source.length := List.length_pos_iff.mpr filled
  simp only [Prod.mk.injEq] at equal
  rw [← equal.2]
  simp only [parts, List.drop_left, List.length_append]
  omega

/-- The segments that are still to be read. -/
def segments (cursor : Cursor) : List (Located Segment) :=
  match _found : cursor.next? with
  | none => []
  | some (segment, later) => segment :: later.segments
termination_by cursor.rest.length
decreasing_by exact next?_shorter _found

end Cursor

/-- The segments of a text with their places in it. -/
def tokenize (text : Text) : List (Located Segment) :=
  (Cursor.start text).segments

/-- The segments of a text. -/
def segments (text : Text) : List Segment :=
  (tokenize text).map Located.value

end Docket
