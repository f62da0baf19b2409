import Docket.Proofs.Expression.Grammar
import Docket.Proofs.Expression.Segment

/-! Reading a text finds its complete calls and nothing else, and each of them by itself. -/

namespace Docket

namespace Call

/-- The call at which a text is cut is complete. -/
theorem first?_isComplete {afterLetter : Bool} {text : Text} {split : Split}
    (found : first? afterLetter text = some split) : split.call.IsComplete := by
  -- The search stops at the first place where a call stands at the front.
  induction text generalizing afterLetter split with
  | nil => simp [first?] at found
  | cons char rest ih =>
    simp only [first?] at found
    split at found
    · rename_i call after here
      obtain rfl := Option.some.inj found
      split at here
      · exact (atFront?_eq_some_iff.mp here).1
      · exact absurd here (by simp)
    · obtain ⟨later, behind, rfl⟩ := Option.map_eq_some_iff.mp found
      have complete := ih behind
      exact complete

/-- The text before the first call holds no complete call, also when it is read by itself. -/
theorem first?_before {afterLetter : Bool} {text : Text} {split : Split}
    (found : first? afterLetter text = some split) : first? afterLetter split.before = none := by
  -- A call that ends before the cut would stand in the whole text too, and come first.
  induction text generalizing afterLetter split with
  | nil => simp [first?] at found
  | cons char rest ih =>
    have parts := first?_source found
    simp only [first?] at found
    split at found
    · obtain rfl := Option.some.inj found
      rfl
    · rename_i absent
      obtain ⟨later, behind, rfl⟩ := Option.map_eq_some_iff.mp found
      have nowhere : (if isNameLetter char && !afterLetter then
          atFront? (char :: later.before) else none) = none := by
        split
        · rename_i fresh
          rw [if_pos fresh] at absent
          cases front : atFront? (char :: later.before) with
          | none => rfl
          | some pair =>
            -- What follows a complete call does not matter, so it stands in the longer text.
            obtain ⟨complete, same⟩ := atFront?_eq_some_iff.mp front
            have longer : char :: rest =
                pair.1.source ++ (pair.2 ++ (later.call.source ++ later.after)) := by
              rw [parts, same, List.append_assoc]
            have there := atFront?_eq_some_iff.mpr ⟨complete, longer⟩
            exact absurd (absent.symm.trans there) (by simp)
        · rfl
      simp only [first?, nowhere, ih behind, Option.map_none]

/-- A text has a call among its segments exactly if it holds a complete call. -/
theorem occursIn_iff_exists (text : Text) :
    occursIn text = true ↔ ∃ call, Segment.call call ∈ segments text := by
  rw [occursIn_iff_all_ne_nil]
  -- The calls of a text are those segments that are calls.
  constructor
  · intro filled
    obtain ⟨call, inside⟩ := List.exists_mem_of_ne_nil _ filled
    obtain ⟨segment, among, same⟩ := List.mem_filterMap.mp inside
    cases segment with
    | text literal => exact absurd same (by simp [Segment.call?])
    | call found => exact ⟨found, among⟩
  · rintro ⟨call, inside⟩
    exact List.ne_nil_of_mem (List.mem_filterMap.mpr ⟨.call call, inside, rfl⟩)

end Call

namespace Segment

/-- What a segment is like, whatever text it comes from: a literal text holds no complete call, and
a call is complete. -/
def Sound : Segment → Prop
  | .text literal => Call.first? false literal = none
  | .call found => found.IsComplete

/-- The text before a call is sound if it holds no complete call. -/
theorem sound_of_mem_lead {before : Text} {segment : Segment}
    (absent : Call.first? false before = none) (inside : segment ∈ lead before) :
    segment.Sound := by
  unfold lead at inside
  split at inside
  · exact absurd inside List.not_mem_nil
  · obtain rfl := List.mem_singleton.mp inside
    exact absent

/-- Every segment of a text is sound. -/
theorem sound_of_mem_segments {text : Text} {segment : Segment}
    (inside : segment ∈ segments text) : segment.Sound := by
  -- A text is cut at its first call, and what follows is read in the same way.
  induction text using segmentInduction with
  | plain text absent =>
    rw [segments_of_first?_none absent] at inside
    exact sound_of_mem_lead absent inside
  | call text split found ih =>
    rw [segments_of_first?_some found] at inside
    rcases List.mem_append.mp inside with before | inside
    · exact sound_of_mem_lead (Call.first?_before found) before
    · rcases List.mem_cons.mp inside with rfl | after
      · exact Call.first?_isComplete found
      · exact ih after

end Segment

/-- The source of a complete call is read as that call and nothing else. -/
theorem Call.IsComplete.tokenize_source {call : Call} (complete : call.IsComplete) :
    tokenize call.source = [⟨.call call, 0, Text.byteLength call.source⟩] := by
  -- The call stands at the front, and nothing is left behind it.
  have front := complete.first?_append []
  rw [List.append_nil] at front
  have filled : call.source ≠ [] := List.ne_nil_of_length_pos call.source_length_pos
  have read : (Cursor.start call.source).segment? = some (.call call) := by
    simp [Cursor.segment?, Cursor.start, front, filled]
  have done : ((Cursor.start call.source).after (.call call)).segment? = none := by
    simp [Cursor.segment?, Cursor.start, Cursor.after, Segment.source]
  rw [tokenize, Cursor.segments_of_segment?_some read, Cursor.segments_of_segment?_none done]
  simp [Cursor.start, Cursor.after, Segment.source]

/-- A text is read as one call exactly if that call is complete and the text is its source. -/
theorem segments_eq_singleton_iff {text : Text} {call : Call} :
    segments text = [.call call] ↔ call.IsComplete ∧ text = call.source := by
  constructor
  · intro single
    -- A call that is read is complete, and the sources of the segments make up the text.
    have inside : Segment.call call ∈ segments text := by simp [single]
    have complete : call.IsComplete := Segment.sound_of_mem_segments inside
    have parts := flatMap_source_segments text
    rw [single] at parts
    exact ⟨complete, by simpa [Segment.source] using parts.symm⟩
  · rintro ⟨complete, rfl⟩
    simp [segments, complete.tokenize_source]

/-- A text holds a complete call exactly if one of its segments is a call. Its literal texts hold
none when they are read alone, and the source of each of its calls alone is read as the same call,
with the same name and the same arguments. -/
theorem segments_exact (text : Text) :
    (Call.occursIn text = true ↔ ∃ call, Segment.call call ∈ segments text) ∧
      (∀ literal, Segment.text literal ∈ segments text → Call.occursIn literal = false) ∧
      ∀ call, Segment.call call ∈ segments text →
        tokenize call.source = [⟨.call call, 0, Text.byteLength call.source⟩] := by
  -- What holds of a literal text and of a call alone was read off when the segment was read.
  refine ⟨Call.occursIn_iff_exists text, fun literal inside => ?_, fun call inside => ?_⟩
  · have absent : Call.first? false literal = none := Segment.sound_of_mem_segments inside
    simp [Call.occursIn, absent]
  · have complete : call.IsComplete := Segment.sound_of_mem_segments inside
    exact complete.tokenize_source

/-- Behind an unfinished call the finished ones are found, and each is read alone as it is there. -/
theorem segments_exact_unfinished :
    Call.occursIn "é.LEFT(".toList = false ∧
      tokenize "A.TRIM( ')' )".toList =
        [⟨.call ⟨"A.TRIM".toList, " ')' ".toList⟩, 0, 13⟩] := by
  -- The segments are evaluated; that each is read alone as it is there is general.
  have exact := segments_exact "é.LEFT(A.TRIM( ')' ),2".toList
  have literal : Segment.text "é.LEFT(".toList ∈ segments "é.LEFT(A.TRIM( ')' ),2".toList := by
    decide +kernel
  have call : Segment.call ⟨"A.TRIM".toList, " ')' ".toList⟩ ∈
      segments "é.LEFT(A.TRIM( ')' ),2".toList := by decide +kernel
  exact ⟨exact.2.1 _ literal, exact.2.2 _ call⟩

end Docket
