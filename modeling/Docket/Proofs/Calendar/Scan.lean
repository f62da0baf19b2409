import Docket.Calendar.DatePattern
import Mathlib.Data.List.Find

/-!
A scan of a date pattern, from its first character to its last one.

The scan keeps literal text back until a token follows, and then puts it among its pieces as a
whole. What it has found and what it keeps back show together what the parts of a pattern show, so
nothing is lost or moved on the way.
-/

namespace Docket.DatePattern

/-- What a scan finds: a stretch of literal text, or a token. -/
inductive Piece where
  | literal (text : Text)
  | token (token : Token)
deriving DecidableEq, Repr

/-- What a piece shows of an instant. -/
def Piece.render (instant : Instant) : Piece → Text
  | literal text => text
  | token shown => shown.render instant

/-- Every token takes at least one letter. -/
theorem width_pos {letter : Char} {entry : Nat × Token} (listed : entry ∈ widths letter) :
    0 < entry.1 := by
  -- The table is short enough to look at each of its rows.
  unfold widths at listed
  split at listed <;> simp only [List.mem_cons, List.not_mem_nil, or_false] at listed
  all_goals rcases listed with rfl | rfl | rfl | rfl <;> decide

/-- The letter at an offset belongs to its run. -/
theorem runLength_drop (text : Text) {offset : Nat} (inside : offset < text.length) :
    runLength text[offset] (text.drop offset) =
      runLength text[offset] (text.drop (offset + 1)) + 1 := by
  rw [List.drop_eq_getElem_cons inside, runLength, runLength, List.takeWhile_cons, beq_self_eq_true,
    if_pos rfl, List.length_cons]

/-- What a scan has found, and the literal text that it has read since. -/
structure Scan where
  pieces : List Piece := []
  pending : Text := []
deriving DecidableEq, Repr

namespace Scan

/-- The literal text that was kept back becomes a piece. -/
def flush (scan : Scan) : Scan :=
  if scan.pending.isEmpty then scan else ⟨scan.pieces ++ [.literal scan.pending], []⟩

/-- The scan behind a token. -/
def behindToken (scan : Scan) (token : Token) : Scan :=
  ⟨scan.flush.pieces ++ [.token token], scan.flush.pending⟩

/-- The scan behind literal text. -/
def behindLiteral (scan : Scan) (text : Text) : Scan :=
  { scan with pending := scan.pending ++ text }

/-- The scan behind a run of `count` letters: the longest token is taken first, and letters that no
token takes are literal. -/
def behindRun (letter : Char) (count : Nat) (scan : Scan) : Scan :=
  if 0 < count then
    match _taken : (widths letter).find? fun entry => entry.1 ≤ count with
    | some entry => behindRun letter (count - entry.1) (scan.behindToken entry.2)
    | none => scan.behindLiteral (List.replicate count letter)
  else scan
termination_by count
decreasing_by
  have positive := width_pos (List.mem_of_find?_eq_some _taken)
  omega

/-- The token of a marker that stands at an offset. -/
def markerAt? (text : Text) (offset : Nat) : Option Token :=
  let window := (text.drop offset).take 5
  if window = "AM/PM".toList then some .halfDay
  else if window = "am/pm".toList then some .halfDaySmall
  else none

/-- The pieces of a pattern, read from an offset on behind what was found before. -/
def from? (text : Text) (offset : Nat) (scan : Scan) : Option (List Piece) :=
  if _inside : offset < text.length then
    match markerAt? text offset with
    | some token => from? text (offset + 5) (scan.behindToken token)
    | none =>
      let letter := text[offset]
      if (widths letter).isEmpty then from? text (offset + 1) (scan.behindLiteral [letter])
      else
        let count := runLength letter (text.drop offset)
        if 5 ≤ count && isLimited letter then none
        else from? text (offset + count) (scan.behindRun letter count)
  else some scan.flush.pieces
termination_by text.length - offset
decreasing_by
  · omega
  · omega
  · -- The run holds the letter at the offset at least.
    have run := runLength_drop text _inside
    omega

/-- What a scan shows of an instant so far. -/
def shown (instant : Instant) (scan : Scan) : Text :=
  scan.pieces.flatMap (Piece.render instant) ++ scan.pending

variable (instant : Instant) (scan : Scan)

/-- Literal text shows the same whether it is kept back or not. -/
@[simp] theorem shown_flush : scan.flush.shown instant = scan.shown instant := by
  unfold flush
  split
  · rfl
  · simp [shown, Piece.render]

/-- Nothing is kept back behind a flush. -/
@[simp] theorem pending_flush : scan.flush.pending = [] := by
  unfold flush
  split
  · rename_i empty
    exact List.isEmpty_iff.mp empty
  · rfl

/-- The pieces of a scan that keeps nothing back show what it shows. -/
theorem flatMap_render_flush :
    scan.flush.pieces.flatMap (Piece.render instant) = scan.shown instant := by
  rw [← shown_flush, shown, pending_flush, List.append_nil]

@[simp] theorem shown_behindToken (token : Token) :
    (scan.behindToken token).shown instant = scan.shown instant ++ token.render instant := by
  simp only [shown, behindToken, pending_flush, List.append_nil, List.flatMap_append,
    flatMap_render_flush]
  simp [Piece.render]

@[simp] theorem shown_behindLiteral (text : Text) :
    (scan.behindLiteral text).shown instant = scan.shown instant ++ text := by
  simp [shown, behindLiteral]

end Scan

/-- A run begins with its longest token; letters that no token takes are literal. -/
theorem runParts_of_pos {letter : Char} {count : Nat} (positive : 0 < count) :
    runParts letter count =
      match (widths letter).find? fun entry => entry.1 ≤ count with
      | some entry => .token entry.2 :: runParts letter (count - entry.1)
      | none => List.replicate count (.literal letter) := by
  cases count with
  | zero => exact absurd positive (Nat.lt_irrefl 0)
  | succ less =>
    -- No width in the table is zero, so it does not matter that this is asked for.
    have same : ((widths letter).find? fun entry => 0 < entry.1 && entry.1 ≤ less + 1) =
        (widths letter).find? fun entry => entry.1 ≤ less + 1 :=
      List.find?_congr fun entry listed => by simp [width_pos listed]
    rw [runParts, same]
    cases taken : (widths letter).find? fun entry => entry.1 ≤ less + 1 with
    | none => rfl
    | some entry =>
      have filled := width_pos (List.mem_of_find?_eq_some taken)
      have left : less - (entry.1 - 1) = less + 1 - entry.1 := by omega
      simp only [left]

@[simp] theorem parts?_nil : parts? [] = some [] := by
  rw [parts?]

/-- A marker is read as a whole. -/
theorem parts?_of_marker {text : Text} {token : Token} (marked : marker? text = some token) :
    parts? text = (parts? (text.drop 5)).map (.token token :: ·) := by
  cases text with
  | nil =>
    have unmarked : marker? [] = none := by decide
    exact absurd (unmarked.symm.trans marked) (by simp)
  | cons letter rest => rw [parts?, marked, List.drop_succ_cons]

/-- A character that begins no marker and no token is literal. -/
theorem parts?_of_literal {letter : Char} {rest : Text} (unmarked : marker? (letter :: rest) = none)
    (plain : widths letter = []) :
    parts? (letter :: rest) = (parts? rest).map (.literal letter :: ·) := by
  rw [parts?, unmarked, plain]
  rfl

/-- A letter of tokens is read together with its run, which may mean nothing. -/
theorem parts?_of_run {letter : Char} {rest : Text} (unmarked : marker? (letter :: rest) = none)
    (lettered : widths letter ≠ []) :
    parts? (letter :: rest) =
      if 5 ≤ runLength letter rest + 1 && isLimited letter then none
      else (parts? (rest.drop (runLength letter rest))).map
        (runParts letter (runLength letter rest + 1) ++ ·) := by
  -- No marker stands here and the letter has widths, so only the length of the run is asked.
  have filled : (widths letter).isEmpty = false := List.isEmpty_eq_false_iff.mpr lettered
  rw [parts?, unmarked, filled, Bool.and_comm]
  rfl

namespace Scan

/-- A run shows what its parts show. -/
theorem shown_behindRun (instant : Instant) (letter : Char) (count : Nat) (scan : Scan) :
    (behindRun letter count scan).shown instant =
      scan.shown instant ++ (runParts letter count).flatMap (Part.render instant) := by
  -- Both take the same token first, and go on with the letters that it leaves.
  fun_induction behindRun letter count scan with
  | case1 count scan positive entry taken ih =>
    rw [ih, runParts_of_pos positive, taken, shown_behindToken]
    simp [Part.render]
  | case2 count scan positive untaken =>
    rw [runParts_of_pos positive, untaken, shown_behindLiteral]
    simp [List.flatMap_replicate, Part.render]
  | case3 count scan empty =>
    obtain rfl : count = 0 := by omega
    simp [runParts]

/-- A window of five characters holds a marker if a marker stands at its front. -/
theorem markerAt?_eq (text : Text) (offset : Nat) :
    markerAt? text offset = marker? (text.drop offset) := by
  have front (marker : Text) (five : marker.length = 5) :
      (text.drop offset).take 5 = marker ↔ Text.startsWith (text.drop offset) marker = true := by
    rw [Text.startsWith, List.isPrefixOf_iff_prefix, List.prefix_iff_eq_take, five, eq_comm]
  simp only [markerAt?, marker?, front "AM/PM".toList rfl, front "am/pm".toList rfl]

/-- Where a scan comes to an end, its pieces show what was found before and what the parts of the
rest of the pattern show. Where the rest means nothing, the scan fails. -/
theorem map_render_from? (instant : Instant) (text : Text) (offset : Nat) (scan : Scan) :
    (from? text offset scan).map (·.flatMap (Piece.render instant)) =
      (parts? (text.drop offset)).map fun parts =>
        scan.shown instant ++ parts.flatMap (Part.render instant) := by
  -- One case for each way the scan moves on: a marker, a literal, a run without meaning, a run, the
  -- end.
  fun_induction from? text offset scan with
  | case1 offset scan inside token marked ih =>
    rw [markerAt?_eq] at marked
    rw [ih, parts?_of_marker marked, List.drop_drop, shown_behindToken]
    simp [Function.comp_def, Part.render]
  -- A literal is kept back, and is shown with what was found before.
  | case2 offset scan inside unmarked letter plain ih =>
    rw [markerAt?_eq, List.drop_eq_getElem_cons inside] at unmarked
    rw [ih, List.drop_eq_getElem_cons inside,
      parts?_of_literal unmarked (List.isEmpty_iff.mp plain), shown_behindLiteral]
    simp [Function.comp_def, Part.render, letter]
  -- A run without meaning ends the scan, and the rest of the pattern has no parts.
  | case3 offset scan inside unmarked letter lettered count meaningless =>
    have here := List.drop_eq_getElem_cons inside
    rw [markerAt?_eq, here] at unmarked
    have run : count = runLength letter (text.drop (offset + 1)) + 1 := runLength_drop text inside
    rw [run] at meaningless
    rw [here, parts?_of_run unmarked (List.isEmpty_eq_false_iff.mp (by simpa using lettered)),
      if_pos meaningless]
    rfl
  -- The scan counts the run from its first letter, the parts from the second one.
  | case4 offset scan inside unmarked letter lettered count meaning ih =>
    have here := List.drop_eq_getElem_cons inside
    rw [markerAt?_eq, here] at unmarked
    have run : count = runLength letter (text.drop (offset + 1)) + 1 := runLength_drop text inside
    have behind : offset + count = offset + 1 + runLength letter (text.drop (offset + 1)) := by
      omega
    rw [run] at meaning
    rw [ih, shown_behindRun, here,
      parts?_of_run unmarked (List.isEmpty_eq_false_iff.mp (by simpa using lettered)),
      if_neg meaning, List.drop_drop, behind, ← run]
    simp [Function.comp_def, letter]
  -- At the end nothing is kept back any more.
  | case5 offset scan outside =>
    rw [List.drop_eq_nil_of_le (Nat.not_lt.mp outside)]
    simp [flatMap_render_flush]

end Scan

/-- The pieces of a pattern as a scan finds them, unless a run in it means nothing. -/
def scan? (pattern : Text) : Option (List Piece) :=
  Scan.from? pattern 0 {}

/-- An instant in a pattern, as a scan of the pattern shows it. -/
def formatScanned (pattern : Text) (instant : Instant) : Text :=
  match scan? pattern with
  | some pieces => pieces.flatMap (Piece.render instant)
  | none => instant.pointDate

/-- The pieces of a pattern show what its parts show. -/
theorem map_render_scan? (instant : Instant) (pattern : Text) :
    (scan? pattern).map (·.flatMap (Piece.render instant)) =
      (parts? pattern).map (·.flatMap (Part.render instant)) := by
  simpa [scan?, Scan.shown] using Scan.map_render_from? instant pattern 0 {}

/-- A scan fails where a pattern means nothing. -/
theorem scan?_eq_none_iff {pattern : Text} : scan? pattern = none ↔ parts? pattern = none := by
  -- It does not matter which instant is shown.
  have same := congrArg Option.isNone (map_render_scan? default pattern)
  rw [Option.isNone_map, Option.isNone_map] at same
  rw [← Option.isNone_iff_eq_none, same, Option.isNone_iff_eq_none]

/-- A scan shows every instant as the parts of the pattern do. -/
theorem formatScanned_eq (pattern : Text) (instant : Instant) :
    formatScanned pattern instant = format pattern instant := by
  -- Either both fail and the same date stands in, or both show the same.
  have same := map_render_scan? instant pattern
  unfold formatScanned format
  cases scanned : scan? pattern with
  | none => rw [scan?_eq_none_iff.mp scanned]
  | some pieces =>
    rw [scanned, Option.map_some, eq_comm, Option.map_eq_some_iff] at same
    obtain ⟨parts, found, shows⟩ := same
    rw [found]
    exact shows.symm

end Docket.DatePattern
