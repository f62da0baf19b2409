import Docket.Storage.Replace

/-! Names in paths: where a path is cut, which name it ends in, and the paths of its neighbours. -/

namespace Docket

namespace Path

/-- A text has at least one piece. -/
theorem pieces_ne_nil (text : Text) : pieces text ≠ [] := by
  -- Even the empty text has its one empty piece.
  cases text with
  | nil => simp [pieces]
  | cons char rest =>
    simp only [pieces]
    split
    · simp
    · split <;> simp

/-- A slash between two texts separates their pieces. -/
theorem pieces_append_slash (left right : Text) :
    pieces (left ++ '/' :: right) = pieces left ++ pieces right := by
  -- The induction runs along the text in front of the slash.
  induction left with
  | nil => simp [pieces]
  | cons char rest ih =>
    by_cases slash : char = '/'
    · simp [pieces, slash, ih]
    · -- The character joins the first piece of the rest, which is there.
      cases parts : pieces rest with
      | nil => exact absurd parts (pieces_ne_nil rest)
      | cons piece others => simp [pieces, slash, ih, parts]

/-- No piece holds a slash. -/
theorem slash_notMem_piece {text piece : Text} (inside : piece ∈ pieces text) : '/' ∉ piece := by
  -- A slash starts a new piece and is put into none.
  induction text generalizing piece with
  | nil =>
    rw [List.mem_singleton.mp inside]
    exact List.not_mem_nil
  | cons char rest ih =>
    by_cases slash : char = '/'
    · simp only [pieces, if_pos slash, List.mem_cons] at inside
      rcases inside with rfl | inside
      · exact List.not_mem_nil
      · exact ih inside
    · cases parts : pieces rest with
      | nil => exact absurd parts (pieces_ne_nil rest)
      | cons first others =>
        simp only [pieces, if_neg slash, parts, List.mem_cons] at inside
        rcases inside with rfl | inside
        · have tail : '/' ∉ first := ih (by simp [parts])
          simpa [Ne.symm slash] using tail
        · exact ih (by simp [parts, inside])

/-- A text without slashes is its only piece. -/
theorem pieces_of_noSlash {text : Text} (whole : '/' ∉ text) : pieces text = [text] := by
  -- Every character joins the one piece that there is.
  induction text with
  | nil => rfl
  | cons char rest ih =>
    have other : char ≠ '/' := fun same => whole (same ▸ .head _)
    have later : '/' ∉ rest := fun inside => whole (.tail _ inside)
    simp [pieces, other, ih later]

/-- The anchor of a path takes no name from it. -/
theorem pieces_anchor (path : Text) :
    (pieces (anchor path).2).filter (!isIdle ·) = (pieces path).filter (!isIdle ·) := by
  -- What the anchor takes away are pieces that lead nowhere.
  unfold anchor
  split
  · simp [pieces, isIdle]
  · simp [pieces, isIdle]
  · simp [pieces, isIdle]
  · rfl

/-- The name at the end of a path is its last piece that leads anywhere, and no step back. -/
theorem fileName?_eq_some {path name : Text} (named : fileName? path = some name) :
    ((pieces path).filter (!isIdle ·)).getLast? = some name ∧ name ≠ ['.', '.'] := by
  unfold fileName? at named
  split at named
  · rename_i last final
    obtain rfl := Option.some.inj named
    simp only [steps, pieces_anchor] at final
    -- The steps of the anchor are never names, so the last step comes from a piece.
    cases ends : ((pieces path).filter (!isIdle ·)).getLast? with
    | none =>
      rw [List.getLast?_eq_none_iff.mp ends] at final
      simp only [List.map_nil, List.append_nil] at final
      split at final
      · simp at final
      · split at final <;> simp at final
    | some piece =>
      have step : Step.ofPiece piece = .name last := by
        simpa [List.getLast?_append, List.getLast?_map, ends] using final
      -- A piece that steps back is no name.
      unfold Step.ofPiece at step
      split at step
      · exact absurd step (by simp)
      · rename_i forward
        obtain rfl := Step.name.inj step
        exact ⟨rfl, by simpa using forward⟩
  · exact absurd named (by simp)

/-- The name at the end of a path holds no slash. -/
theorem slash_notMem_fileName {path name : Text} (named : fileName? path = some name) :
    '/' ∉ name := by
  -- The name is one of the pieces.
  have inside := List.mem_of_getLast? (fileName?_eq_some named).1
  exact slash_notMem_piece (List.mem_filter.mp inside).1

/-- A name put into a folder is the last piece of its path. -/
theorem pieces_child (folder : Text) {name : Text} (whole : '/' ∉ name) :
    (pieces (child folder name)).getLast? = some name := by
  -- The name follows a slash, unless the folder is empty and there is none.
  unfold child
  split
  · rename_i open_
    rcases Bool.or_eq_true_iff.mp open_ with empty | slash
    · -- In the empty folder the path is the name alone.
      rw [List.isEmpty_iff.mp empty, List.nil_append, pieces_of_noSlash whole]
      rfl
    · -- The slash is there already.
      obtain ⟨front, rfl⟩ := List.getLast?_eq_some_iff.mp (beq_iff_eq.mp slash)
      rw [List.append_assoc, List.singleton_append, pieces_append_slash, pieces_of_noSlash whole]
      simp
  · rw [pieces_append_slash, pieces_of_noSlash whole]
    simp

end Path

namespace Disk

/-- A neighbour of a path has the given name. -/
theorem namesIn_sibling (path : Text) {name : Text} (whole : '/' ∉ name) (filled : name ≠ []) :
    (namesIn (Path.sibling path name)).getLast? = some name := by
  -- The pieces of the path end in the name, and only empty pieces are left out.
  obtain ⟨front, cut⟩ := List.getLast?_eq_some_iff.mp
    (Path.pieces_child ((Path.parent? path).getD []) whole)
  have kept : (!name.isEmpty) = true := by simpa using filled
  rw [namesIn, Path.sibling, cut, List.filter_append]
  simp [kept]

/-- The number in a temporary name is written without slashes. -/
theorem slash_notMem_temporaryName {name : Text} (whole : '/' ∉ name) (serial : Nat) :
    '/' ∉ temporaryName name serial := by
  -- The parts are a dot, the name, a fixed middle and digits.
  have digits : '/' ∉ Text.ofNat serial := fun inside =>
    absurd (Nat.isDigit_of_mem_toDigits (by decide) (by decide) inside) (by decide)
  simp [temporaryName, whole, digits]

/-- A temporary name is longer than the name that it is made from. -/
theorem temporaryName_ne (name : Text) (serial : Nat) : temporaryName name serial ≠ name := by
  -- The lengths differ, since the dot in front is one character more.
  intro same
  have lengths := congrArg List.length same
  simp only [temporaryName, List.length_append, List.length_cons] at lengths
  omega

end Disk

end Docket
