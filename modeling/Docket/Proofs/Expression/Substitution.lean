import Docket.Proofs.Expression.ByteReference
import Mathlib.Data.List.Pairwise

/-! The references of a text are all names in angle brackets that stand in it, and replacing them
changes nothing else. -/

namespace Docket

namespace Reference

/-- A name that is not there is not there either if a `<` follows the text. -/
theorem name?_append_opening {text : Text} (unnamed : name? text = none) (back : Text) :
    name? (text ++ '<' :: back) = none := by
  rw [Option.eq_none_iff_forall_not_mem]
  rintro ⟨name, after⟩ found
  obtain ⟨named, parts⟩ := name?_eq_some_iff.mp found
  rcases List.append_eq_append_iff.mp parts with ⟨middle, same, behind⟩ | ⟨middle, same, behind⟩
  · -- The name would reach over the `<`, which cannot stand in it.
    cases middle with
    | nil => exact absurd (List.cons.inj behind).1 (by decide)
    | cons first others =>
      obtain ⟨rfl, -⟩ := List.cons.inj behind
      exact absurd (named.bare '<' (by simp [same])) (by decide)
  · -- The name would end before the `<`, so it is there without it.
    cases middle with
    | nil => exact absurd (List.cons.inj behind).1 (by decide)
    | cons first others =>
      obtain ⟨rfl, -⟩ := List.cons.inj behind
      exact absurd (unnamed.symm.trans (name?_eq_some_iff.mpr ⟨named, same⟩)) (by simp)

/-- What stands before a `<` is read by itself. -/
theorem pieces_append_opening (front rest : Text) :
    pieces (front ++ '<' :: rest) = pieces front ++ pieces ('<' :: rest) := by
  -- The induction is on the pieces in front; the first of them is the same before the `<`.
  induction front using pieceInduction with
  | nil => simp
  | plain char front other ih =>
    rw [List.cons_append, pieces_cons other, pieces_cons other, ih, List.cons_append]
  | unclosed front unnamed ih =>
    rw [List.cons_append, pieces_unclosed (name?_append_opening unnamed rest),
      pieces_unclosed unnamed, ih, List.cons_append]
  | reference name front named ih =>
    rw [List.cons_append, List.append_assoc, List.cons_append, pieces_reference named,
      pieces_reference named, ih, List.cons_append]

/-- What a text refers to is a name. -/
theorem isName_of_mem_pieces {text name : Text} (inside : Piece.reference name ∈ pieces text) :
    IsName name := by
  induction text using pieceInduction with
  | nil => simp at inside
  | plain char rest other ih =>
    rw [pieces_cons other] at inside
    exact ih (by simpa using inside)
  | unclosed rest unnamed ih =>
    rw [pieces_unclosed unnamed] at inside
    exact ih (by simpa using inside)
  -- Only here a reference is read, and its name was looked at.
  | reference found rest named ih =>
    rw [pieces_reference named] at inside
    rcases List.mem_cons.mp inside with same | later
    · obtain rfl := Piece.reference.inj same
      exact named
    · exact ih later

/-- Pieces that follow others are located behind them. -/
theorem locate_append (position : Nat) (left right : List Piece) :
    locate position (left ++ right) = locate position left ++
      locate (position + Text.byteLength (left.flatMap Piece.source)) right := by
  induction left generalizing position with
  | nil => simp [locate]
  | cons piece left ih => cases piece <;> simp [locate, ih, Nat.add_assoc]

/-- A located reference is one of the pieces, and stands behind those that come before it. -/
theorem mem_locate_iff {position : Nat} {list : List Piece} {name : Text} {start stop : Nat} :
    ⟨name, start, stop⟩ ∈ locate position list ↔
      ∃ left right, list = left ++ .reference name :: right ∧
        start = position + Text.byteLength (left.flatMap Piece.source) ∧
        stop = start + Text.byteLength (Piece.source (.reference name)) := by
  constructor
  · intro inside
    induction list generalizing position with
    | nil => exact absurd inside List.not_mem_nil
    | cons piece list ih =>
      -- One of the later references stands behind the first piece as well.
      have later (behind : ⟨name, start, stop⟩ ∈
          locate (position + Text.byteLength piece.source) list) :
          ∃ left right, piece :: list = left ++ .reference name :: right ∧
            start = position + Text.byteLength (left.flatMap Piece.source) ∧
            stop = start + Text.byteLength (Piece.source (.reference name)) := by
        obtain ⟨left, right, rfl, begins, ends⟩ := ih behind
        exact ⟨piece :: left, right, rfl, by simp [begins, Nat.add_assoc], ends⟩
      cases piece with
      | plain char => exact later inside
      | reference other =>
        rcases List.mem_cons.mp inside with here | behind
        · obtain ⟨rfl, rfl, rfl⟩ := Located.mk.inj here
          exact ⟨[], list, rfl, rfl, rfl⟩
        · exact later behind
  · -- The pieces before the reference tell how far from the front it stands.
    rintro ⟨left, right, rfl, rfl, rfl⟩
    rw [locate_append]
    exact List.mem_append_right _ (.head _)

/-- The located references of a text are exactly the places where a name stands in angle
brackets. -/
theorem mem_all_iff {text name : Text} {start stop : Nat} :
    ⟨name, start, stop⟩ ∈ all text ↔
      IsName name ∧ Text.between? text start stop = some (Piece.source (.reference name)) := by
  rw [all, mem_locate_iff, Text.between?_eq_some_iff]
  constructor
  · -- A piece that is a reference has a name, and the pieces make up the text around it.
    rintro ⟨left, right, parts, rfl, rfl⟩
    have inside : Piece.reference name ∈ pieces text := by simp [parts]
    have named := isName_of_mem_pieces inside
    have whole := flatMap_source_pieces text
    rw [parts] at whole
    exact ⟨named, left.flatMap Piece.source, right.flatMap Piece.source, by simp [← whole],
      by simp, by simp⟩
  · -- What comes before the `<` is read by itself, so the reference is one of the pieces.
    rintro ⟨named, front, back, rfl, rfl, rfl⟩
    refine ⟨pieces front, pieces back, ?_, ?_, ?_⟩
    · rw [List.append_assoc, Piece.source_reference_append, pieces_append_opening,
        pieces_reference named]
    · simp [flatMap_source_pieces]
    · simp

/-- References are located one behind the other. -/
theorem pairwise_locate (position : Nat) (list : List Piece) :
    (locate position list).Pairwise fun left right =>
      left.start < right.start ∧ left.stop ≤ right.start := by
  induction list generalizing position with
  | nil => exact .nil
  | cons piece list ih =>
    cases piece with
    | plain char => exact ih _
    | reference name =>
      refine List.pairwise_cons.mpr ⟨fun located inside => ?_, ih _⟩
      obtain ⟨left, right, -, begins, -⟩ := mem_locate_iff.mp inside
      -- A reference takes the bytes of its angle brackets at least.
      have opening := '<'.utf8Size_pos
      simp only [begins, Piece.source, Text.byteLength_cons, Text.byteLength_append]
      omega

end Reference

/-- Two ways to cut a text behind the same number of bytes are the same. -/
theorem Text.append_inj_of_byteLength {left right back behind : Text}
    (same : left ++ back = right ++ behind) (long : byteLength left = byteLength right) :
    left = right ∧ back = behind := by
  have first := partsAt?_append left back
  have second := partsAt?_append right behind
  rw [same, long, second] at first
  obtain ⟨rfl, rfl⟩ := Prod.mk.inj (Option.some.inj first)
  exact ⟨rfl, rfl⟩

namespace Variables

open Reference

variable {bindings : Variables}

/-- A text that begins at byte `position`, and that text with the given references replaced by the
values of their variables and everything else kept. -/
inductive Filled (bindings : Variables) : Nat → List (Located Text) → Text → Text → Prop where
  | rest (position : Nat) (kept : Text) : Filled bindings position [] kept kept
  | next {position : Nat} {reference : Located Text} {references : List (Located Text)}
      {before after : Text} (kept value : Text)
      (place : reference.start = position + Text.byteLength kept)
      (defined : bindings.get? reference.value = some value)
      (behind : Filled bindings reference.stop references before after) :
      Filled bindings position (reference :: references)
        (kept ++ (Piece.source (.reference reference.value) ++ before)) (kept ++ (value ++ after))

/-- The references and their places leave no choice for what replaces them. -/
theorem Filled.unique {position : Nat} {references : List (Located Text)}
    {before other left right : Text} (first : Filled bindings position references before left)
    (second : Filled bindings position references other right) (same : before = other) :
    left = right := by
  induction first generalizing other right with
  | rest position kept =>
    cases second
    exact same
  | next kept value place defined behind ih =>
    cases second with
    | next kept' value' place' defined' behind' =>
      -- What is kept in front ends at the place of the reference in both.
      have long : Text.byteLength kept = Text.byteLength kept' := by omega
      obtain ⟨rfl, rest⟩ := Text.append_inj_of_byteLength same long
      obtain rfl := Option.some.inj (defined.symm.trans defined')
      rw [ih behind' (List.append_cancel_left rest)]

/-- The values of the pieces fill in the references among them. -/
theorem filled_pieces (bindings : Variables) (position : Nat) (kept : Text) (list : List Piece) :
    Filled bindings position
      ((locate (position + Text.byteLength kept) list).filter (bindings.has ·.value))
      (kept ++ list.flatMap Piece.source) (kept ++ list.flatMap (Piece.value bindings)) := by
  -- Pieces that stand for themselves are kept until a reference to a variable comes.
  induction list generalizing position kept with
  | nil => exact .rest position (kept ++ [])
  | cons piece list ih =>
    have longer (same : piece.value bindings = piece.source) : Filled bindings position
        ((locate (position + Text.byteLength kept + Text.byteLength piece.source) list).filter
          (bindings.has ·.value))
        (kept ++ (piece :: list).flatMap Piece.source)
        (kept ++ (piece :: list).flatMap (Piece.value bindings)) := by
      have later := ih position (kept ++ piece.source)
      simpa [same, Nat.add_assoc] using later
    cases piece with
    | plain char => exact longer rfl
    | reference name =>
      cases found : bindings.get? name with
      -- A reference without a value stands for itself, and is kept with the text around it.
      | none =>
        have absent : bindings.has name = false := by simp [Sheet.has, found]
        rw [locate, List.filter_cons_of_neg (by simp [absent])]
        exact longer (by simp [Piece.value, found])
      | some value =>
        have defined : bindings.has name = true := by simp [Sheet.has, found]
        rw [locate, List.filter_cons_of_pos (by simp [defined]), List.flatMap_cons,
          List.flatMap_cons]
        have stands : Piece.value bindings (.reference name) = value := by
          simp [Piece.value, found]
        -- What was kept ends here, and the next part begins behind the reference.
        rw [stands]
        exact .next kept value rfl found (ih _ [])

/-- Reading references from byte to byte cuts no character and gives exactly the names in angle
brackets that stand in a text, from left to right and none inside another. Replacing them cuts no
character either: of these names the ones of variables are replaced by their values, and all other
text is kept where it is, references without a value included. -/
theorem substitute_exact (bindings : Variables) (text : Text) :
    ByteCursor.references? text 0 = some (Reference.all text) ∧
      (Reference.all text).Pairwise (fun left right =>
        left.start < right.start ∧ left.stop ≤ right.start) ∧
      (∀ name start stop, ⟨name, start, stop⟩ ∈ Reference.all text ↔
        IsName name ∧ Text.between? text start stop = some ('<' :: (name ++ ['>']))) ∧
      ByteCursor.substitute? bindings text = some (bindings.substitute text) ∧
      ∀ result, bindings.substitute text = result ↔
        Filled bindings 0 ((Reference.all text).filter (bindings.has ·.value)) text result := by
  -- The scan finds what the pieces tell, and the pieces tell how the text is filled in.
  have found := ByteCursor.references?_utf8 [] text
  have filled := filled_pieces bindings 0 [] (pieces text)
  simp only [flatMap_source_pieces, List.nil_append, Text.byteLength_nil] at found filled
  refine ⟨found, pairwise_locate 0 _, fun name start stop => mem_all_iff,
    ByteCursor.substitute?_eq bindings text, fun result => ⟨?_, fun other => ?_⟩⟩
  · rintro rfl
    exact filled
  · exact filled.unique other rfl

/-- A nested bracket, empty brackets, an unknown name and one that nothing closes. -/
example : Reference.all "<<ä>-<>é<C D><A".toList = [⟨"ä".toList, 1, 5⟩, ⟨"C D".toList, 10, 15⟩] ∧
    Variables.substitute (.ofPairs [("ä".toList, "<A>".toList), ("A".toList, "1".toList)])
      "<<ä>-<>é<C D><A".toList = "<<A>-<>é<C D><A".toList := by
  decide +kernel

end Variables

end Docket
