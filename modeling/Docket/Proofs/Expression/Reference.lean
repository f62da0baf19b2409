import Docket.Expression.Reference
import Docket.Proofs.Text.Search
import Mathlib.Data.List.Basic

/-! How references are read, and what a text with references is worth: it depends on the variables
to which the text refers and on no others, and text around it stays as it is. -/

namespace Docket

namespace Reference

/-- What may stand between the brackets of a reference. -/
structure IsName (name : Text) : Prop where
  filled : name ≠ []
  bare : ∀ char ∈ name, isNameChar char = true

/-- A name is read exactly if it stands there with a `>` behind it. -/
theorem name?_eq_some_iff {text name rest : Text} :
    name? text = some (name, rest) ↔ IsName name ∧ text = name ++ '>' :: rest := by
  rw [name?, Text.runBefore?_eq_some_iff (by decide), ← and_assoc]
  exact and_congr_left fun _ => ⟨fun ⟨filled, bare⟩ => ⟨filled, bare⟩,
    fun ⟨filled, bare⟩ => ⟨filled, bare⟩⟩

@[simp] theorem pieces_nil : pieces [] = [] := by
  rw [pieces]

/-- A character that opens no reference is a piece of its own. -/
theorem pieces_cons {char : Char} (other : char ≠ '<') (rest : Text) :
    pieces (char :: rest) = .plain char :: pieces rest := by
  rw [pieces, if_neg other]

/-- A `<` with a name and a `>` behind it is a reference. -/
theorem pieces_reference {name : Text} (named : IsName name) (rest : Text) :
    pieces ('<' :: (name ++ '>' :: rest)) = .reference name :: pieces rest := by
  have read : name? (name ++ '>' :: rest) = some (name, rest) :=
    name?_eq_some_iff.mpr ⟨named, rfl⟩
  rw [pieces, if_pos rfl]
  -- The name that is found is the one that was read.
  split
  · rename_i found
    obtain ⟨rfl, rfl⟩ := Prod.mk.inj (Option.some.inj (read.symm.trans found))
    rfl
  · rename_i found
    exact absurd (read.symm.trans found) (by simp)

/-- A `<` without a name and a `>` behind it is a plain character. -/
theorem pieces_unclosed {rest : Text} (unnamed : name? rest = none) :
    pieces ('<' :: rest) = .plain '<' :: pieces rest := by
  rw [pieces, if_pos rfl]
  split
  · rename_i found
    exact absurd (unnamed.symm.trans found) (by simp)
  · rfl

/-- A fact about texts holds if it holds of the empty text, and of a text whenever it holds of what
follows the first piece. -/
theorem pieceInduction {motive : Text → Prop} (nil : motive [])
    (plain : ∀ char rest, char ≠ '<' → motive rest → motive (char :: rest))
    (unclosed : ∀ rest, name? rest = none → motive rest → motive ('<' :: rest))
    (reference : ∀ name rest, IsName name → motive rest → motive ('<' :: (name ++ '>' :: rest)))
    (text : Text) : motive text := by
  -- The first piece takes at least one character.
  induction size : text.length using Nat.strongRecOn generalizing text with
  | _ length ih =>
    have later {rest : Text} (shorter : rest.length < text.length) : motive rest :=
      ih _ (size ▸ shorter) rest rfl
    cases text with
    | nil => exact nil
    | cons char rest =>
      by_cases opens : char = '<'
      · subst opens
        cases read : name? rest with
        | none => exact unclosed rest read (later (by simp))
        | some pair =>
          obtain ⟨named, rfl⟩ := name?_eq_some_iff.mp read
          exact reference pair.1 pair.2 named (later (by simp; omega))
      · exact plain char rest opens (later (by simp))

/-- A text in front that opens no reference is read by itself. -/
theorem pieces_append_left {front : Text} (bare : '<' ∉ front) (text : Text) :
    pieces (front ++ text) = front.map .plain ++ pieces text := by
  induction front with
  | nil => rfl
  | cons char rest ih =>
    obtain ⟨other, bare⟩ := List.ne_and_not_mem_of_not_mem_cons bare
    rw [List.cons_append, pieces_cons (Ne.symm other), ih bare]
    rfl

/-- A name that is not there is not there with more text behind either, if that closes nothing. -/
theorem name?_append {text back : Text} (unnamed : name? text = none) (bare : '>' ∉ back) :
    name? (text ++ back) = none := by
  rw [Option.eq_none_iff_forall_not_mem]
  rintro ⟨name, after⟩ found
  obtain ⟨named, parts⟩ := name?_eq_some_iff.mp found
  -- The `>` is one of the text, so the name is there without the text behind.
  rcases List.append_eq_append_iff.mp parts with ⟨middle, -, same⟩ | ⟨middle, rfl, same⟩
  · exact bare (by simp [same])
  · cases middle with
    | nil => exact bare (by rw [List.nil_append] at same; simp [← same])
    | cons first others =>
      obtain ⟨rfl, rfl⟩ := List.cons.inj same
      exact absurd (unnamed.symm.trans (name?_eq_some_iff.mpr ⟨named, rfl⟩)) (by simp)

/-- A text behind that has no angle brackets is read by itself. -/
theorem pieces_append_right {back : Text} (bare : ∀ char ∈ back, isNameChar char = true)
    (text : Text) : pieces (text ++ back) = pieces text ++ back.map .plain := by
  have unopened : '<' ∉ back := fun inside => absurd (bare _ inside) (by decide)
  have unclosed : '>' ∉ back := fun inside => absurd (bare _ inside) (by decide)
  induction text using pieceInduction with
  | nil => simpa using pieces_append_left unopened []
  | plain char rest other ih => rw [List.cons_append, pieces_cons other, pieces_cons other, ih]; rfl
  | unclosed rest unnamed ih =>
    -- The text behind does not close what the text leaves open.
    rw [List.cons_append, pieces_unclosed (name?_append unnamed unclosed),
      pieces_unclosed unnamed, ih]
    rfl
  | reference name rest named ih =>
    rw [List.cons_append, List.append_assoc, List.cons_append, pieces_reference named,
      pieces_reference named, ih]
    rfl

/-- The pieces of a text make it up. -/
theorem flatMap_source_pieces (text : Text) : (pieces text).flatMap Piece.source = text := by
  induction text using pieceInduction with
  | nil => simp
  | plain char rest other ih => simp [pieces_cons other, Piece.source, ih]
  | unclosed rest unnamed ih => simp [pieces_unclosed unnamed, Piece.source, ih]
  | reference name rest named ih => simp [pieces_reference named, Piece.source, ih]

/-- The located references are those among the pieces, wherever these begin. -/
theorem mem_map_locate_iff {name : Text} {position : Nat} {list : List Piece} :
    name ∈ (locate position list).map Located.value ↔ Piece.reference name ∈ list := by
  induction list generalizing position with
  | nil => simp [locate]
  | cons piece rest ih =>
    cases piece with
    | plain char => simp [locate, ih]
    | reference other => simp [locate, ih]

/-- A text refers to a name exactly if one of its pieces does. -/
theorem mem_names_iff {name text : Text} :
    name ∈ names text ↔ Piece.reference name ∈ pieces text :=
  mem_map_locate_iff

end Reference

namespace Variables

open Reference

variable {bindings left right : Variables} {text : Text}

/-- Variables that agree on the names in a text give it one value. -/
theorem substitute_congr (agree : ∀ name ∈ Reference.names text, left.get? name = right.get? name) :
    left.substitute text = right.substitute text := by
  -- The value of a piece depends on the name that it refers to, if it refers to one.
  refine List.flatMap_congr fun piece inside => ?_
  cases piece with
  | plain char => rfl
  | reference name =>
    have same := agree name (Reference.mem_names_iff.mpr inside)
    simp only [Reference.Piece.value, same]

@[simp] theorem substitute_nil (bindings : Variables) : bindings.substitute [] = [] := by
  simp [substitute]

/-- Plain characters stand for themselves. -/
@[simp] theorem flatMap_value_plain (text : Text) :
    (text.map Piece.plain).flatMap (Piece.value bindings) = text := by
  simp [List.flatMap_map, Piece.value]

/-- Text around a text stays as it is when references are replaced, if it has no angle brackets. -/
theorem substitute_surrounded (bindings : Variables) {front back : Text}
    (before : ∀ char ∈ front, isNameChar char = true)
    (behind : ∀ char ∈ back, isNameChar char = true) (text : Text) :
    bindings.substitute (front ++ (text ++ back)) =
      front ++ (bindings.substitute text ++ back) := by
  have unopened : '<' ∉ front := fun inside => absurd (before _ inside) (by decide)
  rw [substitute, pieces_append_left unopened, pieces_append_right behind]
  simp [substitute]

/-- Replacing the references of a text leaves it as it is if no variable has their names. -/
theorem substitute_eq_self (unbound : ∀ name ∈ Reference.names text, bindings.get? name = none) :
    bindings.substitute text = text := by
  -- Each piece stands for itself, and the pieces make up the text.
  have kept : ∀ piece ∈ pieces text, piece.value bindings = piece.source := by
    intro piece inside
    cases piece with
    | plain char => rfl
    | reference name =>
      have absent := unbound name (Reference.mem_names_iff.mpr inside)
      simp [Piece.value, absent]
  rw [substitute, List.flatMap_congr kept, flatMap_source_pieces]

/-- A text that is one reference to a variable has the value of the variable. -/
theorem substitute_reference {name value : Text} (named : IsName name)
    (defined : bindings.get? name = some value) :
    bindings.substitute (Piece.source (.reference name)) = value := by
  rw [substitute, Piece.source, pieces_reference named]
  simp [Piece.value, defined]

/-- A text without angle brackets stays as it is. -/
theorem substitute_of_bare (bare : ∀ char ∈ text, isNameChar char = true) :
    bindings.substitute text = text := by
  have around := @substitute_surrounded bindings text [] bare (by simp) []
  simpa using around

end Variables

end Docket
