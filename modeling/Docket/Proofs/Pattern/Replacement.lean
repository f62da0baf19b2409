import Docket.Pattern.Replacement
import Docket.Proofs.Text.Search

/-! What replacements with backslashes stand for in the place of a match. -/

namespace Docket.Replacement

/-- A text begins with a name in brackets, up to the first one that closes. -/
def BeginsNamed (text : Text) : Prop :=
  ∃ name rest, '>' ∉ name ∧ text = 'g' :: '<' :: (name ++ '>' :: rest)

/-- What a backslash inserts in the place of a match, by the text behind it, and what is left of
that text. -/
inductive Inserts (pattern : Pattern) (found : Pattern.Match) : Text → Text → Text → Prop where
  /-- At the end of the replacement the backslash is inserted. -/
  | final : Inserts pattern found [] ['\\'] []
  /-- A digit that no other one follows inserts its group. -/
  | digit {digit : Char} {rest : Text} (isDigit_ : isDigit digit = true)
      (single : ∀ next ∈ rest.head?, isDigit next = false) :
      Inserts pattern found (digit :: rest) (referent pattern found [digit]) rest
  /-- Two digits insert their group. -/
  | digits {first second : Char} {rest : Text} (tens : isDigit first = true)
      (ones : isDigit second = true) :
      Inserts pattern found (first :: second :: rest) (referent pattern found [first, second]) rest
  /-- A name in brackets inserts its group. -/
  | named {name rest : Text} (closed : '>' ∉ name) :
      Inserts pattern found ('g' :: '<' :: (name ++ '>' :: rest)) (referent pattern found name) rest
  /-- Some letters insert a character. -/
  | control {letter char : Char} {rest : Text} (meant : control? letter = some char) :
      Inserts pattern found (letter :: rest) [char] rest
  /-- In front of everything else the backslash is inserted, and the character behind it. -/
  | asWritten {letter : Char} {rest : Text} (noDigit : isDigit letter = false)
      (unmeant : control? letter = none) (unnamed : ¬ BeginsNamed (letter :: rest)) :
      Inserts pattern found (letter :: rest) ['\\', letter] rest

/-- What a replacement with backslashes stands for in the place of a match, read from left to
right. -/
inductive Stands (pattern : Pattern) (found : Pattern.Match) : Text → Text → Prop where
  | nil : Stands pattern found [] []
  /-- Every character but a backslash stands for itself. -/
  | plain {char : Char} {rest value : Text} (solid : char ≠ '\\')
      (later : Stands pattern found rest value) :
      Stands pattern found (char :: rest) (char :: value)
  | sequence {behind inserted rest value : Text}
      (here : Inserts pattern found behind inserted rest)
      (later : Stands pattern found rest value) :
      Stands pattern found ('\\' :: behind) (inserted ++ value)

variable {pattern : Pattern} {found : Pattern.Match}

/-- A name in brackets is cut off at the first bracket that closes. -/
theorem named?_eq_some_iff {text name rest : Text} :
    named? text = some (name, rest) ↔ '>' ∉ name ∧ text = name ++ '>' :: rest :=
  Text.splitOnce?_eq_some_iff

/-- A backslash before a digit does not begin a name in brackets. -/
theorem ne_g_of_isDigit {char : Char} (digit : isDigit char = true) : char ≠ 'g' := by
  rintro rfl
  exact absurd digit (by decide)

/-- A letter that stands for a character is neither a digit nor the one in front of names. -/
theorem noDigit_of_control {letter char : Char} (meant : control? letter = some char) :
    isDigit letter = false ∧ letter ≠ 'g' := by
  unfold control? at meant
  split at meant
  iterate 4 exact by decide
  exact absurd meant (by simp)

/-- Where neither a digit nor a name in brackets stands, a backslash takes one character. -/
theorem command_of_not_named {letter : Char} {rest : Text} (noDigit : isDigit letter = false)
    (unnamed : ¬ BeginsNamed (letter :: rest)) :
    command (letter :: rest) = (escaped letter, rest) := by
  -- The other ways through the definition begin with a digit or with a whole name in brackets.
  generalize same : letter :: rest = text at unnamed
  fun_cases command text with
  | case1 => cases same
  | case2 more name after inner =>
    obtain ⟨closed, rfl⟩ := named?_eq_some_iff.mp inner
    exact absurd ⟨name, after, closed, rfl⟩ unnamed
  -- Only this way is taken by a `g` whose brackets are not closed.
  | case3 more inner =>
    obtain ⟨rfl, rfl⟩ := List.cons.inj same
    rfl
  | case4 last =>
    obtain ⟨rfl, rfl⟩ := List.cons.inj same
    simp [noDigit]
  | case5 first second more apart other =>
    obtain ⟨rfl, rfl⟩ := List.cons.inj same
    rfl
  | case6 first second more apart digit =>
    obtain ⟨rfl, -⟩ := List.cons.inj same
    simp [noDigit] at digit
  | case7 first second more apart digit =>
    obtain ⟨rfl, -⟩ := List.cons.inj same
    simp [noDigit] at digit

/-- Where neither a digit nor a name in brackets stands, one character decides what is inserted. -/
theorem inserts_escaped {letter : Char} {rest : Text} (noDigit : isDigit letter = false)
    (unnamed : ¬ BeginsNamed (letter :: rest)) :
    Inserts pattern found (letter :: rest) ((escaped letter).meaning pattern found) rest := by
  -- The character stands for another one, or it is inserted as it is written.
  unfold escaped
  split
  · rename_i char meant
    exact .control meant
  · rename_i unmeant
    exact .asWritten noDigit unmeant unnamed

/-- What a backslash inserts is the meaning of its piece, and it leaves what the piece leaves. -/
theorem inserts_iff {text value rest : Text} : Inserts pattern found text value rest ↔
    value = (command text).1.meaning pattern found ∧ rest = (command text).2 := by
  -- Each way to insert something is one way through the definition, and the other way round.
  constructor
  · intro inserts
    cases inserts with
    | final => exact ⟨rfl, rfl⟩
    | @digit digit rest isDigit_ single =>
      have other := ne_g_of_isDigit isDigit_
      cases rest with
      | nil => simp [command, isDigit_, Piece.meaning]
      | cons next more =>
        have last : isDigit next = false := single next rfl
        simp [command, isDigit_, last, other, Piece.meaning]
    | digits tens ones =>
      simp [command, tens, ones, ne_g_of_isDigit tens, Piece.meaning]
    | named closed =>
      simp [command, named?_eq_some_iff.mpr ⟨closed, rfl⟩, Piece.meaning]
    -- A letter that means a character is no digit, and `g` is not among these letters.
    | @control letter char rest meant =>
      obtain ⟨noDigit, other⟩ := noDigit_of_control meant
      have unnamed : ¬ BeginsNamed (letter :: rest) := by
        rintro ⟨name, after, -, same⟩
        exact other (List.cons.inj same).1
      simp [command_of_not_named noDigit unnamed, escaped, meant, Piece.meaning]
    | asWritten noDigit unmeant unnamed =>
      simp [command_of_not_named noDigit unnamed, escaped, unmeant, Piece.meaning]
  · rintro ⟨rfl, rfl⟩
    fun_cases command text with
    | case1 => exact .final
    | case2 rest name after inner =>
      obtain ⟨closed, rfl⟩ := named?_eq_some_iff.mp inner
      exact .named closed
    -- A `g` without a name in brackets stands for itself.
    | case3 rest inner =>
      refine inserts_escaped (by decide : isDigit 'g' = false) ?_
      rintro ⟨name, after, closed, same⟩
      cases same
      simp [named?_eq_some_iff.mpr ⟨closed, rfl⟩] at inner
    | case4 last =>
      split
      · rename_i digit
        exact .digit digit (by simp)
      · rename_i noDigit
        refine inserts_escaped (by simpa using noDigit) ?_
        rintro ⟨name, after, -, same⟩
        cases same
    -- Any other character is looked up among the letters that mean something.
    | case5 first second rest apart noDigit =>
      refine inserts_escaped (by simpa using noDigit) ?_
      rintro ⟨name, after, -, same⟩
      cases same
      exact apart rfl rfl
    | case6 first second rest apart tens ones =>
      exact .digits (by simpa using tens) ones
    | case7 first second rest apart tens ones =>
      refine .digit (by simpa using tens) ?_
      rintro _ ⟨⟩
      simpa using ones

/-- A replacement stands for the meanings of its pieces, and for nothing else. -/
theorem stands_iff {text value : Text} : Stands pattern found text value ↔
    value = (pieces text).flatMap (Piece.meaning pattern found) := by
  -- Both readings take the same steps: one character, or a backslash with what belongs to it.
  constructor
  · intro stands
    induction stands with
    | nil => simp [pieces]
    | plain solid _ ih => simp [pieces, ih, Piece.meaning]
    | sequence here _ ih =>
      obtain ⟨rfl, rfl⟩ := inserts_iff.mp here
      simp [pieces, ih]
  · -- The other way round, the recursion of the reader tells which step comes next.
    rintro rfl
    fun_induction pieces text with
    | case1 => exact .nil
    | case2 behind ih =>
      rw [List.flatMap_cons]
      exact .sequence (inserts_iff.mpr ⟨rfl, rfl⟩) ih
    | case3 char rest solid ih => exact .plain solid ih

end Docket.Replacement
