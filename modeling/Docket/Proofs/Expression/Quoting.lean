import Docket.Proofs.Expression.Argument
import Docket.Proofs.Expression.Exactness

/-! Texts that are given to a call as arguments come back as they are: any text in quotes that it
does not hold itself, and a text without quotes if nothing in it has a meaning there. -/

namespace Docket

namespace Argument

/-- A text between two quotation marks. -/
def quoted (mark : Char) (text : Text) : Text :=
  mark :: (text ++ [mark])

/-- Texts as the arguments of a call: each in quotes, with commas between them. -/
def listed (mark : Char) (texts : List Text) : Text :=
  Text.join ", ".toList (texts.map (quoted mark))

/-- A character that has no meaning of its own where arguments are written. -/
def isPlain (char : Char) : Bool :=
  !Call.isQuote char && char != '(' && char != ')' && char != ','

/-- A source that is one argument wherever it is written: it leaves nothing open, nothing in it is
cut off, and there is no white space at its ends. -/
structure IsWhole (source : Text) : Prop where
  closed : ∀ depth, Call.Nesting.walk? ⟨depth, none⟩ source = some ⟨depth, none⟩
  uncut : ∀ depth rest,
    pieces depth none (source ++ rest) = source.foldr extend (pieces depth none rest)
  filled : Text.blank source = false
  trimmed : Text.trim source = source

/-- What follows a text belongs behind the text in the first piece. -/
theorem foldr_extend (front piece : Text) (others : List Text) :
    front.foldr extend (piece :: others) = (front ++ piece) :: others := by
  induction front with
  | nil => rfl
  | cons char rest ih => rw [List.foldr_cons, ih, extend, List.cons_append]

/-- Sources with commas between them close what they open. -/
theorem walk?_join {sources : List Text} (whole : ∀ source ∈ sources, IsWhole source) :
    Call.Nesting.outside.walk? (Text.join ", ".toList sources) = some .outside := by
  -- Neither the sources nor the commas between them lead away from the outside.
  induction sources with
  | nil => rfl
  | cons first rest ih =>
    obtain ⟨single, whole⟩ := List.forall_mem_cons.mp whole
    have here : Call.Nesting.outside.walk? first = some .outside := single.closed 0
    cases rest with
    | nil => exact here
    | cons second others =>
      have comma : Call.Nesting.outside.walk? ", ".toList = some .outside := by decide
      rw [Text.join_cons_cons, Call.Nesting.walk?_append, here, Option.bind_some,
        Call.Nesting.walk?_append, comma, Option.bind_some, ih whole]

/-- Sources with commas between them are cut into these, and a space stays before all but the
first. -/
theorem pieces_join {first : Text} {rest : List Text}
    (whole : ∀ source ∈ first :: rest, IsWhole source) :
    pieces 0 none (Text.join ", ".toList (first :: rest)) =
      first :: rest.map fun source => ' ' :: source := by
  -- Each comma between two sources stands outside of both, so it ends a piece.
  induction rest generalizing first with
  | nil =>
    have alone := (whole first (.head _)).uncut 0 []
    rw [List.append_nil] at alone
    rw [Text.join, alone]
    simp [pieces, foldr_extend]
  | cons second others ih =>
    obtain ⟨single, whole⟩ := List.forall_mem_cons.mp whole
    have later := ih whole
    have parts : Text.join ", ".toList (first :: second :: others) =
        first ++ ',' :: ' ' :: Text.join ", ".toList (second :: others) :=
      Text.join_cons_cons _ _ _ _
    have space : pieces 0 none (' ' :: Text.join ", ".toList (second :: others)) =
        (' ' :: second) :: others.map fun source => ' ' :: source := by
      have plain : Call.isQuote ' ' = false := by decide
      simp only [pieces, plain, later, extend]
      simp
    have comma : pieces 0 none (',' :: ' ' :: Text.join ", ".toList (second :: others)) =
        [] :: pieces 0 none (' ' :: Text.join ", ".toList (second :: others)) := by
      have plain : Call.isQuote ',' = false := by decide
      rw [pieces]
      simp [plain]
    -- The first source is one piece, the comma ends it, and the space belongs to the next one.
    rw [parts, single.uncut, comma, space, foldr_extend, List.append_nil, List.map_cons]

/-- A last piece that is not blank stays. -/
theorem dropBlankLast_append {pieces : List Text} {last : Text}
    (filled : Text.blank last = false) :
    dropBlankLast (pieces ++ [last]) = pieces ++ [last] := by
  simp [dropBlankLast, filled]

/-- The argument for a source is the source without quotes, with a space in front or without. -/
theorem IsWhole.ofPiece {source : Text} (whole : IsWhole source) :
    Argument.ofPiece source = unquote source ∧
      Argument.ofPiece (' ' :: source) = unquote source := by
  have space : Text.blank [' '] = true := by decide
  have behind := Text.trim_append space source
  rw [List.singleton_append, whole.trimmed] at behind
  simp only [Argument.ofPiece, whole.trimmed, behind, and_self]

/-- Sources with commas between them are split into the arguments that they stand for. -/
theorem split_join {sources : List Text} (whole : ∀ source ∈ sources, IsWhole source) :
    split (Text.join ", ".toList sources) = sources.map unquote := by
  cases sources with
  | nil => rfl
  | cons first rest =>
    have cut := pieces_join whole
    obtain ⟨single, later⟩ := List.forall_mem_cons.mp whole
    -- The first source is not blank, so the whole text is not.
    have filled : Text.blank (Text.join ", ".toList (first :: rest)) = false := by
      have solid := single.filled
      cases rest with
      | nil => exact solid
      | cons second others =>
        rw [Text.blank] at solid
        rw [Text.join_cons_cons, Text.blank, List.all_append, solid, Bool.false_and]
    -- The last source is not blank either, so no piece is dropped.
    have kept : dropBlankLast (pieces 0 none (Text.join ", ".toList (first :: rest))) =
        pieces 0 none (Text.join ", ".toList (first :: rest)) := by
      rw [cut]
      rcases List.eq_nil_or_concat rest with rfl | ⟨others, last, rfl⟩
      · exact @dropBlankLast_append [] first single.filled
      · have solid : Text.blank last = false := (later last (by simp)).filled
        have spaced : Text.blank (' ' :: last) = false := by simp_all [Text.blank]
        rw [List.concat_eq_append, List.map_append, ← List.cons_append]
        exact dropBlankLast_append spaced
    rw [split, filled, if_neg Bool.false_ne_true, kept, cut, List.map_cons, List.map_cons,
      List.map_map, single.ofPiece.1]
    exact congrArg _ (List.map_congr_left fun source inside => (later source inside).ofPiece.2)

section Plain

variable {text : Text}

/-- Plain characters leave a place where it was. -/
theorem walk?_plain (bare : ∀ char ∈ text, isPlain char = true) (depth : Nat) :
    Call.Nesting.walk? ⟨depth, none⟩ text = some ⟨depth, none⟩ := by
  induction text with
  | nil => rfl
  | cons char rest ih =>
    obtain ⟨here, bare⟩ := List.forall_mem_cons.mp bare
    -- A plain character is no quotation mark and no parenthesis.
    have stays : Call.Nesting.step? ⟨depth, none⟩ char = some ⟨depth, none⟩ := by
      simp_all [isPlain, Call.Nesting.step?]
    rw [Call.Nesting.walk?_cons, stays, Option.bind_some, ih bare]

/-- Nothing is cut in a text of plain characters. -/
theorem pieces_plain (bare : ∀ char ∈ text, isPlain char = true) (depth : Int) (rest : Text) :
    pieces depth none (text ++ rest) = text.foldr extend (pieces depth none rest) := by
  induction text with
  | nil => rfl
  | cons char others ih =>
    obtain ⟨here, bare⟩ := List.forall_mem_cons.mp bare
    -- None of the four cases that treat a character in its own way applies.
    rw [List.cons_append, List.foldr_cons, ← ih bare, pieces]
    simp_all [isPlain]

/-- A text of plain characters is one argument if there is no white space at its ends. -/
theorem IsWhole.plain (filled : text ≠ []) (bare : ∀ char ∈ text, isPlain char = true)
    (front : text.head?.any Text.isBlank = false) (back : text.getLast?.any Text.isBlank = false) :
    IsWhole text where
  closed := walk?_plain bare
  uncut := pieces_plain bare
  -- The first character is no white space, so the text is not blank.
  filled := by
    obtain ⟨char, rest, rfl⟩ := List.exists_cons_of_ne_nil filled
    have solid : Text.isBlank char = false := by simpa using front
    simp [Text.blank, solid]
  trimmed := Text.trim_eq_self front back

/-- There are no quotes around a text of plain characters. -/
theorem unquote_plain (bare : ∀ char ∈ text, isPlain char = true) : unquote text = text := by
  cases text with
  | nil => rfl
  | cons char rest =>
    have here : isPlain char = true := bare char (.head _)
    have unmarked : Call.isQuote char = false := by simp_all [isPlain]
    simp [unquote, unmarked]

/-- Splitting a list of plain texts gives the texts back. -/
theorem split_join_plain {texts : List Text} (whole : ∀ text ∈ texts, IsWhole text)
    (bare : ∀ text ∈ texts, ∀ char ∈ text, isPlain char = true) :
    split (Text.join ", ".toList texts) = texts := by
  rw [split_join whole, List.map_congr_left fun text inside => unquote_plain (bare text inside),
    List.map_id']

end Plain

section Quoted

variable {mark : Char} {text : Text}

/-- Behind a quotation mark nothing but the same mark changes where a place stands. -/
theorem walk?_inside (free : mark ∉ text) (depth : Nat) :
    Call.Nesting.walk? ⟨depth, some mark⟩ text = some ⟨depth, some mark⟩ := by
  induction text with
  | nil => rfl
  | cons char rest ih =>
    obtain ⟨other, free⟩ := List.ne_and_not_mem_of_not_mem_cons free
    -- Only the mark itself ends the quotes.
    have stays : Call.Nesting.step? ⟨depth, some mark⟩ char = some ⟨depth, some mark⟩ := by
      simp [Call.Nesting.step?, Ne.symm other]
    rw [Call.Nesting.walk?_cons, stays, Option.bind_some, ih free]

/-- A quoted text leaves a place where it was. -/
theorem walk?_quoted (quotes : Call.isQuote mark = true) (free : mark ∉ text) (depth : Nat) :
    Call.Nesting.walk? ⟨depth, none⟩ (quoted mark text) = some ⟨depth, none⟩ := by
  -- The first mark opens the quotes and the last one closes them.
  have opened : Call.Nesting.step? ⟨depth, none⟩ mark = some ⟨depth, some mark⟩ := by
    simp [Call.Nesting.step?, quotes]
  have closed : Call.Nesting.step? ⟨depth, some mark⟩ mark = some ⟨depth, none⟩ := by
    simp [Call.Nesting.step?]
  rw [quoted, Call.Nesting.walk?_cons, opened, Option.bind_some, Call.Nesting.walk?_append,
    walk?_inside free, Option.bind_some, Call.Nesting.walk?_cons, closed, Option.bind_some,
    Call.Nesting.walk?_nil]

/-- Nothing is cut behind a quotation mark up to the same mark. -/
theorem pieces_inside (free : mark ∉ text) (depth : Int) (rest : Text) :
    pieces depth (some mark) (text ++ mark :: rest) =
      (text ++ [mark]).foldr extend (pieces depth none rest) := by
  induction text with
  | nil => simp [pieces]
  | cons char others ih =>
    obtain ⟨other, free⟩ := List.ne_and_not_mem_of_not_mem_cons free
    simp only [List.cons_append, pieces, if_neg (Ne.symm other), List.foldr_cons, ih free]

/-- Nothing is cut in a quoted text. -/
theorem pieces_quoted (quotes : Call.isQuote mark = true) (free : mark ∉ text)
    (depth : Int) (rest : Text) :
    pieces depth none (quoted mark text ++ rest) =
      (quoted mark text).foldr extend (pieces depth none rest) := by
  have parts : quoted mark text ++ rest = mark :: (text ++ mark :: rest) := by simp [quoted]
  rw [parts, pieces, if_pos quotes, pieces_inside free]
  rfl

/-- A quotation mark is no white space. -/
theorem isBlank_of_isQuote (quotes : Call.isQuote mark = true) : Text.isBlank mark = false := by
  -- There are two marks.
  simp only [Call.isQuote, Bool.or_eq_true, beq_iff_eq] at quotes
  rcases quotes with rfl | rfl <;> decide

/-- A text in quotes is one argument, whatever else it holds. -/
theorem IsWhole.quoted (quotes : Call.isQuote mark = true) (free : mark ∉ text) :
    IsWhole (quoted mark text) where
  closed := walk?_quoted quotes free
  uncut := pieces_quoted quotes free
  filled := by simp [Text.blank, Argument.quoted, isBlank_of_isQuote quotes]
  trimmed := by
    -- It begins and ends with a mark.
    have solid := isBlank_of_isQuote quotes
    have last : (Argument.quoted mark text).getLast? = some mark := by
      simp [Argument.quoted, List.getLast?_cons]
    exact Text.trim_eq_self solid (by rw [last]; exact solid)

/-- Taking off the quotes gives the text back. -/
theorem unquote_quoted (quotes : Call.isQuote mark = true) (text : Text) :
    unquote (Argument.quoted mark text) = text := by
  simp [unquote, Argument.quoted, quotes]

/-- Every source in a list of quoted texts is one argument. -/
theorem isWhole_of_mem_quoted {texts : List Text} (quotes : Call.isQuote mark = true)
    (free : ∀ text ∈ texts, mark ∉ text) :
    ∀ source ∈ texts.map (Argument.quoted mark), IsWhole source := by
  simp only [List.mem_map, forall_exists_index, and_imp, forall_apply_eq_imp_iff₂]
  exact fun text inside => .quoted quotes (free text inside)

/-- Splitting a list of quoted texts gives the texts back. -/
theorem split_listed (quotes : Call.isQuote mark = true) {texts : List Text}
    (free : ∀ text ∈ texts, mark ∉ text) : split (listed mark texts) = texts := by
  rw [listed, split_join (isWhole_of_mem_quoted quotes free)]
  simp [Function.comp_def, unquote_quoted quotes]

end Quoted

end Argument

/-- A list of quoted texts closes what it opens. -/
theorem Call.Nesting.walk?_listed {mark : Char} {texts : List Text}
    (quotes : Call.isQuote mark = true) (free : ∀ text ∈ texts, mark ∉ text) :
    outside.walk? (Argument.listed mark texts) = some outside :=
  Argument.walk?_join (Argument.isWhole_of_mem_quoted quotes free)

/-- A call that is written with a list of texts, each in quotation marks that it does not hold
itself, is read as one call over the whole text, with these texts as its arguments, whatever else
they hold. -/
theorem tokenize_quoted {name : Text} (named : Call.IsName name) {mark : Char}
    (quotes : Call.isQuote mark = true) {texts : List Text}
    (free : ∀ text ∈ texts, mark ∉ text) :
    let written := name ++ '(' :: (Argument.listed mark texts ++ [')'])
    ∃ call : Call, tokenize written = [⟨.call call, 0, Text.byteLength written⟩] ∧
      call.name = name ∧ call.arguments = texts := by
  -- The texts close what they open, so the call is complete.
  have complete : Call.IsComplete ⟨name, Argument.listed mark texts⟩ :=
    ⟨named, Call.Nesting.walk?_listed quotes free⟩
  exact ⟨⟨name, Argument.listed mark texts⟩, complete.tokenize_source, rfl,
    Argument.split_listed quotes free⟩

/-- Commas, parentheses, other quotes, white space, calls and an empty text come back. -/
theorem tokenize_quoted_hard :
    let written := "A.TRIM(\"a,b\", \" c)'(é \", \"\", \"TRIM(x)\")".toList
    ∃ call : Call, tokenize written = [⟨.call call, 0, Text.byteLength written⟩] ∧
      call.name = "A.TRIM".toList ∧
      call.arguments = ["a,b".toList, " c)'(é ".toList, [], "TRIM(x)".toList] := by
  -- A name of two runs, and texts that hold everything but the mark itself.
  have front : Call.IsRun ['A'] := ⟨by decide, List.all_eq_true.mp (by decide)⟩
  have back : Call.IsRun "TRIM".toList := ⟨by decide, List.all_eq_true.mp (by decide)⟩
  have named : Call.IsName "A.TRIM".toList := .dotted front back
  have quotes : Call.isQuote '"' = true := by decide
  have free : ∀ text ∈ ["a,b".toList, " c)'(é ".toList, [], "TRIM(x)".toList], '"' ∉ text := by
    decide
  exact tokenize_quoted named quotes free

end Docket
