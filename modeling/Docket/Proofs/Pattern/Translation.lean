import Docket.Proofs.Pattern.Replacement
import Docket.Proofs.Text.Decimal
import Docket.Table.Lookup
import Mathlib.Data.List.Basic
import Mathlib.Data.List.TakeWhile

/-! When a replacement with backslashes means the same in its form with dollar signs. -/

namespace Docket.Replacement

/-- The parts of a piece in the form with dollar signs, where nothing around it interferes. -/
def Piece.parts : Piece → List Part
  | .char letter => [.char letter]
  | .unknown letter => [.char '\\', .char letter]
  | .group reference => [.group reference]

/-- Whether a dollar sign directly in front of pieces begins no reference with them. The form of a
dollar sign begins with another one, which makes a pair with the first, so what follows decides. -/
def sparesDollar : List Piece → Bool
  | [] => true
  | .char letter :: rest =>
    if letter = '$' then sparesDollar rest
    else if letter = '\x7b' then decide ('\x7d' ∉ rest.flatMap Piece.dollarForm)
    else !isReferenceChar letter
  | .unknown _ :: _ => true
  | .group _ :: _ => false

/-- Whether pieces mean the same in their form with dollar signs. A dollar sign behind a backslash
is not doubled, so it must not begin a reference, and a name must not hold the brace that closes
it. -/
def keepMeaning : List Piece → Bool
  | [] => true
  | .char _ :: rest => keepMeaning rest
  | .unknown letter :: rest => (letter != '$' || sparesDollar rest) && keepMeaning rest
  | .group reference :: rest => decide ('\x7d' ∉ reference) && keepMeaning rest

/-- Whether a piece means the same in its form with dollar signs in front of other pieces. -/
def Piece.keepsMeaning (rest : List Piece) : Piece → Bool
  | .char _ => true
  | .unknown letter => letter != '$' || sparesDollar rest
  | .group reference => decide ('\x7d' ∉ reference)

/-- Pieces keep their meaning if each of them does in front of those behind it. -/
theorem keepMeaning_cons (piece : Piece) (rest : List Piece) :
    keepMeaning (piece :: rest) = (piece.keepsMeaning rest && keepMeaning rest) := by
  cases piece <;> rfl

section

variable {pattern : Pattern} {found : Pattern.Match}

/-- Outside references every character but a dollar sign is a part of its own. -/
theorem parts_cons {char : Char} (plain : char ≠ '$') (rest : Text) :
    parts (char :: rest) = .char char :: parts rest := by
  simp [parts, plain]

/-- A doubled dollar sign is one part. -/
theorem parts_doubled (rest : Text) : parts ('$' :: '$' :: rest) = .char '$' :: parts rest := by
  simp [parts]

/-- A dollar sign that begins a reference is one part with it. -/
theorem parts_reference {text name after : Text} (single : text.head? ≠ some '$')
    (refers : reference? text = some (name, after)) :
    parts ('$' :: text) = .group name :: parts after := by
  -- Another dollar sign would have made a pair with the first.
  rw [parts]
  · split
    · rename_i other later same
      rw [refers] at same
      obtain ⟨rfl, rfl⟩ := Prod.mk.inj (Option.some.inj same)
      rfl
    · rename_i missing
      simp [refers] at missing
  · rintro rest rfl
    exact single rfl

/-- A dollar sign that begins nothing is a part of its own. -/
theorem parts_lone {text : Text} (single : text.head? ≠ some '$') (lone : reference? text = none) :
    parts ('$' :: text) = .char '$' :: parts text := by
  -- Another dollar sign would have made a pair with the first.
  rw [parts]
  · split
    · rename_i other later same
      simp [lone] at same
    · rfl
  · rintro rest rfl
    exact single rfl

/-- A reference in braces is read as it was written if no brace closes it early. -/
theorem parts_braced {reference : Text} (whole : '\x7d' ∉ reference) (rest : Text) :
    parts ((Piece.group reference).dollarForm ++ rest) = .group reference :: parts rest := by
  have cut : reference? ('\x7b' :: (reference ++ '\x7d' :: rest)) = some (reference, rest) :=
    Text.splitOnce?_append whole rest
  have split := parts_reference (by simp) cut
  simpa [Piece.dollarForm] using split

/-- A text that begins with neither a brace nor a character of references begins no reference. -/
theorem reference?_cons_eq_none {char : Char} (open_ : char ≠ '\x7b')
    (apart : isReferenceChar char = false) (rest : Text) : reference? (char :: rest) = none := by
  simp [reference?, open_, apart]

/-- A dollar sign that the pieces behind it spare is a part of its own. -/
theorem parts_of_sparesDollar {list : List Piece} (spared : sparesDollar list = true) :
    parts ('$' :: list.flatMap Piece.dollarForm) =
      .char '$' :: parts (list.flatMap Piece.dollarForm) := by
  -- Only a run of further dollar signs is looked through, and it is spared as its end is.
  induction list with
  | nil => exact parts_lone (by simp) (by simp [reference?])
  | cons piece rest ih =>
    cases piece with
    | char letter =>
      rw [sparesDollar] at spared
      split at spared
      · -- The first of three dollar signs takes the second, and the third stands as the first did.
        rename_i dollar
        simp [dollar, Piece.dollarForm, parts_doubled, ih spared]
      · rename_i other
        have lone : reference? (letter :: rest.flatMap Piece.dollarForm) = none := by
          split at spared
          · rename_i brace
            have open_ : Text.splitOnce? '\x7d' (rest.flatMap Piece.dollarForm) = none := by
              rw [← Option.not_isSome_iff_eq_none, Text.splitOnce?_isSome_iff]
              simpa using spared
            rw [brace]
            exact open_
          · rename_i apart
            exact reference?_cons_eq_none apart (by simpa using spared) _
        simpa [Piece.dollarForm, other] using parts_lone (by simpa using other) lone
    | unknown letter =>
      exact parts_lone (by simp [Piece.dollarForm])
        (reference?_cons_eq_none (by decide) (by decide) _)
    | group reference => exact absurd spared (by simp [sparesDollar])

/-- A piece that keeps its meaning is read as it was written, and the others behind it. -/
theorem parts_of_keepsMeaning {piece : Piece} {rest : List Piece}
    (keeps : piece.keepsMeaning rest = true) :
    parts ((piece :: rest).flatMap Piece.dollarForm) =
      piece.parts ++ parts (rest.flatMap Piece.dollarForm) := by
  -- Of a backslash with a dollar sign, both are read alone if what follows spares the second.
  cases piece with
  | char letter =>
    by_cases dollar : letter = '$'
    · simp [dollar, Piece.dollarForm, Piece.parts, parts_doubled]
    · simp [dollar, Piece.dollarForm, Piece.parts, parts_cons]
  | unknown letter =>
    by_cases dollar : letter = '$'
    · have spared : sparesDollar rest = true := by simpa [dollar, Piece.keepsMeaning] using keeps
      simp [dollar, Piece.dollarForm, Piece.parts, parts_cons, parts_of_sparesDollar spared]
    · simp [dollar, Piece.dollarForm, Piece.parts, parts_cons]
  | group reference =>
    have whole : '\x7d' ∉ reference := by simpa [Piece.keepsMeaning] using keeps
    exact parts_braced whole _

/-- Pieces that keep their meaning are read part by part as they were written. -/
theorem parts_of_keepMeaning {list : List Piece} (keep : keepMeaning list = true) :
    parts (list.flatMap Piece.dollarForm) = list.flatMap Piece.parts := by
  induction list with
  | nil => simp [parts]
  | cons piece rest ih =>
    rw [keepMeaning_cons] at keep
    obtain ⟨here, later⟩ := Bool.and_eq_true_iff.mp keep
    rw [parts_of_keepsMeaning here, ih later, List.flatMap_cons]

/-- The parts of a piece mean what the piece means. -/
theorem flatMap_meaning_parts (piece : Piece) :
    piece.parts.flatMap (Part.meaning pattern found) = piece.meaning pattern found := by
  cases piece <;> simp [Piece.parts, Part.meaning, Piece.meaning]

/-- Pieces that keep their meaning mean the same in their form with dollar signs. -/
theorem flatMap_meaning_of_keepMeaning {list : List Piece} (keep : keepMeaning list = true) :
    (parts (list.flatMap Piece.dollarForm)).flatMap (Part.meaning pattern found) =
      list.flatMap (Piece.meaning pattern found) := by
  rw [parts_of_keepMeaning keep, List.flatMap_assoc]
  simp only [flatMap_meaning_parts]

end

/-- A pattern that has one name for a group. -/
def naming (name : Text) (group : Nat) : Pattern :=
  ⟨default, group, [(name, group)]⟩

/-- A match in which one group took part. -/
def holding (group : Nat) (value : Text) : Pattern.Match :=
  ⟨value, [(2 * group, 0), (2 * group + 1, value.length)]⟩

/-- The group that took part holds its value, and no other one holds anything. -/
theorem group?_holding (group other : Nat) (value : Text) :
    (holding group value).group? other = if other = group then some value else none := by
  -- The two slots of a group are those of its number alone.
  by_cases same : other = group
  · simp [holding, Pattern.Match.group?, Pattern.Slots.span?, same, Table.lookup_cons_pair]
  · have apart : 2 * other ≠ 2 * group := by omega
    have odd : 2 * other ≠ 2 * group + 1 := by omega
    simp [holding, Pattern.Match.group?, Pattern.Slots.span?, same, Table.lookup_cons_pair, apart,
      odd]

/-- Every reference refers to any value in some match. -/
theorem exists_referent (reference value : Text) :
    ∃ pattern found, referent pattern found reference = value := by
  -- A number refers to its group, and a name to the group that a pattern gives it.
  cases number : Text.word? reference with
  | some group =>
    exact ⟨naming [] 0, holding group value, by simp [referent, number, group?_holding]⟩
  | none =>
    refine ⟨naming reference 1, holding 1 value, ?_⟩
    simp [referent, number, Pattern.groupNamed?, naming, group?_holding]

/-- A reference with a brace is a name, and it may be the only one that refers to anything. -/
theorem exists_referent_apart {reference : Text} (brace : '\x7d' ∈ reference) :
    ∃ pattern, ∀ value, ∃ found, referent pattern found reference = value ∧
      ∀ other, '\x7d' ∉ other → referent pattern found other = [] := by
  -- No number in a replacement is as large as that of the group.
  have name := Text.word?_eq_none_of_mem (by decide) (by decide) brace
  refine ⟨naming reference Text.wordCount, fun value => ⟨holding Text.wordCount value, ?_, ?_⟩⟩
  · simp [referent, name, Pattern.groupNamed?, naming, group?_holding]
  · -- Another reference is a number below that of the group, or another name.
    intro other free
    unfold referent
    cases number : Text.word? other with
    | some group =>
      have apart : group ≠ Text.wordCount := Nat.ne_of_lt (Text.lt_wordCount_of_word? number)
      simp [group?_holding, apart]
    | none =>
      have apart : (other == reference) = false := by
        rw [beq_eq_false_iff_ne]
        rintro rfl
        exact free brace
      simp [Pattern.groupNamed?, naming, List.lookup_cons, apart]

/-- A character of references behind a dollar sign begins a reference. -/
theorem exists_reference {char : Char} (refers : isReferenceChar char = true) (rest : Text) :
    ∃ name after, reference? (char :: rest) = some (name, after) := by
  have other : char ≠ '\x7b' := by
    rintro rfl
    exact absurd refers (by decide)
  exact ⟨char :: rest.takeWhile isReferenceChar, rest.dropWhile isReferenceChar,
    by simp [reference?, other, refers]⟩

/-- A dollar sign that the pieces behind it do not spare means something else in some match. -/
theorem exists_ne_of_not_sparesDollar {list : List Piece} (caught : sparesDollar list = false) :
    ∃ pattern found,
      (parts ('$' :: list.flatMap Piece.dollarForm)).flatMap (Part.meaning pattern found) ≠
        '$' :: list.flatMap (Piece.meaning pattern found) := by
  -- The dollar sign begins a reference, and some match puts a text without a dollar sign there.
  induction list with
  | nil => exact absurd caught (by simp [sparesDollar])
  | cons piece rest ih =>
    cases piece with
    | char letter =>
      rw [sparesDollar] at caught
      split at caught
      · rename_i dollar
        obtain ⟨pattern, found, differ⟩ := ih caught
        refine ⟨pattern, found, ?_⟩
        simpa [dollar, Piece.dollarForm, parts_doubled, Part.meaning, Piece.meaning] using differ
      · rename_i other
        -- The character behind begins a reference, in braces that are closed or without any.
        have refers : ∃ name after,
            reference? (letter :: rest.flatMap Piece.dollarForm) = some (name, after) := by
          split at caught
          · rename_i brace
            have closed : (Text.splitOnce? '\x7d' (rest.flatMap Piece.dollarForm)).isSome = true :=
              Text.splitOnce?_isSome_iff.mpr (by simpa using caught)
            obtain ⟨⟨name, after⟩, cut⟩ := Option.isSome_iff_exists.mp closed
            exact ⟨name, after, by rw [brace]; exact cut⟩
          · exact exists_reference (by simpa using caught) _
        obtain ⟨name, after, refers⟩ := refers
        obtain ⟨pattern, found, value⟩ := exists_referent name ['x']
        refine ⟨pattern, found, ?_⟩
        have split := parts_reference (by simpa using other) refers
        simp [Piece.dollarForm, other, split, Part.meaning, value]
    | unknown letter => exact absurd caught (by simp [sparesDollar])
    -- The reference itself begins with a dollar sign, so two of them meet and stand for one.
    | group reference =>
      obtain ⟨pattern, found, value⟩ := exists_referent reference ['x']
      refine ⟨pattern, found, ?_⟩
      simp [Piece.dollarForm, parts_doubled, parts_cons, Part.meaning, Piece.meaning, value]

/-- A reference holds no brace that closes, whether it was written in braces or without. -/
theorem brace_notMem_of_reference? {text name after : Text}
    (refers : reference? text = some (name, after)) : '\x7d' ∉ name := by
  -- In braces the name ends at the first one that closes, and without them braces do not belong to
  -- it.
  unfold reference? at refers
  split at refers
  · exact (Text.splitOnce?_eq_some_iff.mp refers).1
  · split at refers
    · exact absurd refers (by simp)
    · obtain ⟨rfl, -⟩ := Prod.mk.inj (Option.some.inj refers)
      intro inside
      exact absurd (List.mem_takeWhile_imp inside) (by decide)

/-- No part refers by a name with a brace that closes. -/
theorem brace_notMem_of_group_mem_parts {text reference : Text}
    (inside : Part.group reference ∈ parts text) : '\x7d' ∉ reference := by
  -- Every group among the parts was read as a reference.
  fun_induction parts text with
  | case1 => exact absurd inside List.not_mem_nil
  | case2 rest ih => exact ih (by simpa using inside)
  | case3 rest single name after refers ih =>
    rcases List.mem_cons.mp inside with same | later
    · obtain rfl := Part.group.inj same
      exact brace_notMem_of_reference? refers
    · exact ih later
  | case4 rest single lone ih => exact ih (by simpa using inside)
  | case5 char rest apart other ih => exact ih (by simpa using inside)

/-- What a part stands for if no group holds anything. -/
def Part.bare : Part → Text
  | .char letter => [letter]
  | .group _ => []

/-- A name with a brace that closes it early means something else in some match. -/
theorem exists_ne_of_brace {reference : Text} (brace : '\x7d' ∈ reference) (list : List Piece) :
    ∃ pattern found,
      (parts ((Piece.group reference :: list).flatMap Piece.dollarForm)).flatMap
          (Part.meaning pattern found) ≠
        (Piece.group reference :: list).flatMap (Piece.meaning pattern found) := by
  -- Only the name as a whole refers to anything, and what it refers to is longer than the rest.
  obtain ⟨pattern, holds⟩ := exists_referent_apart brace
  generalize (Piece.group reference :: list).flatMap Piece.dollarForm = form
  obtain ⟨found, value, others⟩ :=
    holds (List.replicate (((parts form).flatMap Part.bare).length + 1) 'x')
  refine ⟨pattern, found, fun same => ?_⟩
  have bare : (parts form).flatMap (Part.meaning pattern found) =
      (parts form).flatMap Part.bare := by
    refine List.flatMap_congr fun part inside => ?_
    cases part with
    | char letter => rfl
    | group other => exact others other (brace_notMem_of_group_mem_parts inside)
  -- Read in pieces the form is too short for what the reference stands for.
  have lengths := congrArg List.length same
  rw [bare, List.flatMap_cons, Piece.meaning, value] at lengths
  simp only [List.length_append, List.length_replicate] at lengths
  omega

/-- A piece that does not keep its meaning means something else in some match. -/
theorem exists_ne_of_not_keepsMeaning {piece : Piece} {rest : List Piece}
    (lost : piece.keepsMeaning rest = false) :
    ∃ pattern found,
      (parts ((piece :: rest).flatMap Piece.dollarForm)).flatMap (Part.meaning pattern found) ≠
        (piece :: rest).flatMap (Piece.meaning pattern found) := by
  -- Either a dollar sign behind a backslash or a brace in a name is to blame.
  cases piece with
  | char letter => exact absurd lost (by simp [Piece.keepsMeaning])
  | unknown letter =>
    obtain ⟨rfl, caught⟩ : letter = '$' ∧ sparesDollar rest = false := by
      simpa [Piece.keepsMeaning] using lost
    obtain ⟨pattern, found, differ⟩ := exists_ne_of_not_sparesDollar caught
    refine ⟨pattern, found, ?_⟩
    simpa [Piece.dollarForm, parts_cons, Part.meaning, Piece.meaning] using differ
  | group reference =>
    have brace : '\x7d' ∈ reference := by simpa [Piece.keepsMeaning] using lost
    exact exists_ne_of_brace brace rest

/-- Pieces that do not keep their meaning mean something else in some match. -/
theorem exists_ne_of_not_keepMeaning {list : List Piece} (lost : keepMeaning list = false) :
    ∃ pattern found,
      (parts (list.flatMap Piece.dollarForm)).flatMap (Part.meaning pattern found) ≠
        list.flatMap (Piece.meaning pattern found) := by
  -- The pieces in front of the one that is to blame keep their meaning.
  induction list with
  | nil => exact absurd lost (by simp [keepMeaning])
  | cons piece rest ih =>
    cases here : piece.keepsMeaning rest with
    | true =>
      have later : keepMeaning rest = false := by simpa [keepMeaning_cons, here] using lost
      obtain ⟨pattern, found, differ⟩ := ih later
      refine ⟨pattern, found, fun same => differ ?_⟩
      rw [parts_of_keepsMeaning here, List.flatMap_append, flatMap_meaning_parts,
        List.flatMap_cons] at same
      exact List.append_cancel_left same
    -- The first piece itself is to blame.
    | false => exact exists_ne_of_not_keepsMeaning here

/-- In every match a replacement with backslashes stands for exactly one text. Expanding its form
with dollar signs gives that text in every match exactly if no dollar sign behind a backslash begins
a reference and no name holds the brace that closes it. -/
theorem expand_translate_stands_iff (replacement : Text) :
    (∀ pattern found, ∃! value, Stands pattern found replacement value) ∧
    ((∀ pattern found, Stands pattern found replacement
        (expand pattern (translate replacement) found)) ↔
      keepMeaning (pieces replacement) = true) := by
  -- What the replacement stands for is what its pieces mean, and so the two meanings are compared.
  refine ⟨fun pattern found => ?_, fun all => ?_, fun keep pattern found => ?_⟩
  · exact ⟨_, stands_iff.mpr rfl, fun value stands => stands_iff.mp stands⟩
  · by_contra lost
    obtain ⟨pattern, found, differ⟩ := exists_ne_of_not_keepMeaning (Bool.eq_false_iff.mpr lost)
    exact differ (stands_iff.mp (all pattern found))
  · exact stands_iff.mpr (flatMap_meaning_of_keepMeaning keep)

-- Dollar signs of their own are doubled, and a name may not hold the brace that closes it.
example : keepMeaning (pieces "\\3-\\g<y>, $5\\n".toList) = true ∧
    keepMeaning (pieces "\\g<a\x7db>".toList) = false := by decide +kernel

/-- The dollar sign of `\$1` takes the digit for a group, so the first group stands in its place. -/
theorem expand_translate_takes_digit : ∃ pattern found,
    Pattern.read? "(a)".toList = some pattern ∧ pattern.match? "a".toList = some found ∧
      expand pattern (translate "\\$1".toList) found = "\\a".toList ∧
      Stands pattern found "\\$1".toList "\\$1".toList ∧
      ¬ Stands pattern found "\\$1".toList "\\a".toList := by
  let pattern : Pattern := ⟨⟨#[.accept, .save 1 0, .save 3 1, .take (.singleton 'a') 2, .save 2 3,
    .save 0 4], 5⟩, 1, []⟩
  let found : Pattern.Match := ⟨"a".toList, [(1, 1), (3, 1), (2, 0), (0, 0)]⟩
  -- The pattern takes the one letter and records it as its first group.
  have searched : pattern.match? "a".toList = some found := by
    have taken : CharSet.has (.singleton 'a') 'a' = true := by decide
    simp [pattern, found, Pattern.match?, Pattern.Program.search?, Pattern.searchFrom,
      Pattern.wayBound, Pattern.Instruction.fan, Pattern.follow, Pattern.Place.start,
      Pattern.Instruction.ways, taken, Pattern.Slots.put]
  have meant : (pieces "\\$1".toList).flatMap (Piece.meaning pattern found) = "\\$1".toList := by
    decide +kernel
  refine ⟨pattern, found, rfl, searched, by decide +kernel, stands_iff.mpr meant.symm, ?_⟩
  rw [stands_iff, meant]
  decide

end Docket.Replacement
