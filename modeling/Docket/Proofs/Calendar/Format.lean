import Docket.Proofs.Calendar.Scan
import Mathlib.Algebra.Group.Nat.Defs
import Mathlib.Data.List.TakeWhile

/-!
What date patterns show.

A pattern can be written in parts. Where no run of letters and no marker goes across the join of two
patterns, the joined pattern shows what the two show, one after the other, and it means nothing only
if one of the two does.

A pattern that means nothing shows day, month and year with points, as `dd.mm.yyyy` does, but the
year is written by another rule: a sign and at least four digits outside of the years 0 to 9999,
where `yyyy` makes at least four characters, a sign included, and never writes a plus sign.
-/

namespace Docket

namespace Text

/-- A number has more than `size` digits if it is at least the power of ten with `size` zeros. -/
theorem lt_length_ofNat_iff {value size : Nat} (positive : 0 < size) :
    size < (ofNat value).length ↔ 10 ^ size ≤ value := by
  have short : (ofNat value).length ≤ size ↔ value < 10 ^ size :=
    Nat.length_toDigits_le_iff (by decide) positive
  omega

/-- No zeros stand in front of a text that is long enough. -/
theorem padZeros_of_le {width : Nat} {text : Text} (long : width ≤ text.length) :
    padZeros width text = text := by
  simp [padZeros, Nat.sub_eq_zero_of_le long]

/-- In front of a text that is too short stands one zero more for one character more. -/
theorem padZeros_succ_of_le {width : Nat} {text : Text} (short : text.length ≤ width) :
    padZeros (width + 1) text = '0' :: padZeros width text := by
  have more : width + 1 - text.length = width - text.length + 1 := by omega
  simp [padZeros, more, List.replicate_succ]

end Text

namespace DatePattern

/-- The markers: texts that are tokens as a whole. -/
def markers : List Text :=
  ["AM/PM".toList, "am/pm".toList]

/-- A marker goes across the join of two texts: the first one ends with its front, and the second
one begins with the rest of it. -/
def MarkerAcross (front back : Text) : Prop :=
  ∃ marker ∈ markers, ∃ size < marker.length, 0 < size ∧
    marker.take size <:+ front ∧ marker.drop size <+: back

instance (front back : Text) : Decidable (MarkerAcross front back) :=
  inferInstanceAs (Decidable (∃ marker ∈ markers, ∃ size < marker.length, 0 < size ∧
    marker.take size <:+ front ∧ marker.drop size <+: back))

/-- Neither a run of equal letters nor a marker goes across the join of two texts. -/
structure Parted (front back : Text) : Prop where
  apart : ∀ letter ∈ front.getLast?, letter ∉ back.head?
  whole : ¬ MarkerAcross front back

/-- A marker stands in front of a joined text only if it stands in front of the first part. -/
theorem startsWith_append {front back marker : Text} (listed : marker ∈ markers)
    (filled : front ≠ []) (whole : ¬ MarkerAcross front back) :
    Text.startsWith (front ++ back) marker = Text.startsWith front marker := by
  rw [Text.startsWith, Text.startsWith, Bool.eq_iff_iff, List.isPrefixOf_iff_prefix,
    List.isPrefixOf_iff_prefix]
  -- A marker in front of the first part is in front of both; the question is the other direction.
  refine ⟨fun ahead => ?_, fun ahead => ahead.trans (List.prefix_append front back)⟩
  by_cases fits : marker.length ≤ front.length
  · exact List.prefix_of_prefix_length_le ahead (List.prefix_append front back) fits
  · -- Otherwise the first part is used up before the marker is, so the marker goes across.
    have begun : front <+: marker :=
      List.prefix_of_prefix_length_le (List.prefix_append front back) ahead (by omega)
    obtain ⟨rest, rfl⟩ := begun
    have size : 0 < front.length := List.length_pos_iff.mpr filled
    refine absurd ⟨front ++ rest, listed, front.length, by omega, size, ?_, ?_⟩ whole
    · exact ⟨[], List.take_left⟩
    · rw [List.drop_left]
      exact (List.prefix_append_right_inj front).mp ahead

/-- The marker in front of a joined text is the one in front of the first part. -/
theorem marker?_append {letter : Char} {rest back : Text}
    (whole : ¬ MarkerAcross (letter :: rest) back) :
    marker? (letter :: (rest ++ back)) = marker? (letter :: rest) := by
  have filled : letter :: rest ≠ [] := List.cons_ne_nil letter rest
  have capital : "AM/PM".toList ∈ markers := by decide
  have small : "am/pm".toList ∈ markers := by decide
  rw [← List.cons_append, marker?, marker?, startsWith_append capital filled whole,
    startsWith_append small filled whole]

/-- A marker is five characters long. -/
theorem five_le_of_marker? {text : Text} {token : Token} (marked : marker? text = some token) :
    5 ≤ text.length := by
  have long {marker : Text} (ahead : Text.startsWith text marker = true) :
      marker.length ≤ text.length :=
    (List.isPrefixOf_iff_prefix.mp ahead).length_le
  -- Each of the markers stands in front with all its characters.
  unfold marker? at marked
  split at marked
  · exact long (by assumption)
  · split at marked
    · exact long (by assumption)
    · exact absurd marked (by simp)

/-- A text of one letter ends with that letter. -/
theorem getLast?_of_run {letter : Char} {rest : Text}
    (run : (rest.takeWhile (· == letter)).length = rest.length) :
    (letter :: rest).getLast? = some letter := by
  -- All characters belong to the run, the last one too.
  have whole : rest.takeWhile (· == letter) = rest :=
    (List.takeWhile_prefix _).eq_of_length run
  rw [List.getLast?_cons]
  cases last : rest.getLast? with
  | none => rfl
  | some char =>
    have same : char = letter :=
      beq_iff_eq.mp (List.takeWhile_eq_self_iff.mp whole char (List.mem_of_getLast? last))
    rw [Option.getD_some, same]

/-- A run ends at the join at the latest. -/
theorem runLength_append {letter : Char} {rest back : Text}
    (apart : ∀ last ∈ (letter :: rest).getLast?, last ∉ back.head?) :
    runLength letter (rest ++ back) = runLength letter rest := by
  rw [runLength, runLength, List.takeWhile_append]
  split
  · -- The first part ends with the run, so the second one begins with another character.
    rename_i run
    have ends := apart letter (getLast?_of_run run)
    have stops : back.takeWhile (· == letter) = [] := by
      cases back with
      | nil => rfl
      | cons first others =>
        have other : first ≠ letter := fun same => ends (congrArg some same)
        simp [other]
    rw [stops, List.append_nil, run]
  · rfl

namespace Parted

variable {front back : Text}

/-- What is left of the first part is parted from the second one too. -/
theorem drop (parted : Parted front back) (count : Nat) : Parted (front.drop count) back where
  -- The last letter of what is left is still the last one of the first part.
  apart := by
    intro letter last
    rw [List.getLast?_drop] at last
    split at last
    · exact absurd last (by simp)
    · exact parted.apart letter last
  -- A marker across the join begins behind the cut, so it went across the join before.
  whole := by
    rintro ⟨marker, listed, size, inside, positive, ends, begins⟩
    exact parted.whole ⟨marker, listed, size, inside, positive,
      ends.trans (List.drop_suffix count front), begins⟩

/-- The parts of a joined pattern are the parts of both patterns, if both mean something. -/
theorem parts?_append (parted : Parted front back) :
    parts? (front ++ back) =
      (parts? front).bind fun before => (parts? back).map (before ++ ·) := by
  -- The first pattern is read step by step, and each step is the same in front of the second one.
  fun_induction parts? front with
  | case1 => simp
  | case2 letter rest token marked ih =>
    have long : 4 ≤ rest.length := Nat.le_of_succ_le_succ (five_le_of_marker? marked)
    rw [List.cons_append, parts?_of_marker ((marker?_append parted.whole).trans marked),
      List.drop_succ_cons, List.drop_append_of_le_length long, ih (parted.drop 5)]
    simp [Option.map_bind, Option.bind_map, Function.comp_def]
  | case3 letter rest unmarked plain ih =>
    rw [List.cons_append, parts?_of_literal ((marker?_append parted.whole).trans unmarked)
      (List.isEmpty_iff.mp plain), ih (parted.drop 1)]
    simp [Option.map_bind, Option.bind_map, Function.comp_def]
  -- A run without meaning makes both sides meaningless.
  | case4 letter rest unmarked lettered more meaningless =>
    have filled : widths letter ≠ [] := List.isEmpty_eq_false_iff.mp (by simpa using lettered)
    rw [List.cons_append, parts?_of_run ((marker?_append parted.whole).trans unmarked) filled,
      runLength_append parted.apart, Bool.and_comm, if_pos meaningless]
    rfl
  -- The run ends within the first pattern, since the second one begins with another letter.
  | case5 letter rest unmarked lettered more meaning ih =>
    have filled : widths letter ≠ [] := List.isEmpty_eq_false_iff.mp (by simpa using lettered)
    have inside : runLength letter rest ≤ rest.length := (List.takeWhile_prefix _).length_le
    rw [List.cons_append, parts?_of_run ((marker?_append parted.whole).trans unmarked) filled,
      runLength_append parted.apart, Bool.and_comm, if_neg meaning,
      List.drop_append_of_le_length inside, ih (parted.drop (more + 1))]
    simp [Option.map_bind, Option.bind_map, Function.comp_def, more]

end Parted

/-- No marker is without letters of tokens. -/
theorem marker?_of_plain {text : Text} (plain : ∀ letter ∈ text, widths letter = []) :
    marker? text = none := by
  -- The last letter of a marker is a token of its own.
  have free {marker : Text} {last : Char} (inside : last ∈ marker) (lettered : widths last ≠ []) :
      Text.startsWith text marker = false := by
    rw [Bool.eq_false_iff]
    intro ahead
    exact lettered (plain last ((List.isPrefixOf_iff_prefix.mp ahead).subset inside))
  have capital : Text.startsWith text "AM/PM".toList = false :=
    @free _ 'M' (by decide) (by decide)
  have small : Text.startsWith text "am/pm".toList = false :=
    @free _ 'm' (by decide) (by decide)
  rw [marker?, capital, small]
  rfl

/-- A text without letters of tokens is literal from end to end. -/
theorem parts?_of_plain {text : Text} (plain : ∀ letter ∈ text, widths letter = []) :
    parts? text = some (text.map Part.literal) := by
  induction text with
  | nil => exact parts?_nil
  | cons letter rest ih =>
    obtain ⟨here, later⟩ := List.forall_mem_cons.mp plain
    rw [parts?_of_literal (marker?_of_plain plain) here, ih later]
    rfl

/-- A text without letters of tokens shows itself. -/
theorem format_of_plain {text : Text} (plain : ∀ letter ∈ text, widths letter = [])
    (instant : Instant) : format text instant = text := by
  rw [format, parts?_of_plain plain]
  simp [List.flatMap_map, Part.render]

/--
A date pattern can be written in two parts if the first one does not end with the letter that the
second one begins with, and no marker goes across the join.

The whole means nothing exactly if one of the parts means nothing. Otherwise it shows of every
instant what the two parts show, one after the other; a part without letters of tokens shows itself.

The same holds of a scan of the pattern, which takes literal text that it keeps back over the join.
-/
theorem format_append {front back : Text}
    (apart : ∀ letter ∈ front.getLast?, letter ∉ back.head?) (whole : ¬ MarkerAcross front back) :
    (parts? (front ++ back) = none ↔ parts? front = none ∨ parts? back = none) ∧
    (scan? (front ++ back) = none ↔ scan? front = none ∨ scan? back = none) ∧
    (parts? (front ++ back) ≠ none → ∀ instant,
      format (front ++ back) instant = format front instant ++ format back instant ∧
      formatScanned (front ++ back) instant =
        formatScanned front instant ++ formatScanned back instant ∧
      ((∀ letter ∈ front, widths letter = []) → format front instant = front) ∧
      ((∀ letter ∈ back, widths letter = []) → format back instant = back)) := by
  -- Everything follows from how the parts of the whole come from the parts of both patterns.
  have joined := Parted.parts?_append ⟨apart, whole⟩
  have refused : parts? (front ++ back) = none ↔ parts? front = none ∨ parts? back = none := by
    rw [joined]
    cases parts? front <;> simp
  refine ⟨refused, ?_, fun meant instant => ?_⟩
  · simpa only [scan?_eq_none_iff] using refused
  · -- Both patterns mean something, and the parts of the whole are theirs.
    have both := not_or.mp fun refusal => meant (refused.mpr refusal)
    obtain ⟨before, first⟩ := Option.ne_none_iff_exists'.mp both.1
    obtain ⟨after, second⟩ := Option.ne_none_iff_exists'.mp both.2
    have shown : format (front ++ back) instant = format front instant ++ format back instant := by
      simp only [format, joined, first, second, Option.bind_some, Option.map_some,
        List.flatMap_append]
    refine ⟨shown, ?_, fun plain => format_of_plain plain instant,
      fun plain => format_of_plain plain instant⟩
    simpa only [formatScanned_eq] using shown

/-- The join almost makes a marker, a letter is left over from a run, and a token stands on each
side. -/
theorem format_append_near_marker :
    let front := "www AM/".toList
    let back := "Pmm yyy".toList
    let instant : Instant := ⟨2025, 6, 20, 14, 5, 9⟩
    (∀ letter ∈ front.getLast?, letter ∉ back.head?) ∧ ¬ MarkerAcross front back ∧
      parts? (front ++ back) ≠ none ∧
      format (front ++ back) instant = "25w A5/".toList ++ "P06 2525".toList := by
  intro front back instant
  -- The conditions and the values are evaluated; the general theorem joins what the two parts show.
  have apart : ∀ letter ∈ front.getLast?, letter ∉ back.head? := by
    have last : front.getLast? = some '/' := by decide
    have first : back.head? = some 'P' := by decide
    simp [last, first]
  have whole : ¬ MarkerAcross front back := by decide
  have meant : parts? (front ++ back) ≠ none := by decide +kernel
  obtain ⟨shown, -⟩ := (format_append apart whole).2.2 meant instant
  refine ⟨apart, whole, meant, shown.trans ?_⟩
  decide +kernel

/-- A year as the calendar writes it, next to the same year in a pattern: a later year gets a plus
sign, and a year before zero a zero more if it has less than four digits. -/
theorem calendarYear_eq (year : Int) :
    Instant.calendarYear year =
      if 9999 < year then '+' :: fullYear year
      else if -1000 < year ∧ year < 0 then '-' :: '0' :: (fullYear year).tail
      else fullYear year := by
  have digits : 3 < (Text.ofNat year.natAbs).length ↔ 1000 ≤ year.natAbs :=
    Text.lt_length_ofNat_iff (by decide)
  by_cases negative : year < 0
  · have early : ¬ 9999 < year := by omega
    rw [Instant.calendarYear, fullYear, if_pos negative, if_pos negative, if_neg early]
    by_cases few : -1000 < year
    · -- Three digits are too few by one.
      rw [if_pos ⟨few, negative⟩, Text.padZeros_succ_of_le (by omega), List.tail_cons]
    · -- With four digits there is nothing to fill up.
      rw [if_neg fun late => few late.1, Text.padZeros_of_le (by omega),
        Text.padZeros_of_le (by omega)]
  · have late : ¬ (-1000 < year ∧ year < 0) := by omega
    rw [Instant.calendarYear, fullYear, if_neg negative, if_neg negative, if_neg late]

/-- A year is not written without characters. -/
theorem fullYear_ne_nil (year : Int) : fullYear year ≠ [] := by
  unfold fullYear
  split
  · exact List.cons_ne_nil _ _
  · simp [Text.padZeros, Text.ofNat]

/-- The calendar and the pattern write the years of four digits alike, and those before zero that
have four digits or more. -/
theorem calendarYear_eq_fullYear_iff (year : Int) :
    Instant.calendarYear year = fullYear year ↔ year ≤ -1000 ∨ 0 ≤ year ∧ year ≤ 9999 := by
  -- Where they write a year in two ways, the calendar takes one character more.
  have filled : 0 < (fullYear year).length := List.length_pos_iff.mpr (fullYear_ne_nil year)
  rw [calendarYear_eq]
  by_cases late : 9999 < year
  · -- A plus sign comes first.
    rw [if_pos late]
    exact iff_of_false (List.cons_ne_self _ _) (by omega)
  · rw [if_neg late]
    by_cases early : -1000 < year ∧ year < 0
    · rw [if_pos early]
      refine iff_of_false (fun same => ?_) (by omega)
      -- The calendar writes one zero more than the full year has.
      have length := congrArg List.length same
      simp only [List.length_cons, List.length_tail] at length
      omega
    · rw [if_neg early]
      exact iff_of_true rfl (by omega)

/-- The pattern that stands in for one without meaning shows the three parts of a date with points
between them. -/
theorem format_pointed (instant : Instant) :
    format "dd.mm.yyyy".toList instant =
      Instant.twoDigits instant.day ++ '.' :: Instant.twoDigits instant.month ++
        '.' :: fullYear instant.year := by
  -- Three tokens with points between them.
  have parts : parts? "dd.mm.yyyy".toList = some [.token .dayPadded, .literal '.',
      .token .monthPadded, .literal '.', .token .yearFull] := by
    decide +kernel
  rw [format, parts]
  simp [Part.render, Token.render]

/--
What a pattern without meaning shows of an instant, next to what `dd.mm.yyyy` shows.

The two show the same exactly in the years 0 to 9999, and in those before -999. In all years they
show the same day and the same month. A year after 9999 has a plus sign in the first and none in the
second, and a year before zero with less than four digits has one zero more in the first.
-/
theorem format_meaningless_iff {pattern : Text} (meaningless : parts? pattern = none)
    (instant : Instant) :
    let date := Instant.twoDigits instant.day ++ '.' :: Instant.twoDigits instant.month ++ ['.']
    (format pattern instant = format "dd.mm.yyyy".toList instant ↔
      instant.year ≤ -1000 ∨ 0 ≤ instant.year ∧ instant.year ≤ 9999) ∧
    format "dd.mm.yyyy".toList instant = date ++ fullYear instant.year ∧
    format pattern instant = date ++
      if 9999 < instant.year then '+' :: fullYear instant.year
      else if -1000 < instant.year ∧ instant.year < 0 then
        '-' :: '0' :: (fullYear instant.year).tail
      else fullYear instant.year := by
  intro date
  -- Day and month are the same in both, so the years decide.
  have pointed : format "dd.mm.yyyy".toList instant = date ++ fullYear instant.year := by
    rw [format_pointed]
    simp [date]
  -- The first one has no parts, so the date of the calendar stands in.
  have stands : format pattern instant = date ++ Instant.calendarYear instant.year := by
    rw [format, meaningless]
    simp [Instant.pointDate, date]
  refine ⟨?_, pointed, ?_⟩
  · rw [stands, pointed, List.append_cancel_left_eq, calendarYear_eq_fullYear_iff]
  · rw [stands, calendarYear_eq]

/-- Five letters for the year mean nothing. In the year -44 the date that stands in has a zero more
than `dd.mm.yyyy` writes, and in the year -1000 there is no difference. -/
theorem format_meaningless_early_years :
    let pattern := "AM/PM yyyyy".toList
    let ides : Instant := ⟨-44, 3, 15, 12, 0, 0⟩
    let later : Instant := ⟨-1000, 3, 15, 12, 0, 0⟩
    parts? pattern = none ∧
      format pattern ides = "15.03.-0044".toList ∧
      format "dd.mm.yyyy".toList ides = "15.03.-044".toList ∧
      format pattern later = format "dd.mm.yyyy".toList later := by
  intro pattern ides later
  -- Both instants are cases of the general theorem, one inside and one outside the exceptions.
  have meaningless : parts? pattern = none := by decide +kernel
  obtain ⟨-, written, stands⟩ := format_meaningless_iff meaningless ides
  obtain ⟨alike, -, -⟩ := format_meaningless_iff meaningless later
  refine ⟨meaningless, stands.trans ?_, written.trans ?_, alike.mpr (.inl (by decide))⟩
  all_goals decide +kernel

/-- In the year 10000 the date that stands in for a pattern without meaning has a plus sign, and the
date in `dd.mm.yyyy` has none. -/
theorem format_meaningless_plus_sign :
    let instant : Instant := ⟨10000, 6, 20, 14, 5, 9⟩
    instant.isValid = true ∧ parts? "yyyyy".toList = none ∧
      format "yyyyy".toList instant = "20.06.+10000".toList ∧
      format "dd.mm.yyyy".toList instant = "20.06.10000".toList ∧
      format "yyyyy".toList instant ≠ format "dd.mm.yyyy".toList instant := by
  decide +kernel

end DatePattern

end Docket
