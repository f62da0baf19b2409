import Docket.Expression.Argument
import Docket.Field.Definition
import Docket.Proofs.Expression.Exactness

/-! The text of a script or a query is put between the parentheses of a call as it is, so its own
parentheses and quotes decide whether that call is read, cut short, or left as text. -/

namespace Docket

namespace Call

variable {nesting place : Nesting} {name inner : Text}

/-- A text leads to no place exactly if one of its parentheses closes what nothing in it opens. -/
theorem walk?_eq_none_iff : nesting.walk? inner = none ↔
    ∃ front back, inner = front ++ ')' :: back ∧ nesting.walk? front = some .outside := by
  -- The look for the closing parenthesis and the walk take the same steps.
  have closes : nesting.walk? inner = none ↔
      (closing? nesting.depth nesting.quote inner).isSome = true := by
    induction inner generalizing nesting with
    | nil => simp [closing?]
    | cons char rest ih =>
      rw [Nesting.walk?_cons, closing?_cons]
      cases moved : nesting.step? char with
      | none => simp
      | some next => simpa using ih
  simp only [closes, Option.isSome_iff_exists, Prod.exists, closing?_eq_some_iff, and_comm]

/-- Behind a text that leaves something open, a parenthesis does not close the call. -/
theorem closing?_of_ne_outside (leads : Nesting.outside.walk? inner = some place)
    (opened : place ≠ .outside) : closing? 0 none (inner ++ [')']) = none := by
  rw [Option.eq_none_iff_forall_not_mem]
  rintro ⟨front, back⟩ found
  have found : closing? Nesting.outside.depth Nesting.outside.quote (inner ++ [')']) =
      some (front, back) := found
  obtain ⟨closed, parts⟩ := closing?_eq_some_iff.mp found
  -- The text with the parenthesis would lead nowhere, but there is a step from where it leads.
  have nowhere := walk?_eq_none_iff.mpr ⟨front, back, parts, closed⟩
  rw [Nesting.walk?_append, leads, Option.bind_some, Nesting.walk?_cons] at nowhere
  cases moved : place.step? ')' with
  | none => exact opened (Nesting.step?_eq_none_iff.mp moved).1
  | some next => simp [moved] at nowhere

/-- A call whose parenthesis nothing closes belongs to the text before the next call. -/
theorem segments_unclosed (named : IsName name) {behind : Text}
    (unclosed : closing? 0 none behind = none) :
    ∃ before rest, segments behind = Segment.lead before ++ rest ∧
      segments (name ++ '(' :: behind) = .text (name ++ '(' :: before) :: rest := by
  have first := first?_unclosed named unclosed false
  -- The search goes on behind the parenthesis, so what it finds is found in the rest alone as well.
  cases found : first? false behind with
  | none =>
    rw [found, Option.map_none] at first
    exact ⟨behind, [], by simp [segments_of_first?_none found],
      by simp [segments_of_first?_none first, Segment.lead]⟩
  | some split =>
    rw [found, Option.map_some] at first
    exact ⟨split.before, .call split.call :: segments split.after, segments_of_first?_some found,
      by simp [segments_of_first?_some first, Segment.lead, Split.behind]⟩

end Call

/-- The function that runs the text of a source. -/
def Source.callee? : Source → Option Text
  | .expression => none
  | .script => some "SCRIPTING".toList
  | .sql => some "SQL".toList

namespace Field

open Call

variable {field : Field} {name : Text}

/-- The formula of a script or a query is its text as the inner text of a call. -/
theorem formula_eq_source (called : field.source.callee? = some name) :
    field.formula = Call.source ⟨name, field.expression⟩ := by
  -- The text is set between the parentheses as it is, without quotes.
  cases source : field.source with
  | expression => simp [source, Source.callee?] at called
  | script =>
    obtain rfl : "SCRIPTING".toList = name := by simpa [source, Source.callee?] using called
    simp [formula, source, Call.source]
  | sql =>
    obtain rfl : "SQL".toList = name := by simpa [source, Source.callee?] using called
    simp [formula, source, Call.source]

theorem isName_of_callee? {source : Source} (called : source.callee? = some name) :
    IsName name := by
  -- The two names are runs of capital letters.
  cases source with
  | expression => simp [Source.callee?] at called
  | script =>
    obtain rfl := Option.some.inj called
    exact .plain ⟨by decide, List.all_eq_true.mp (by decide)⟩
  | sql =>
    obtain rfl := Option.some.inj called
    exact .plain ⟨by decide, List.all_eq_true.mp (by decide)⟩

/-- The text of a script or a query is the argument list of its function exactly if it closes what
it opens, and only that. Where it closes more, the call ends there and the rest is read as text that
follows. Where something stays open, the name of the function is literal text. -/
theorem formula_isCall_iff (called : field.source.callee? = some name) :
    let written := field.formula
    let leads := Nesting.outside.walk? field.expression
    ((∃ call : Call, tokenize written = [⟨.call call, 0, Text.byteLength written⟩] ∧
        call.name = name ∧ call.arguments = Argument.split field.expression) ↔
      leads = some .outside) ∧
    (leads = none → ∃ front back, field.expression = front ++ ')' :: back ∧
      segments written = .call ⟨name, front⟩ :: segments (back ++ [')'])) ∧
    (∀ place, leads = some place → place ≠ .outside → ∃ before rest,
      segments (field.expression ++ [')']) = Segment.lead before ++ rest ∧
      segments written = .text (name ++ '(' :: before) :: rest) := by
  intro written leads
  have named := isName_of_callee? called
  have source : written = Call.source ⟨name, field.expression⟩ := formula_eq_source called
  refine ⟨⟨?_, fun closed => ?_⟩, fun nowhere => ?_, fun place there opened => ?_⟩
  · -- The call has the whole formula as its source, so the text is its inner text.
    rintro ⟨call, read, rfl, -⟩
    have single : segments written = [.call call] := by simp [segments, read]
    obtain ⟨complete, same⟩ := segments_eq_singleton_iff.mp single
    have inner : field.expression = call.inner := by simpa [source, Call.source] using same
    simpa only [leads, inner] using complete.closed
  · -- An expression that leaves nothing open is the whole inner text of the call.
    have complete : IsComplete ⟨name, field.expression⟩ := ⟨named, closed⟩
    refine ⟨⟨name, field.expression⟩, ?_, rfl, rfl⟩
    rw [source, complete.tokenize_source]
  · obtain ⟨front, back, parts, closed⟩ := walk?_eq_none_iff.mp nowhere
    -- What stands behind the closing parenthesis does not matter for the call.
    have complete : IsComplete ⟨name, front⟩ := ⟨named, closed⟩
    have first := complete.first?_append (back ++ [')'])
    have written_eq : written = Call.source ⟨name, front⟩ ++ (back ++ [')']) := by
      simp [source, parts, Call.source]
    refine ⟨front, back, parts, ?_⟩
    rw [written_eq, segments_of_first?_some first]
    rfl
  · -- Something stays open, so the parenthesis behind the name is never closed.
    have written_eq : written = name ++ '(' :: (field.expression ++ [')']) := source
    rw [written_eq]
    exact segments_unclosed named (closing?_of_ne_outside there opened)

/-- A query with parentheses and an apostrophe inside its quotes, and a comma in parentheses. -/
theorem formula_isCall_quoted :
    let field : Field := ⟨"K".toList, "\"crm)\", \"it's (\", (a, b)".toList, .sql⟩
    field.source.callee? = some "SQL".toList ∧
    ∃ call : Call, tokenize field.formula =
        [⟨.call call, 0, Text.byteLength field.formula⟩] ∧ call.name = "SQL".toList ∧
      call.arguments = ["crm)".toList, "it's (".toList, "(a, b)".toList] := by
  intro field
  have called : field.source.callee? = some "SQL".toList := rfl
  -- The arguments are evaluated, and so is the condition under which the formula is one call.
  have arguments : Argument.split field.expression =
      ["crm)".toList, "it's (".toList, "(a, b)".toList] := by decide +kernel
  exact ⟨called, arguments ▸ (formula_isCall_iff called).1.mpr (by decide +kernel)⟩

/-- The path of a script with an apostrophe stays as text, although it is one argument. -/
theorem formula_of_apostrophe :
    let field : Field := ⟨"Nr".toList, "o'neil.sh".toList, .script⟩
    field.expression ≠ [] ∧ Argument.split field.expression = [field.expression] ∧
      segments field.formula = [.text "SCRIPTING(o'neil.sh)".toList] := by
  decide +kernel

end Field

end Docket
