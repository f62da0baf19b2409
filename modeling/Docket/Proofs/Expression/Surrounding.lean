import Docket.Proofs.Expression.Gate
import Docket.Proofs.Expression.Exactness
import Docket.Proofs.Expression.Reference

/-! Text around a call stays as it is. Only a run of capitals with a point, directly before the
call, is read as part of its name, and it comes back with the point before the value. -/

namespace Docket

/-- A text without opening parentheses and angle brackets. -/
def Text.IsBare (text : Text) : Prop :=
  ∀ char ∈ text, char ≠ '(' ∧ char ≠ '<' ∧ char ≠ '>'

instance (text : Text) : Decidable text.IsBare :=
  List.decidableBAll _ text

theorem Text.IsBare.no_paren {text : Text} (bare : text.IsBare) : '(' ∉ text :=
  fun inside => (bare _ inside).1 rfl

theorem Text.IsBare.isNameChar {text : Text} (bare : text.IsBare) :
    ∀ char ∈ text, Reference.isNameChar char = true :=
  fun char inside => by simp [Reference.isNameChar, bare char inside]

namespace Call

/-- What the end of a text in front may add to the name of a call: nothing, or a run with a point
if the name is a single run. -/
inductive Joins (name : Text) : Text → Prop where
  | apart : Joins name []
  | dotted {run : Text} (front : IsRun run) (back : IsRun name) : Joins name (run ++ ['.'])

/-- A text without opening parentheses holds no call. -/
theorem first?_of_no_paren {text : Text} (free : '(' ∉ text) (afterLetter : Bool) :
    first? afterLetter text = none := by
  -- The parenthesis of a call that is found stands in the text.
  rw [Option.eq_none_iff_forall_not_mem]
  intro split found
  exact free (by simp [first?_source found, source])

/-- A name has no parentheses. -/
theorem IsName.no_paren {name : Text} (named : IsName name) : '(' ∉ name := by
  have free {run : Text} (only : IsRun run) : '(' ∉ run := fun inside =>
    absurd (only.letters _ inside) (by decide)
  cases named with
  | plain only => exact free only
  | dotted front back => simp [free front, free back]

/-- A text that ends with a run ends with a letter. -/
theorem IsRun.getLast?_append {run : Text} (only : IsRun run) (front : Text) :
    (front ++ run).getLast?.any isNameLetter = true := by
  obtain ⟨init, last, rfl⟩ := List.eq_nil_or_concat run |>.resolve_left only.filled
  simpa using only.letters last (by simp)

/-- A text that does not end with a letter makes another name of a name only if it is a run with a
point. -/
theorem joins_of_isName_append {front name : Text} (filled : front ≠ [])
    (fresh : front.getLast?.any isNameLetter = false) (whole : IsName (front ++ name)) :
    Joins name front := by
  -- The text in front cannot end with a part of a run.
  have ends (lead part : Text) (filled : part ≠ []) (parts : front = lead ++ part) {run : Text}
      (only : IsRun run) (inside : part ⊆ run) : False := by
    have letters : IsRun part := ⟨filled, fun letter there => only.letters letter (inside there)⟩
    have letter := letters.getLast?_append lead
    rw [← parts, fresh] at letter
    exact Bool.false_ne_true letter
  generalize written : front ++ name = text at whole
  cases whole with
  | plain only =>
    exact (ends [] front filled rfl only (written ▸ List.subset_append_left _ _)).elim
  | @dotted head tail first second =>
    -- The place of the point decides: it is the last character of the text in front.
    rcases List.append_eq_append_iff.mp written with ⟨middle, rfl, -⟩ | ⟨middle, rfl, behind⟩
    · exact (ends [] front filled rfl first (List.subset_append_left _ _)).elim
    · rcases List.cons_eq_append_iff.mp behind with ⟨rfl, -⟩ | ⟨rest, rfl, rfl⟩
      · exact (ends [] head first.filled (List.append_nil _) first (List.Subset.refl _)).elim
      · cases rest with
        | nil => exact .dotted first second
        | cons letter others =>
          refine (ends (head ++ ['.']) (letter :: others) (List.cons_ne_nil _ _) ?_ second
            (List.subset_append_left _ _)).elim
          simp

/-- A call at the front of a text in which the first parenthesis stands behind `front` has that text
as its name. -/
theorem isName_of_atFront? {front rest : Text} (free : '(' ∉ front)
    (found : (atFront? (front ++ '(' :: rest)).isSome = true) : IsName front := by
  obtain ⟨⟨call, after⟩, found⟩ := Option.isSome_iff_exists.mp found
  obtain ⟨complete, same⟩ := atFront?_eq_some_iff.mp found
  -- The text in front and the name of the call both end at the first parenthesis.
  have cut := Text.splitOnce?_append free rest
  have parts : front ++ '(' :: rest = call.name ++ '(' :: (call.inner ++ ')' :: after) := by
    simpa [source] using same
  rw [parts, Text.splitOnce?_append complete.named.no_paren] at cut
  obtain ⟨rfl, -⟩ := Prod.mk.inj (Option.some.inj cut)
  exact complete.named

/-- The first call of a text is found behind text in front that has no parenthesis and does not end
with a letter. Only a run with a point before it may belong to its name. -/
theorem IsComplete.first?_behind {call : Call} (complete : call.IsComplete) {front : Text}
    (free : '(' ∉ front) {afterLetter : Bool}
    (fresh : (front.getLast?.map isNameLetter).getD afterLetter = false) (back : Text) :
    ∃ before head, front = before ++ head ∧ Joins call.name head ∧
      first? afterLetter (front ++ (call.source ++ back)) =
        some ⟨before, ⟨head ++ call.name, call.inner⟩, back⟩ := by
  induction front generalizing afterLetter with
  | nil =>
    obtain rfl : afterLetter = false := fresh
    exact ⟨[], [], rfl, .apart, complete.first?_append back⟩
  | cons char rest ih =>
    by_cases here : afterLetter = false ∧ IsName (char :: rest ++ call.name)
    · -- The text in front is part of the name.
      obtain ⟨rfl, named⟩ := here
      have ended : (char :: rest).getLast?.any isNameLetter = false := by
        cases last : (char :: rest).getLast? <;> simp_all
      have longer : IsComplete ⟨char :: rest ++ call.name, call.inner⟩ := ⟨named, complete.closed⟩
      refine ⟨[], char :: rest, rfl, joins_of_isName_append (by simp) ended named, ?_⟩
      have first := longer.first?_append back
      simpa [source] using first
    · -- No call stands here: its name would be the text in front with the name.
      have absent : isNameLetter char = true → afterLetter = false →
          atFront? (char :: (rest ++ (call.source ++ back))) = none := by
        intro _ bare
        have unopened : '(' ∉ char :: rest ++ call.name := by
          simp_all [complete.named.no_paren]
        have parts : char :: (rest ++ (call.source ++ back)) =
            (char :: rest ++ call.name) ++ '(' :: (call.inner ++ ')' :: back) := by
          simp [source]
        rw [parts, ← Option.not_isSome_iff_eq_none]
        exact fun found => here ⟨bare, isName_of_atFront? unopened found⟩
      -- The rest ends as the whole did, so the search goes on with the next character.
      have later : (rest.getLast?.map isNameLetter).getD (isNameLetter char) = false := by
        rw [← fresh]
        cases rest <;> simp [List.getLast?_cons]
      obtain ⟨before, head, rfl, joins, found⟩ := ih (List.not_mem_of_not_mem_cons free) later
      refine ⟨char :: before, head, rfl, joins, ?_⟩
      rw [List.cons_append, first?_cons_of_none absent, found]
      rfl

/-- A complete call with bare text around it is read as such, maybe with the end of the text in
front in its name. -/
theorem IsComplete.segments_surrounded {call : Call} (complete : call.IsComplete)
    {front back : Text} (before : front.IsBare) (behind : back.IsBare)
    (fresh : front.getLast?.any isNameLetter = false) :
    ∃ start head, front = start ++ head ∧ Joins call.name head ∧
      segments (front ++ call.source ++ back) = Segment.lead start ++
        .call ⟨head ++ call.name, call.inner⟩ :: Segment.lead back := by
  have ended : (front.getLast?.map isNameLetter).getD false = false := by
    cases last : front.getLast? <;> simp_all
  -- The text in front and the text behind hold no call, since they hold no parenthesis to open one.
  obtain ⟨start, head, parts, joins, found⟩ := complete.first?_behind before.no_paren ended back
  have read := segments_of_first?_some found
  rw [segments_of_first?_none (first?_of_no_paren behind.no_paren false)] at read
  exact ⟨start, head, parts, joins, by rw [List.append_assoc, read]⟩

end Call

namespace Registry

open Call

/-- The part behind the point of a registered name is not registered. -/
def TailsFree (registry : Registry) : Prop :=
  ∀ name ∈ registry.names, ∀ parts ∈ Text.splitOnce? '.' name, parts.2 ∉ registry.names

instance (registry : Registry) : Decidable registry.TailsFree :=
  inferInstanceAs (Decidable (∀ name ∈ registry.names, ∀ parts ∈ Text.splitOnce? '.' name,
    parts.2 ∉ registry.names))

/-- The two standard functions with a point in their names have no namesakes without it. -/
theorem tailsFree_standard : standard.TailsFree := by
  decide +kernel

/-- A name reaches the same function with what may be joined to it, which is text then. -/
theorem reached?_of_joins {registry : Registry} (free : registry.TailsFree) {name head lead : Text}
    {function : Function} (joins : Joins name head)
    (reached : registry.reached? name = some (lead, function)) :
    registry.reached? (head ++ name) = some (head ++ lead, function) := by
  cases joins with
  | apart => exact reached
  | @dotted run front back =>
    -- The joined name has one point, so it is cut there and nowhere else.
    have pointless {text : Text} (only : IsRun text) : '.' ∉ text := fun inside =>
      absurd (only.letters _ inside) (by decide)
    have uncut : Text.splitOnce? '.' name = none := by
      rw [Option.eq_none_iff_forall_not_mem]
      exact fun parts found => pointless back (by simp [Text.splitOnce?_source found])
    have cut := Text.splitOnce?_append (pointless front) name
    rw [List.append_assoc, List.singleton_append, List.append_assoc, List.singleton_append]
    unfold reached? at reached ⊢
    rw [uncut] at reached
    cases whole : registry.get? name with
    | none => simp [whole] at reached
    | some found =>
      rw [whole] at reached
      obtain ⟨rfl, rfl⟩ := Prod.mk.inj (Option.some.inj reached)
      -- The joined name is no registered one, as the part behind its point is.
      have listed : name ∈ registry.names := Index.mem_names_iff.mpr (by simp [whole])
      have absent : registry.get? (run ++ '.' :: name) = none := by
        rw [← Option.not_isSome_iff_eq_none, ← Index.mem_names_iff]
        exact fun joined => free _ joined _ cut listed
      simp [absent, cut, whole]

end Registry

namespace Scope

variable {scope : Scope} {call : Call} {head : Text}

/-- With more text before its name, a call that reaches the same function has this text before its
value. -/
theorem resolve_joined {lead : Text} {function : Function}
    (reached : scope.registry.reached? call.name = some (lead, function))
    (joined : scope.registry.reached? (head ++ call.name) = some (head ++ lead, function))
    (depth : Nat) (progress : Progress) :
    scope.resolve depth ⟨head ++ call.name, call.inner⟩ progress =
      ((scope.resolve depth call progress).1.map (head ++ ·),
        (scope.resolve depth call progress).2) := by
  have same : Call.arguments ⟨head ++ call.name, call.inner⟩ = call.arguments := rfl
  -- The arguments are the same, and the function is the same with another lead.
  cases depth with
  | zero => rfl
  | succ depth =>
    simp only [resolve, reached, joined, same]
    split
    · rfl
    · simp

theorem segmentValue_joined {lead : Text} {function : Function}
    (reached : scope.registry.reached? call.name = some (lead, function))
    (joined : scope.registry.reached? (head ++ call.name) = some (head ++ lead, function))
    (progress : Progress) :
    scope.segmentValue (.call ⟨head ++ call.name, call.inner⟩) progress =
      (head ++ (scope.segmentValue (.call call) progress).1,
        (scope.segmentValue (.call call) progress).2) := by
  simp only [segmentValue, resolve_joined reached joined]
  -- Without a value the source stays, and it begins with the same text.
  cases (scope.resolve scope.limit call progress).1 with
  | none => simp [Call.source]
  | some value => simp

/-- Literal text around a segment stays around its text. -/
theorem segmentValues_lead (before back : Text) (segment : Segment) (progress : Progress) :
    scope.segmentValues (Segment.lead before ++ segment :: Segment.lead back) progress =
      (before ++ ((scope.segmentValue segment progress).1 ++ back),
        (scope.segmentValue segment progress).2) := by
  have behind : scope.segmentValues (segment :: Segment.lead back) progress =
      ((scope.segmentValue segment progress).1 ++ back,
        (scope.segmentValue segment progress).2) := by
    cases back <;> simp [segmentValues, Segment.lead, segmentValue]
  -- Text in front is a segment of its own, if there is any.
  cases before with
  | nil => simpa [Segment.lead] using behind
  | cons char rest =>
    have literal : scope.segmentValue (.text (char :: rest)) progress = (char :: rest, progress) :=
      rfl
    simp [Segment.lead, segmentValues, literal] at behind ⊢
    simp [behind]

/-- A text that is one call of a function with literal text around it has the value of the call,
with the text around it. -/
theorem evaluate_lead (scannable : scope.registry.Scannable) {text before back : Text}
    (read : segments text = Segment.lead before ++ .call call :: Segment.lead back)
    (reached : (scope.registry.reached? call.name).isSome = true) (progress : Progress) :
    scope.evaluate text progress =
      (scope.bindings.substitute
          (before ++ ((scope.segmentValue (.call call) progress).1 ++ back)),
        (scope.segmentValue (.call call) progress).2) := by
  -- The call is reached, so the segments are read one by one.
  have inside : call ∈ Call.all text := by simp [Call.all, read, Segment.call?]
  simp only [evaluate, callsIn_of_leads scannable (.here inside) reached, if_true, read,
    segmentValues_lead]

/-- Text around a call of a standard function stays as it is, and nothing else changes either: the
call has the value that it has alone, and leaves the same behind. The text has no opening
parenthesis and no angle brackets, and it does not end with a capital letter before the call. -/
theorem evaluate_surrounded (standard : scope.registry = .standard) {front source back : Text}
    (single : segments source = [.call call])
    (reached : (scope.registry.reached? call.name).isSome = true)
    (before : front.IsBare) (behind : back.IsBare)
    (fresh : front.getLast?.any Call.isNameLetter = false) (progress : Progress) :
    scope.evaluate (front ++ source ++ back) progress =
      (front ++ (scope.evaluate source progress).1 ++ back,
        (scope.evaluate source progress).2) := by
  have scannable : scope.registry.Scannable := standard ▸ Registry.scannable_standard
  obtain ⟨complete, rfl⟩ := segments_eq_singleton_iff.mp single
  obtain ⟨⟨lead, function⟩, found⟩ := Option.isSome_iff_exists.mp reached
  have alone : scope.evaluate call.source progress = _ :=
    @evaluate_lead scope call scannable _ [] [] single reached progress
  -- The scan finds the call, maybe with the end of the text in front in its name.
  obtain ⟨start, head, rfl, joins, read⟩ := complete.segments_surrounded before behind fresh
  have joined : scope.registry.reached? (head ++ call.name) = some (head ++ lead, function) :=
    Registry.reached?_of_joins (standard ▸ Registry.tailsFree_standard) joins found
  have whole := evaluate_lead scannable read (by simp [joined]) progress
  rw [segmentValue_joined found joined] at whole
  -- What is left around the value has no references.
  have around := scope.bindings.substitute_surrounded before.isNameChar behind.isNameChar
    (scope.segmentValue (.call call) progress).1
  rw [whole, alone]
  simpa using around

/-- A run with a point is joined to the name of a call that draws a counter and has an argument with
an open parenthesis in quotes; a parenthesis and an open quote follow. -/
theorem evaluate_surrounded_dotted :
    let call : Call := ⟨"LEFT".toList, "AUTOINCREMENT(\"N\",41), LEN(\"(é\")".toList⟩
    let front := "Nr'-RUN.".toList
    let back := ")\" Z".toList
    let whole := front ++ call.source ++ back
    (segments call.source = [.call call] ∧ (standard.registry.reached? call.name).isSome = true ∧
      Text.IsBare front ∧ Text.IsBare back ∧ front.getLast?.any Call.isNameLetter = false) ∧
    segments whole = [.text "Nr'-".toList, .call ⟨"RUN.LEFT".toList, call.inner⟩, .text back] ∧
    standard.evaluate whole ⟨.fresh, []⟩ =
      (front ++ (standard.evaluate call.source ⟨.fresh, []⟩).1 ++ back,
        (standard.evaluate call.source ⟨.fresh, []⟩).2) ∧
    (standard.evaluate call.source ⟨.fresh, []⟩).1 = "41".toList := by
  intro call front back whole
  -- The conditions are evaluated; that the text around stays is the general theorem.
  have single : segments call.source = [.call call] := by decide +kernel
  have reached : (standard.registry.reached? call.name).isSome = true := by decide +kernel
  have before : Text.IsBare front := by decide
  have behind : Text.IsBare back := by decide
  have fresh : front.getLast?.any Call.isNameLetter = false := by decide
  -- The end of the text in front fuses with the name, and yet the value is the same.
  exact ⟨⟨single, reached, before, behind, fresh⟩, by decide +kernel,
    evaluate_surrounded rfl single reached before behind fresh ⟨.fresh, []⟩, by decide +kernel⟩

end Scope

end Docket
