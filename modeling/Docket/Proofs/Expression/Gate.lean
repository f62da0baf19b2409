import Docket.Expression.Evaluate
import Docket.Function.Standard
import Docket.Proofs.Expression.Argument
import Docket.Proofs.Table.Entries
import Docket.Proofs.Text.Search
import Mathlib.Data.List.Infix

/-! The quick look for names of functions never misses a call of a standard function. -/

namespace Docket

/-- Reading a text, and in turn the arguments of its calls, comes to a call. The path lists the
texts that are read on the way, from the outermost one to the one that holds the call. -/
inductive Leads : Text → List Text → Call → Prop where
  | here {text : Text} {call : Call} (found : call ∈ Call.all text) : Leads text [text] call
  | inside {text argument : Text} {path : List Text} {outer call : Call}
      (found : outer ∈ Call.all text) (part : argument ∈ outer.arguments)
      (leads : Leads argument path call) : Leads text (text :: path) call

namespace Leads

/-- From every text on the path the rest of the path leads to the call. -/
theorem of_mem_path {text part : Text} {path : List Text} {call : Call}
    (leads : Leads text path call) (onPath : part ∈ path) : ∃ rest, Leads part rest call := by
  -- The path is followed down from the outermost text.
  induction leads with
  | here found =>
    rw [List.mem_singleton.mp onPath]
    exact ⟨_, .here found⟩
  | inside found argument leads ih =>
    rcases List.mem_cons.mp onPath with rfl | onPath
    · exact ⟨_, .inside found argument leads⟩
    · exact ih onPath

/-- The source of the call stands in the text that leads to it. -/
theorem source_isInfix {text : Text} {path : List Text} {call : Call}
    (leads : Leads text path call) : call.source <:+: text := by
  -- Each text on the path stands in the one before it.
  induction leads with
  | here found => exact Call.source_infix_of_mem_all found
  | inside found argument _ ih => exact ih.trans (Call.argument_isInfix found argument)

/-- A text that leads to a call holds a complete call itself. -/
theorem occursIn {text : Text} {path : List Text} {call : Call} (leads : Leads text path call) :
    Call.occursIn text = true := by
  -- Whichever call is next on the way, it is a call of the text.
  rw [Call.occursIn_iff_all_ne_nil]
  cases leads with
  | here found => exact List.ne_nil_of_mem found
  | inside found _ _ => exact List.ne_nil_of_mem found

end Leads

namespace Text

/-- No ending of a text, the text itself aside, is its front. Two occurrences of such a text
never overlap. -/
def Borderless (text : Text) : Prop :=
  -- Such an ending is where a second occurrence could begin inside a first one.
  ∀ cut < text.length, 0 < cut → ¬ text.drop cut <+: text

instance (text : Text) : Decidable text.Borderless :=
  inferInstanceAs (Decidable (∀ cut < text.length, 0 < cut → ¬ text.drop cut <+: text))

/-- An occurrence of a borderless text ends before a later occurrence begins. -/
theorem Borderless.length_le {name front back : Text} (solid : name.Borderless)
    (filled : front ≠ []) (ahead : name <+: front ++ (name ++ back)) :
    name.length ≤ front.length := by
  refine Nat.le_of_not_lt fun longer => ?_
  -- Otherwise the part of the first occurrence behind `front` is a front of the second one.
  have tail : name.drop front.length <+: name ++ back := by
    have dropped := ahead.drop front.length
    rwa [List.drop_left] at dropped
  have border : name.drop front.length <+: name :=
    List.prefix_of_prefix_length_le tail (List.prefix_append name back) (by simp)
  exact solid front.length longer (List.length_pos_iff.mpr filled) border

end Text

namespace Registry

/-- A called name is found behind any text, unless an earlier occurrence reaches into it. -/
theorem isCalled_append {name : Text} (solid : name.Borderless) (filled : name ≠ [])
    (front back : Text) {skipped : Nat} (free : skipped ≤ front.length) :
    isCalled name skipped (front ++ (name ++ '(' :: back)) = true := by
  -- The scan skips at most the text in front, since occurrences of the name do not overlap.
  induction front generalizing skipped with
  | nil =>
    -- The name stands here, with the parenthesis directly behind it.
    obtain rfl : skipped = 0 := Nat.le_zero.mp free
    obtain ⟨first, others, rfl⟩ := List.exists_cons_of_ne_nil filled
    have stands : Text.startsWith (first :: others ++ '(' :: back) (first :: others) = true :=
      List.isPrefixOf_iff_prefix.mpr (List.prefix_append _ _)
    have behind : ((first :: others ++ '(' :: back).drop (first :: others).length).head? =
        some '(' := by
      rw [List.drop_left]
      rfl
    rw [List.cons_append] at stands behind
    simp only [List.nil_append, List.cons_append, isCalled, stands, behind, if_true, BEq.rfl,
      Bool.true_or]
  | cons char front ih =>
    rw [List.cons_append]
    cases skipped with
    | succ skipped => exact ih (Nat.le_of_succ_le_succ free)
    | zero =>
      simp only [isCalled]
      split
      · -- An occurrence further ahead ends before the name begins.
        rename_i stands
        have ahead : name <+: char :: front ++ (name ++ '(' :: back) :=
          List.isPrefixOf_iff_prefix.mp stands
        have apart : name.length ≤ front.length + 1 := solid.length_le (by simp) ahead
        have later := ih (Nat.sub_le_of_le_add apart)
        simp only [later, Bool.or_true]
      · exact ih (Nat.zero_le _)

/-- A called name is found wherever it stands. -/
theorem isCalled_of_isInfix {name text : Text} (solid : name.Borderless) (filled : name ≠ [])
    (stands : name ++ ['('] <:+: text) : isCalled name 0 text = true := by
  -- At the front of a text nothing is skipped yet.
  obtain ⟨front, back, rfl⟩ := stands
  have found := isCalled_append solid filled front back (Nat.zero_le _)
  simpa using found

/-- A call that reaches a function has a registered name before its parenthesis. -/
theorem exists_name_of_reached? {registry : Registry} {call : Call}
    (reached : (registry.reached? call.name).isSome = true) :
    ∃ name ∈ registry.names, name ++ ['('] <:+: call.source := by
  -- A call is found by its whole name or by the part behind the dot.
  obtain ⟨⟨lead, function⟩, reached⟩ := Option.isSome_iff_exists.mp reached
  unfold reached? at reached
  split at reached
  · -- The whole name is registered.
    rename_i whole
    have listed : call.name ∈ registry.names := Index.mem_names_iff.mpr (by simp [whole])
    refine ⟨call.name, listed, [], call.inner ++ [')'], ?_⟩
    simp [Call.source]
  · -- The part behind the dot is registered.
    obtain ⟨⟨head, tail⟩, cut, second⟩ := Option.bind_eq_some_iff.mp reached
    obtain ⟨found, second, -⟩ := Option.map_eq_some_iff.mp second
    have listed : tail ∈ registry.names := Index.mem_names_iff.mpr (by simp [second])
    refine ⟨tail, listed, head ++ ['.'], call.inner ++ [')'], ?_⟩
    simp [Call.source, Text.splitOnce?_source cut]

/-- The names of a registry are such that a scan for them misses none. -/
def Scannable (registry : Registry) : Prop :=
  ∀ name ∈ registry.names, name ≠ [] ∧ name.Borderless

instance (registry : Registry) : Decidable registry.Scannable :=
  inferInstanceAs (Decidable (∀ name ∈ registry.names, name ≠ [] ∧ name.Borderless))

/-- No name of a standard function is empty or overlaps itself. -/
theorem scannable_standard : standard.Scannable := by
  -- There are sixteen names, and each is compared with its own endings.
  decide +kernel

/-- The scan for the names of functions finds every call that reaches one. -/
theorem isCalledIn_of_isInfix {registry : Registry} (scannable : registry.Scannable) {call : Call}
    {text : Text} (reached : (registry.reached? call.name).isSome = true)
    (stands : call.source <:+: text) : registry.isCalledIn text = true := by
  -- The name of the function stands in the source, and the source in the text.
  obtain ⟨name, listed, part⟩ := exists_name_of_reached? reached
  obtain ⟨filled, solid⟩ := scannable name listed
  exact List.any_eq_true.mpr ⟨name, listed, isCalled_of_isInfix solid filled (part.trans stands)⟩

end Registry

/-- What evaluations start from: no counters and no files. -/
def Resources.fresh : Resources :=
  ⟨.inMemory, .ofCapacity Config.standard.patternCapacity, default, []⟩

namespace Scope

/-- What a plain engine refers to: the standard functions, no variables, no database, and a host
that starts nothing. -/
def standard : Scope :=
  ⟨.standard, ⟨default, .standard, none, .none⟩, .empty, Config.standard.maxNesting⟩

/-- A text that leads to a call of a function is seen to call one. -/
theorem callsIn_of_leads {scope : Scope} (scannable : scope.registry.Scannable) {text : Text}
    {path : List Text} {call : Call} (leads : Leads text path call)
    (reached : (scope.registry.reached? call.name).isSome = true) : scope.callsIn text = true := by
  -- Both parts of the test hold: there is a call, and a name of a function is called.
  have named := Registry.isCalledIn_of_isInfix scannable reached leads.source_isInfix
  exact Bool.and_eq_true_iff.mpr ⟨leads.occursIn, named⟩

/-- With the standard functions, every text on the way down to a call of a function is seen to
call one. -/
theorem callsIn_along_path {scope : Scope} (standard : scope.registry = .standard) {text : Text}
    {path : List Text} {call : Call} (leads : Leads text path call)
    (reached : (scope.registry.reached? call.name).isSome = true) :
    ∀ part ∈ path, scope.callsIn part = true := by
  -- Each text on the path leads to the call itself.
  intro part onPath
  have scannable : scope.registry.Scannable := by
    rw [standard]
    exact Registry.scannable_standard
  obtain ⟨rest, leads⟩ := leads.of_mem_path onPath
  exact callsIn_of_leads scannable leads reached

/-- A dotted name in a quoted argument of an unknown function is not missed. -/
theorem callsIn_along_path_quoted :
    standard.callsIn "FOO( \"A.TRIM( x )\" )".toList = true ∧
      standard.callsIn "A.TRIM( x )".toList = true := by
  -- The way leads from the unknown call through its argument to the dotted name inside.
  have outer : (⟨"FOO".toList, " \"A.TRIM( x )\" ".toList⟩ : Call) ∈
      Call.all "FOO( \"A.TRIM( x )\" )".toList := by decide +kernel
  have argument : "A.TRIM( x )".toList ∈
      (⟨"FOO".toList, " \"A.TRIM( x )\" ".toList⟩ : Call).arguments := by decide +kernel
  have inner : (⟨"A.TRIM".toList, " x ".toList⟩ : Call) ∈ Call.all "A.TRIM( x )".toList := by
    decide +kernel
  have reached : (standard.registry.reached? "A.TRIM".toList).isSome = true := by decide +kernel
  have seen := callsIn_along_path rfl (.inside outer argument (.here inner)) reached
  exact ⟨seen _ (by simp), seen _ (by simp)⟩

end Scope

end Docket
