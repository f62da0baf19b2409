import Docket.Function.Standard
import Docket.Proofs.Expression.Quoting
import Docket.Proofs.Expression.Surrounding
import Docket.Proofs.Text.Decimal

/-! The value of a variable on its way through a call. It reaches the function as it is and is not
searched for calls, but the references in it are replaced when it stands in the result. -/

namespace Docket

namespace Text

/-- The first characters of a text are all of it if there are no more of them. -/
theorem left_of_length_le {text : Text} {count : Nat} (enough : text.length ≤ count) :
    left text count = text := by
  -- The cut is at the end of the text.
  have least : min count text.length = text.length := Nat.min_eq_right enough
  have positive : ¬ (count : Int) < 0 := by omega
  simp [left, slice, cut, positive, least]

/-- A digit has no meaning where arguments are written, it may stand in a name, and it is no white
space. -/
theorem plain_of_isDigit {char : Char} (digit : char.isDigit = true) :
    Argument.isPlain char = true ∧ Reference.isNameChar char = true ∧ isBlank char = false := by
  -- All the characters that mean something have codes outside the range of the digits.
  have range : 48 ≤ char.toNat ∧ char.toNat ≤ 57 := by
    simpa [Char.isDigit, UInt32.le_iff_toNat_le] using digit
  have apart {other : Char} (outside : other.toNat < 48 ∨ 57 < other.toNat) : char ≠ other := by
    rintro rfl
    omega
  refine ⟨?_, ?_, ?_⟩
  · simp [Argument.isPlain, Call.isQuote, apart]
  · simp [Reference.isNameChar, apart]
  · rw [Bool.eq_false_iff]
    intro blank
    simp only [isBlank, Bool.or_eq_true, Bool.and_eq_true, decide_eq_true_eq, beq_iff_eq] at blank
    omega

theorem isPlain_of_mem_ofNat (value : Nat) :
    ∀ char ∈ ofNat value, Argument.isPlain char = true :=
  fun _ inside => (plain_of_isDigit (isDigit_of_mem_ofNat inside)).1

theorem isNameChar_of_mem_ofNat (value : Nat) :
    ∀ char ∈ ofNat value, Reference.isNameChar char = true :=
  fun _ inside => (plain_of_isDigit (isDigit_of_mem_ofNat inside)).2.1

/-- The decimal form of a number is written as an argument as it is. -/
theorem isWhole_ofNat (value : Nat) : Argument.IsWhole (ofNat value) := by
  have solid (char : Char) (inside : char ∈ ofNat value) : isBlank char = false :=
    (plain_of_isDigit (isDigit_of_mem_ofNat inside)).2.2
  -- The first and the last character are digits too.
  refine .plain (ofNat_ne_nil value) (isPlain_of_mem_ofNat value) ?_ ?_
  · cases first : (ofNat value).head? with
    | none => rfl
    | some char => exact solid char (List.mem_of_head? first)
  · cases last : (ofNat value).getLast? with
    | none => rfl
    | some char => exact solid char (List.mem_of_getLast? last)

end Text

namespace Argument

/-- A reference has no meaning of its own where arguments are written if its name has none. -/
theorem isPlain_reference {name : Text} (plain : ∀ char ∈ name, isPlain char = true) :
    ∀ char ∈ (Reference.Piece.reference name).source, isPlain char = true := by
  intro char inside
  simp only [Reference.Piece.source, List.mem_cons, List.mem_append, List.not_mem_nil,
    or_false] at inside
  -- The two brackets are plain, and so is the name between them.
  rcases inside with rfl | inside | rfl
  · decide
  · exact plain char inside
  · decide

/-- A reference is written as an argument as it is. -/
theorem isWhole_reference {name : Text} (plain : ∀ char ∈ name, isPlain char = true) :
    IsWhole (Reference.Piece.reference name).source := by
  have last : (Reference.Piece.reference name).source.getLast? = some '>' := by
    rw [Reference.Piece.source, ← List.cons_append, List.getLast?_append]
    rfl
  exact .plain (List.cons_ne_nil _ _) (isPlain_reference plain) rfl (by rw [last]; rfl)

end Argument

namespace Function

/-- The decimal form of a number is accepted as an integer if the number fits in 64 bits. -/
theorem integer_ofNat (index count : Nat) :
    integer index (Text.ofNat count) =
      if Text.fits count then .ok (Int64.ofInt count)
      else .error (.argument index (.noInteger (Text.ofNat count))) := by
  -- There is no white space around the digits.
  rw [integer, (Text.isWhole_ofNat count).trimmed, Text.integer?_ofNat, Option.filter_some]
  by_cases small : Text.fits count = true
  · simp only [if_pos small, Option.map_some]
  · simp only [if_neg small, Option.map_none]

/-- The first characters of a text as its value; the text stands in if there is no number. -/
theorem left_value (environment : Environment) (text written : Text) (resources : Resources) :
    left.value environment [text, written] resources =
      match integer 1 written with
      | .ok number => (Text.left text number.toInt, resources)
      | .error _ => (text, resources) := by
  -- The function takes two arguments, so it is run.
  have run : left.call environment [text, written] resources =
      ((integer 1 written).map fun number => Text.left text number.toInt, resources) :=
    rfl
  rw [value, run]
  cases integer 1 written with
  | ok number => simp only [Except.map]
  | error cause => rfl

/-- As many first characters of a text as it has, or more, are the text. A number that does not fit
in 64 bits is refused, and then the text stands in for the value. -/
theorem left_value_of_length_le (environment : Environment) {text : Text} {count : Nat}
    (enough : text.length ≤ count) (resources : Resources) :
    left.value environment [text, Text.ofNat count] resources = (text, resources) := by
  rw [left_value, integer_ofNat]
  by_cases small : Text.fits count = true
  · -- The number is read as it was written.
    rw [if_pos small]
    simp only [Text.toInt_ofInt_of_fits small, Text.left_of_length_le enough]
  · rw [if_neg small]

end Function

namespace Scope

variable {scope : Scope}

/-- A text without opening parentheses calls no function. -/
theorem callsIn_of_no_paren {text : Text} (free : '(' ∉ text) : scope.callsIn text = false := by
  simp [callsIn, Call.occursIn, Call.first?_of_no_paren free]

/-- An argument without opening parentheses holds no call, so its references are replaced and
nothing else happens. -/
theorem argumentValue_of_no_paren (resolver : Resolver) {argument : Text} (free : '(' ∉ argument)
    (progress : Progress) : scope.argumentValue resolver argument progress =
      (some (scope.bindings.substitute argument), progress) := by
  rw [argumentValue, callsIn_of_no_paren free, if_neg Bool.false_ne_true]

theorem argumentValues_of_no_paren (resolver : Resolver) {arguments : List Text}
    (free : ∀ argument ∈ arguments, '(' ∉ argument) (progress : Progress) :
    scope.argumentValues resolver arguments progress =
      (some (arguments.map scope.bindings.substitute), progress) := by
  -- Each argument is resolved at the progress that the one before it leaves, which is the same.
  induction arguments with
  | nil => rfl
  | cons first rest ih =>
    obtain ⟨here, free⟩ := List.forall_mem_cons.mp free
    simp [argumentValues, argumentValue_of_no_paren resolver here, ih free]

/-- A call of a function whose arguments hold no calls is carried out with the references in its
arguments replaced. -/
theorem resolve_of_no_paren {call : Call} {lead : Text} {function : Function}
    (reached : scope.registry.reached? call.name = some (lead, function))
    (free : ∀ argument ∈ call.arguments, '(' ∉ argument) (depth : Nat) (progress : Progress) :
    scope.resolve (depth + 1) call progress =
      let arguments := call.arguments.map scope.bindings.substitute
      (some (lead ++ (scope.invoke function arguments progress).1),
        (scope.invoke function arguments progress).2) := by
  simp only [resolve, reached, argumentValues_of_no_paren _ free]

/-- A call by itself with plain texts as its arguments: the function gets these with their
references replaced, and the references are replaced that it gives back. If no call may be carried
out, the call stays, apart from its references. -/
theorem evaluate_plain_call (scannable : scope.registry.Scannable) {name lead : Text}
    {function : Function} (named : Call.IsName name)
    (reached : scope.registry.reached? name = some (lead, function)) {arguments : List Text}
    (whole : ∀ argument ∈ arguments, Argument.IsWhole argument)
    (plain : ∀ argument ∈ arguments, ∀ char ∈ argument, Argument.isPlain char = true)
    (progress : Progress) :
    let source := Call.source ⟨name, Text.join ", ".toList arguments⟩
    scope.evaluate source progress =
      if scope.limit = 0 then (scope.bindings.substitute source, progress)
      else
        let values := arguments.map scope.bindings.substitute
        (scope.bindings.substitute (lead ++ (scope.invoke function values progress).1),
          (scope.invoke function values progress).2) := by
  let call : Call := ⟨name, Text.join ", ".toList arguments⟩
  -- The arguments close what they open, so the call is complete and has just these arguments.
  have complete : call.IsComplete := ⟨named, Argument.walk?_join whole⟩
  have written : call.arguments = arguments := Argument.split_join_plain whole plain
  have free : ∀ argument ∈ call.arguments, '(' ∉ argument := by
    rw [written]
    exact fun argument among inside => absurd (plain argument among _ inside) (by decide)
  -- The call is all that is read, so its value is the value of the whole text.
  have single : segments call.source = [.call call] :=
    segments_eq_singleton_iff.mpr ⟨complete, rfl⟩
  have alone :=
    @evaluate_lead scope call scannable _ [] [] single (by simp [call, reached]) progress
  rw [List.nil_append, List.append_nil] at alone
  show scope.evaluate call.source progress = _
  rw [alone, segmentValue]
  cases scope.limit with
  | zero => rfl
  | succ depth => simp [resolve_of_no_paren reached free, written]

/-- A reference by itself has the value of the variable. -/
theorem evaluate_reference {name value : Text} (named : Reference.IsName name)
    (free : '(' ∉ (Reference.Piece.reference name).source)
    (defined : scope.bindings.get? name = some value) (progress : Progress) :
    scope.evaluate (Reference.Piece.reference name).source progress = (value, progress) := by
  rw [evaluate, callsIn_of_no_paren free, if_neg Bool.false_ne_true,
    Variables.substitute_reference named defined]

/-- The function for the first characters is reached by its name. -/
theorem reached?_left (standard : scope.registry = .standard) :
    scope.registry.reached? "LEFT".toList = some ([], Function.left) := by
  rw [standard]
  rfl

/-- Asked for as many first characters of a text as it has, or more, the function gives the text
back, and it changes nothing. -/
theorem invoke_left_of_length_le {text : Text} {count : Nat} (enough : text.length ≤ count)
    (progress : Progress) :
    scope.invoke Function.left [text, Text.ofNat count] progress =
      (text, ⟨progress.resources, progress.invocations ++ [⟨"LEFT".toList, 2⟩]⟩) := by
  have kept := Function.left_value_of_length_le scope.environment enough progress.resources
  rw [invoke, kept]
  rfl

/-- A call for the first characters of a variable's value, as many as it has or more. The reference
alone is worth the value. The call is worth the value with the references in it replaced once more,
and what looks like a call in it stays text, as nothing but the call itself is carried out. So the
value comes out as it is if it refers to no variable. Where no call may be carried out, the call
stays around the value. A name of letters, digits and underscores is plain. -/
theorem evaluate_left_reference (standard : scope.registry = .standard) {name value : Text}
    (named : Reference.IsName name) (plain : ∀ char ∈ name, Argument.isPlain char = true)
    (defined : scope.bindings.get? name = some value) {count : Nat}
    (enough : value.length ≤ count) (progress : Progress) :
    let reference := (Reference.Piece.reference name).source
    let behind := ", ".toList ++ Text.ofNat count ++ [')']
    scope.evaluate reference progress = (value, progress) ∧
      scope.evaluate ("LEFT(".toList ++ reference ++ behind) progress =
        (if scope.limit = 0 then ("LEFT(".toList ++ value ++ behind, progress)
        else (scope.bindings.substitute value,
          ⟨progress.resources, progress.invocations ++ [⟨"LEFT".toList, 2⟩]⟩)) ∧
      ((∀ other ∈ Reference.names value, scope.bindings.get? other = none) →
        scope.bindings.substitute value = value) := by
  intro reference behind
  -- The reference has no parenthesis, comma or quote, so it can stand in an argument as it is.
  have bare : ∀ char ∈ reference, Argument.isPlain char = true := Argument.isPlain_reference plain
  have free : '(' ∉ reference := fun inside => absurd (bare _ inside) (by decide)
  have inserted : scope.bindings.substitute reference = value :=
    Variables.substitute_reference named defined
  refine ⟨evaluate_reference named free defined progress, ?_, Variables.substitute_eq_self⟩
  -- The reference and the number are the two arguments of the call, read as they are written.
  have written : "LEFT(".toList ++ reference ++ behind =
      Call.source ⟨"LEFT".toList, Text.join ", ".toList [reference, Text.ofNat count]⟩ := by
    simp [Call.source, Text.join, behind]
  have whole : ∀ argument ∈ [reference, Text.ofNat count], Argument.IsWhole argument := by
    simp [reference, Argument.isWhole_reference plain, Text.isWhole_ofNat]
  have each : ∀ argument ∈ [reference, Text.ofNat count],
      ∀ char ∈ argument, Argument.isPlain char = true :=
    List.forall_mem_cons.mpr ⟨bare, by simpa using Text.isPlain_of_mem_ofNat count⟩
  have named : Call.IsName "LEFT".toList := .plain ⟨by decide, List.all_eq_true.mp (by decide)⟩
  -- Such a call is carried out with its arguments, or it stays if the limit is zero.
  have carried := evaluate_plain_call (standard ▸ Registry.scannable_standard) named
    (reached?_left standard) whole each progress
  rw [written, carried]
  by_cases shut : scope.limit = 0
  · -- The text of the call has no angle brackets around the reference.
    have front : ∀ char ∈ "LEFT(".toList, Reference.isNameChar char = true :=
      List.all_eq_true.mp (by decide)
    have back : ∀ char ∈ behind, Reference.isNameChar char = true := by
      intro char inside
      simp only [behind, List.mem_append, List.mem_singleton] at inside
      rcases inside with (comma | number) | rfl
      · exact List.all_eq_true.mp (by decide) char comma
      · exact Text.isNameChar_of_mem_ofNat count char number
      · decide
    have around := scope.bindings.substitute_surrounded front back reference
    rw [if_pos shut, if_pos shut, ← written, List.append_assoc, around, inserted,
      List.append_assoc]
  · -- The function gets the value, and gives it back.
    have number : scope.bindings.substitute (Text.ofNat count) = Text.ofNat count :=
      Variables.substitute_of_bare (Text.isNameChar_of_mem_ofNat count)
    have values : [reference, Text.ofNat count].map scope.bindings.substitute =
        [value, Text.ofNat count] := by
      simp [inserted, number]
    rw [if_neg shut, if_neg shut]
    simp only [values, invoke_left_of_length_le enough, List.nil_append]

/-- The value looks like a call and refers to another variable, and more characters are asked for
than 64 bits can count. -/
theorem evaluate_left_reference_code :
    let pairs := [("Nr_1".toList, "TRIM( <B>, <Nr> )".toList), ("B".toList, "LEN(<Nr_1>)".toList)]
    let scope : Scope := { standard with bindings := .ofPairs pairs }
    (scope.registry = .standard ∧ Reference.IsName "Nr_1".toList ∧
      (∀ char ∈ "Nr_1".toList, Argument.isPlain char = true) ∧
      scope.bindings.get? "Nr_1".toList = some "TRIM( <B>, <Nr> )".toList ∧
      "TRIM( <B>, <Nr> )".toList.length ≤ 9223372036854775808) ∧
    scope.evaluate "<Nr_1>".toList ⟨.fresh, []⟩ = ("TRIM( <B>, <Nr> )".toList, ⟨.fresh, []⟩) ∧
    scope.evaluate "LEFT(<Nr_1>, 9223372036854775808)".toList ⟨.fresh, []⟩ =
      ("TRIM( LEN(<Nr_1>), <Nr> )".toList, ⟨.fresh, [⟨"LEFT".toList, 2⟩]⟩) := by
  intro pairs scope
  -- The count is too great for 64 bits; all that is asked of it is that the value is no longer.
  have named : Reference.IsName "Nr_1".toList := ⟨by decide, List.all_eq_true.mp (by decide)⟩
  have plain : ∀ char ∈ "Nr_1".toList, Argument.isPlain char = true :=
    List.all_eq_true.mp (by decide)
  have defined : scope.bindings.get? "Nr_1".toList = some "TRIM( <B>, <Nr> )".toList := by
    decide +kernel
  have enough : "TRIM( <B>, <Nr> )".toList.length ≤ 9223372036854775808 := by decide
  obtain ⟨alone, first, -⟩ :=
    @evaluate_left_reference scope rfl _ _ named plain defined _ enough ⟨.fresh, []⟩
  -- The reference in the value is replaced, but not the one that the replacement brings along.
  have replaced : scope.bindings.substitute "TRIM( <B>, <Nr> )".toList =
      "TRIM( LEN(<Nr_1>), <Nr> )".toList := by
    decide +kernel
  refine ⟨⟨rfl, named, plain, defined, enough⟩, alone, ?_⟩
  have allowed : scope.limit ≠ 0 := by decide
  rw [if_neg allowed, replaced] at first
  exact first

/-- A reference in the value of a variable is replaced on the way through a call, and not when the
variable stands alone. -/
theorem evaluate_left_reference_replaced :
    let pairs := [("A".toList, "<B>".toList), ("B".toList, "x".toList)]
    let scope : Scope := { standard with bindings := .ofPairs pairs }
    "<B>".toList.length ≤ 9 ∧
      (scope.evaluate "<A>".toList ⟨.fresh, []⟩).1 = "<B>".toList ∧
      (scope.evaluate "LEFT(<A>, 9)".toList ⟨.fresh, []⟩).1 = "x".toList := by
  decide +kernel

end Scope

end Docket
