import Docket.Proofs.Expression.Tree

/-! Evaluation by counting levels from outside: a call on a level beyond the limit is a fault, and
only the expression itself puts such a call back. It is the evaluation of expressions. -/

namespace Docket

/-- Calls are nested deeper than a limit allows. -/
structure TooDeep where
  limit : Nat
deriving DecidableEq, Repr

namespace Scope

/-- How a call on some level is resolved. -/
abbrev LevelResolver := Call → Progress → Except TooDeep Text × Progress

/-- The text of a segment on a level. A call that is nested too deep stays as written on level zero,
and has no text anywhere else. -/
def segmentAt (level : Nat) (resolver : LevelResolver) (segment : Segment) (progress : Progress) :
    Except TooDeep Text × Progress :=
  match segment with
  | .text literal => (.ok literal, progress)
  | .call found =>
    match resolver found progress with
    | (.ok value, progress) => (.ok value, progress)
    | (.error fault, progress) =>
      (if level = 0 then .ok found.source else .error fault, progress)

/-- The text of segments on a level, up to the first one that has none. -/
def splicedAt (level : Nat) (resolver : LevelResolver) :
    List Segment → Progress → Except TooDeep Text × Progress
  | [], progress => (.ok [], progress)
  | segment :: rest, progress =>
    match segmentAt level resolver segment progress with
    | (.error fault, progress) => (.error fault, progress)
    | (.ok front, progress) =>
      let (back, progress) := splicedAt level resolver rest progress
      (back.map (front ++ ·), progress)

/-- The value of an argument of a call on a level. -/
def argumentAt (scope : Scope) (level : Nat) (resolver : LevelResolver) (argument : Text)
    (progress : Progress) : Except TooDeep Text × Progress :=
  if scope.callsIn argument then
    let (value, progress) := splicedAt level resolver (segments argument) progress
    (value.map scope.bindings.substitute, progress)
  else (.ok (scope.bindings.substitute argument), progress)

/-- The values of the arguments of a call on a level, up to the first one that has none. -/
def argumentsAt (scope : Scope) (level : Nat) (resolver : LevelResolver) :
    List Text → Progress → Except TooDeep (List Text) × Progress
  | [], progress => (.ok [], progress)
  | argument :: rest, progress =>
    match scope.argumentAt level resolver argument progress with
    | (.error fault, progress) => (.error fault, progress)
    | (.ok value, progress) =>
      let (values, progress) := scope.argumentsAt level resolver rest progress
      (values.map (value :: ·), progress)

/-- The value of a call on a level. The calls in its arguments are on the next one. -/
def resolveAt (scope : Scope) (level : Nat) : LevelResolver := fun call progress =>
  if _deep : scope.limit < level then (.error ⟨scope.limit⟩, progress)
  else match scope.registry.reached? call.name with
    | none => (.ok [], progress)
    | some (lead, function) =>
      match scope.argumentsAt level (scope.resolveAt (level + 1)) call.arguments progress with
      | (.error fault, progress) => (.error fault, progress)
      | (.ok arguments, progress) =>
        let (value, progress) := scope.invoke function arguments progress
        (.ok (lead ++ value), progress)
termination_by scope.limit + 1 - level

/-- The text of an expression with the values of its calls, which are on level one. -/
def textAtTop (scope : Scope) (expression : Text) (progress : Progress) :
    Except TooDeep Text × Progress :=
  splicedAt 0 (scope.resolveAt 1) (segments expression) progress

/-- The value of an expression by counting levels. An expression without a text would stay as
written. -/
def evaluateByLevel (scope : Scope) (expression : Text) (progress : Progress) : Text × Progress :=
  if scope.callsIn expression then
    let (text, progress) := match scope.textAtTop expression progress with
      | (.ok text, progress) => (text, progress)
      | (.error _, progress) => (expression, progress)
    (scope.bindings.substitute text, progress)
  else (scope.bindings.substitute expression, progress)

/-- An outcome in which a missing value is a fault. -/
def orTooDeep {α : Type} (limit : Nat) (outcome : Option α × Progress) :
    Except TooDeep α × Progress :=
  match outcome with
  | (some value, progress) => (.ok value, progress)
  | (none, progress) => (.error ⟨limit⟩, progress)

/-- A resolver in which a missing value is a fault. -/
def Resolver.orTooDeep (limit : Nat) (resolver : Resolver) : LevelResolver :=
  fun call progress => Scope.orTooDeep limit (resolver call progress)

section

variable {scope : Scope} {level limit : Nat} (resolver : Resolver)

/-- Inside an expression a text has a value on its level exactly if it has one at all. -/
theorem splicedAt_inside (inside : 0 < level) (list : List Segment) (progress : Progress) :
    splicedAt level (resolver.orTooDeep limit) list progress =
      orTooDeep limit (spliced resolver list progress) := by
  -- Both walks stop at the first call without a value.
  have below : level ≠ 0 := by omega
  induction list generalizing progress with
  | nil => rfl
  | cons segment rest ih =>
    cases segment with
    | text literal =>
      simp only [splicedAt, segmentAt, spliced, ih]
      cases later : spliced resolver rest progress with
      | mk back last => cases back <;> rfl
    | call found =>
      cases outcome : resolver found progress with
      | mk value middle =>
        -- The fault ends the walk below the expression itself.
        cases value with
        | none =>
          simp [splicedAt, segmentAt, spliced, Resolver.orTooDeep, orTooDeep, outcome, below]
        | some value =>
          simp only [splicedAt, segmentAt, spliced, Resolver.orTooDeep, orTooDeep, outcome, ih]
          cases later : spliced resolver rest middle with
          | mk back last => cases back <;> rfl

/-- An argument has a value on its level exactly if it has one at all. -/
theorem argumentAt_eq (inside : 0 < level) (argument : Text) (progress : Progress) :
    scope.argumentAt level (resolver.orTooDeep limit) argument progress =
      orTooDeep limit (scope.argumentValue resolver argument progress) := by
  -- Only an argument with calls is read by its segments.
  unfold argumentAt argumentValue
  split
  · rw [splicedAt_inside resolver inside]
    cases read : spliced resolver (segments argument) progress with
    | mk value last => cases value <;> rfl
  · rfl

/-- Arguments have values on their level exactly if they have values at all. -/
theorem argumentsAt_eq (inside : 0 < level) (arguments : List Text) (progress : Progress) :
    scope.argumentsAt level (resolver.orTooDeep limit) arguments progress =
      orTooDeep limit (scope.argumentValues resolver arguments progress) := by
  -- Both walks stop at the first argument without a value.
  induction arguments generalizing progress with
  | nil => rfl
  | cons argument rest ih =>
    simp only [argumentsAt, argumentValues, argumentAt_eq resolver inside]
    cases first : scope.argumentValue resolver argument progress with
    | mk value middle =>
      cases value with
      | none => rfl
      | some value =>
        simp only [orTooDeep, ih]
        cases later : scope.argumentValues resolver rest middle with
        | mk values last => cases values <;> rfl

end

/-- A call on a level has a value exactly if it has one where as many levels are left as there are
from there to the limit. -/
theorem resolveAt_eq (scope : Scope) {level depth : Nat} (inside : 0 < level)
    (levels : level + depth = scope.limit + 1) :
    scope.resolveAt level = Resolver.orTooDeep scope.limit (scope.resolve depth) := by
  -- One level further down there is one level less to go.
  induction depth generalizing level with
  | zero =>
    have deep : scope.limit < level := by omega
    funext call progress
    rw [resolveAt, dif_pos deep]
    rfl
  | succ depth ih =>
    have within : ¬ scope.limit < level := by omega
    have next := @ih (level + 1) (by omega) (by omega)
    funext call progress
    rw [resolveAt, dif_neg within]
    simp only [next, argumentsAt_eq _ inside, Resolver.orTooDeep, resolve]
    cases reached : scope.registry.reached? call.name with
    | none => rfl
    | some target =>
      obtain ⟨lead, function⟩ := target
      -- The arguments were resolved one level further down, with or without a fault.
      cases outcome : scope.argumentValues (scope.resolve depth) call.arguments progress with
      | mk values middle => cases values <;> rfl

/-- The calls of an expression itself have all the levels before them. -/
theorem resolveAt_one (scope : Scope) :
    scope.resolveAt 1 = Resolver.orTooDeep scope.limit (scope.resolve scope.limit) :=
  scope.resolveAt_eq Nat.one_pos (by omega)

/-- The segments of the expression itself always have a text: a call that is nested too deep is put
back. -/
theorem splicedAt_top (scope : Scope) (list : List Segment) (progress : Progress) :
    splicedAt 0 (scope.resolveAt 1) list progress =
      (.ok (scope.segmentValues list progress).1, (scope.segmentValues list progress).2) := by
  -- Each segment gives a text, so the walk reaches the end.
  rw [resolveAt_one]
  induction list generalizing progress with
  | nil => rfl
  | cons segment rest ih =>
    cases segment with
    | text literal => simp [splicedAt, segmentAt, segmentValues, segmentValue, ih, Except.map]
    | call found =>
      cases outcome : scope.resolve scope.limit found progress with
      | mk value middle =>
        cases value <;>
          simp [splicedAt, segmentAt, segmentValues, segmentValue, Resolver.orTooDeep, orTooDeep,
            outcome, ih, Except.map]

/-- The expression itself always has a text. -/
theorem textAtTop_eq (scope : Scope) (expression : Text) (progress : Progress) :
    scope.textAtTop expression progress =
      (.ok (scope.segmentValues (segments expression) progress).1,
        (scope.segmentValues (segments expression) progress).2) :=
  scope.splicedAt_top (segments expression) progress

/-- Evaluation by counting levels is evaluation. The expression never stays as a whole. -/
theorem evaluateByLevel_eq (scope : Scope) (expression : Text) (progress : Progress) :
    scope.evaluateByLevel expression progress = scope.evaluate expression progress := by
  unfold evaluateByLevel evaluate
  rw [textAtTop_eq]

end Scope

end Docket
