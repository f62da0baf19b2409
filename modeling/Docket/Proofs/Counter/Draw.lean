/-! Draws from a counter, one after the other, and what they make of its value: every draw is worth
what the counter began with, plus the steps of the draws before it. -/

namespace Docket.Counter

/-- A draw from a counter: the value that was handed out, the step by which the counter moved on,
and the start that was asked for in case the counter was missing. -/
structure Draw where
  start : Int64
  step : Int64
  value : Int64
deriving DecidableEq, Repr

/-- How far draws move a counter. -/
def stepSum : List Draw → Int
  | [] => 0
  | draw :: rest => draw.step.toInt + stepSum rest

@[simp] theorem stepSum_nil : stepSum [] = 0 := rfl

@[simp] theorem stepSum_cons (draw : Draw) (rest : List Draw) :
    stepSum (draw :: rest) = draw.step.toInt + stepSum rest := rfl

/-- Draws by one step move a counter by that step for each of them. -/
theorem stepSum_of_forall {draws : List Draw} {step : Int64}
    (fixed : ∀ draw ∈ draws, draw.step = step) : stepSum draws = draws.length * step.toInt := by
  -- Each draw adds the one step.
  induction draws with
  | nil => simp
  | cons draw rest ih =>
    have here := fixed draw (.head _)
    have later := ih fun other inside => fixed other (.tail _ inside)
    rw [stepSum_cons, here, later, List.length_cons, Int.natCast_succ, Int.add_mul, Int.one_mul,
      Int.add_comm]

/-- A counter that held one value before draws holds another one after them: each draw hands out
what the counter holds, or its own start if there is nothing, and moves the counter on. -/
def Drawn : Option Int64 → List Draw → Option Int64 → Prop
  | held, [], after => after = held
  | held, draw :: rest, after => draw.value = held.getD draw.start ∧
      ∃ next : Int64, next.toInt = draw.value.toInt + draw.step.toInt ∧ Drawn (some next) rest after

namespace Drawn

variable {held middle after : Option Int64} {base : Int64} {draws : List Draw}

/-- Draws may be made in two parts. -/
theorem append {front back : List Draw} (first : Drawn held front middle)
    (second : Drawn middle back after) : Drawn held (front ++ back) after := by
  -- The counter passes from the last draw in front to the first one behind.
  induction front generalizing held with
  | nil =>
    obtain rfl : middle = held := first
    exact second
  | cons draw rest ih =>
    obtain ⟨value, next, moved, later⟩ := first
    exact ⟨value, next, moved, ih later⟩

/-- A missing counter might as well have held the start of the first draw. -/
theorem of_start {first : Draw} {rest : List Draw} (drawn : Drawn held (first :: rest) after) :
    Drawn (some (held.getD first.start)) (first :: rest) after :=
  drawn

/-- A draw is worth what the counter held, plus the steps of the draws before it. -/
theorem value_eq (drawn : Drawn (some base) draws after) (i : Nat) (inside : i < draws.length) :
    draws[i].value.toInt = base.toInt + stepSum (draws.take i) := by
  -- Every draw leaves its own value plus its step to the next one.
  induction draws generalizing base i with
  | nil => exact absurd inside (Nat.not_lt_zero i)
  | cons draw rest ih =>
    obtain ⟨value, next, moved, later⟩ := drawn
    rw [Option.getD_some] at value
    cases i with
    | zero => simp [value]
    | succ i =>
      have worth := ih later i (Nat.lt_of_succ_lt_succ inside)
      rw [List.getElem_cons_succ, List.take_succ_cons, stepSum_cons, worth, moved, value]
      omega

/-- After draws a counter has moved on by all their steps. -/
theorem after_eq (drawn : Drawn (some base) draws after) :
    ∃ value, after = some value ∧ value.toInt = base.toInt + stepSum draws := by
  -- Each draw leaves what the next one begins with.
  induction draws generalizing base with
  | nil => exact ⟨base, drawn, by simp⟩
  | cons draw rest ih =>
    obtain ⟨value, next, moved, later⟩ := drawn
    rw [Option.getD_some] at value
    obtain ⟨last, there, worth⟩ := ih later
    refine ⟨last, there, ?_⟩
    rw [stepSum_cons, worth, moved, value]
    omega

/-- A counter that was there is still there after draws. -/
theorem isSome_after (drawn : Drawn held draws after) (there : held.isSome = true) :
    after.isSome = true := by
  obtain ⟨base, rfl⟩ := Option.isSome_iff_exists.mp there
  obtain ⟨last, rfl, -⟩ := drawn.after_eq
  rfl

end Drawn

/-- A numbering without gaps, from what a counter held before draws to what it holds after them. -/
structure Gapless (held : Option Int64) (draws : List Draw) (after : Option Int64) : Prop where
  /-- Every draw is worth what the counter held, or the start of the first draw if it held nothing,
  plus the steps of the draws before it. -/
  value : ∀ first ∈ draws.head?, ∀ (i : Nat) (inside : i < draws.length),
    draws[i].value.toInt = (held.getD first.start).toInt + stepSum (draws.take i)
  /-- Nothing but the draws moves the counter. -/
  idle : draws = [] → after = held
  /-- The counter has moved on by the steps of all draws. -/
  after : ∀ first ∈ draws.head?, ∃ value, after = some value ∧
    value.toInt = (held.getD first.start).toInt + stepSum draws
  /-- Draws by one step, which is not zero, are worth different values that are one step apart. -/
  spaced : ∀ step : Int64, step ≠ 0 → (∀ draw ∈ draws, draw.step = step) →
    (draws.map Draw.value).Nodup ∧ ∀ (i : Nat) (inside : i + 1 < draws.length),
      draws[i + 1].value.toInt = draws[i].value.toInt + step.toInt

/-- Draws by one step are worth values at equal distances from the first one. -/
theorem Drawn.value_of_forall {base : Int64} {draws : List Draw} {after : Option Int64}
    {step : Int64} (drawn : Drawn (some base) draws after)
    (fixed : ∀ draw ∈ draws, draw.step = step) (i : Nat) (inside : i < draws.length) :
    draws[i].value.toInt = base.toInt + i * step.toInt := by
  -- All draws before it have the same step.
  have before : stepSum (draws.take i) = (draws.take i).length * step.toInt :=
    stepSum_of_forall fun draw early => fixed draw (List.mem_of_mem_take early)
  rw [drawn.value_eq i inside, before, List.length_take, Nat.min_eq_left (Nat.le_of_lt inside)]

/-- Draws from a counter make a numbering without gaps. -/
theorem Drawn.gapless {held : Option Int64} {draws : List Draw} {after : Option Int64}
    (drawn : Drawn held draws after) : Gapless held draws after := by
  cases draws with
  | nil =>
    -- Without draws nothing is handed out and nothing moves.
    refine ⟨?_, fun _ => drawn, ?_, ?_⟩
    · intro first there
      exact absurd there (by simp)
    · intro first there
      exact absurd there (by simp)
    · intro step _ _
      refine ⟨List.nodup_nil, fun i inside => ?_⟩
      simp at inside
  | cons first rest =>
    -- The first draw finds a value or its own start, and from there on nothing but steps counts.
    have begun := drawn.of_start
    refine ⟨?_, fun empty => absurd empty (by simp), ?_, ?_⟩
    · intro _ same i inside
      obtain rfl : first = _ := by simpa using same
      exact begun.value_eq i inside
    · intro _ same
      obtain rfl : first = _ := by simpa using same
      exact begun.after_eq
    · intro step nonzero fixed
      have worth := begun.value_of_forall fixed
      constructor
      · -- Equal values would make a multiple of the step vanish.
        have distance : step.toInt ≠ 0 := fun zero => nonzero (Int64.toInt_inj.mp zero)
        rw [List.Nodup, List.pairwise_iff_getElem]
        intro i j insideI insideJ less equal
        rw [List.length_map] at insideI insideJ
        rw [List.getElem_map, List.getElem_map] at equal
        have same : (i : Int) * step.toInt = j * step.toInt := by
          have left := worth i insideI
          have right := worth j insideJ
          rw [equal] at left
          omega
        have level : (i : Int) = j := Int.eq_of_mul_eq_mul_right distance same
        omega
      · -- One step more has been added for the later draw.
        intro i inside
        have here := worth i (by omega)
        have next := worth (i + 1) inside
        rw [here, next, Int.natCast_succ, Int.add_mul, Int.one_mul, Int.add_assoc]

end Docket.Counter
