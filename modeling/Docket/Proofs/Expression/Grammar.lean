import Docket.Expression.Call
import Docket.Proofs.Text.Search

/-! What a complete call looks like, whatever stands around it. -/

namespace Docket.Call

/-- A run of name letters. -/
structure IsRun (run : Text) : Prop where
  filled : run ≠ []
  letters : ∀ letter ∈ run, isNameLetter letter = true

/-- A name is one run, or two with a point between them. -/
inductive IsName : Text → Prop where
  | plain {run : Text} (only : IsRun run) : IsName run
  | dotted {head tail : Text} (front : IsRun head) (back : IsRun tail) :
    IsName (head ++ '.' :: tail)

/-- A run is read exactly if it stands there with a parenthesis behind it. -/
theorem run?_eq_some_iff {text run rest : Text} :
    run? text = some (run, rest) ↔ IsRun run ∧ text = run ++ '(' :: rest := by
  rw [run?, Text.runBefore?_eq_some_iff (by decide), ← and_assoc]
  exact and_congr_left fun _ => ⟨fun ⟨filled, letters⟩ => ⟨filled, letters⟩,
    fun ⟨filled, letters⟩ => ⟨filled, letters⟩⟩

/-- A name is read exactly if it stands there with a parenthesis behind it. -/
theorem name?_eq_some_iff {text name rest : Text} :
    name? text = some (name, rest) ↔ IsName name ∧ text = name ++ '(' :: rest := by
  constructor
  · intro found
    refine ⟨?_, name?_source found⟩
    unfold name? at found
    split at found
    · -- A point follows the first run.
      rename_i dotted
      obtain ⟨filled, letters, -⟩ := (Text.runBefore?_eq_some_iff (by decide)).mp dotted
      obtain ⟨⟨tail, after⟩, second, equal⟩ := Option.map_eq_some_iff.mp found
      obtain ⟨rfl, -⟩ := Prod.mk.inj equal
      exact .dotted ⟨filled, letters⟩ (run?_eq_some_iff.mp second).1
    · exact .plain (run?_eq_some_iff.mp found).1
  · rintro ⟨named, rfl⟩
    cases named with
    | plain only =>
      -- The run ends at the parenthesis, so no second one is looked for.
      have plain : (name ++ '(' :: rest).runBefore? isNameLetter '.' = none := by
        rw [Text.runBefore?_eq, Text.dropWhile_append_mark only.letters (by decide),
          if_neg fun point => absurd point.2 (by simp)]
      rw [name?, plain]
      exact run?_eq_some_iff.mpr ⟨only, rfl⟩
    | dotted front back =>
      -- The first run ends at the point, and the second one at the parenthesis.
      rename_i head tail
      have first : (head ++ '.' :: (tail ++ '(' :: rest)).runBefore? isNameLetter '.' =
          some (head, tail ++ '(' :: rest) :=
        (Text.runBefore?_eq_some_iff (by decide)).mpr ⟨front.filled, front.letters, rfl⟩
      have second : run? (tail ++ '(' :: rest) = some (tail, rest) :=
        run?_eq_some_iff.mpr ⟨back, rfl⟩
      rw [List.append_assoc, List.cons_append, name?, first]
      simp only [second, Option.map_some]

/-- A name is read from two runs if a point follows the first, and else from one. -/
theorem name?_eq (text : Text) :
    name? text =
      if text.takeWhile isNameLetter ≠ [] ∧ (text.dropWhile isNameLetter).head? = some '.' then
        (run? (text.dropWhile isNameLetter).tail).map fun (tail, after) =>
          (text.takeWhile isNameLetter ++ '.' :: tail, after)
      else run? text := by
  rw [name?, Text.runBefore?_eq]
  split_ifs <;> rfl

/-- A name begins with a name letter. -/
theorem IsName.exists_cons {name : Text} (named : IsName name) :
    ∃ letter others, name = letter :: others ∧ isNameLetter letter = true := by
  -- Either way a run stands first.
  cases named with
  | plain only =>
    obtain ⟨letter, others, rfl⟩ := List.exists_cons_of_ne_nil only.filled
    exact ⟨letter, others, rfl, only.letters letter (.head _)⟩
  | dotted front back =>
    obtain ⟨letter, others, rfl⟩ := List.exists_cons_of_ne_nil front.filled
    exact ⟨letter, others ++ '.' :: _, rfl, front.letters letter (.head _)⟩

/-- Where a place stands: how many parentheses are open there, and the quotation mark that is. -/
structure Nesting where
  depth : Nat
  quote : Option Char
deriving DecidableEq, Repr

namespace Nesting

/-- Outside all parentheses and quotes. -/
def outside : Nesting :=
  ⟨0, none⟩

/-- The place behind a character; there is none behind a parenthesis that closes nothing. -/
def step? (nesting : Nesting) (char : Char) : Option Nesting :=
  match nesting.quote with
  | some mark => some ⟨nesting.depth, if char = mark then none else some mark⟩
  | none =>
    if isQuote char then some ⟨nesting.depth, some char⟩
    else if char = '(' then some ⟨nesting.depth + 1, none⟩
    else if char = ')' then
      match nesting.depth with
      | 0 => none
      | outer + 1 => some ⟨outer, none⟩
    else some ⟨nesting.depth, none⟩

/-- The place behind a text. -/
def walk? (nesting : Nesting) (text : Text) : Option Nesting :=
  text.foldlM step? nesting

@[simp] theorem walk?_nil (nesting : Nesting) : nesting.walk? [] = some nesting := rfl

@[simp] theorem walk?_cons (nesting : Nesting) (char : Char) (rest : Text) :
    nesting.walk? (char :: rest) = (nesting.step? char).bind fun next => next.walk? rest := rfl

theorem walk?_append (nesting : Nesting) (front back : Text) :
    nesting.walk? (front ++ back) = (nesting.walk? front).bind fun next => next.walk? back :=
  List.foldlM_append

/-- Only a parenthesis outside everything closes nothing. -/
theorem step?_eq_none_iff {nesting : Nesting} {char : Char} :
    nesting.step? char = none ↔ nesting = outside ∧ char = ')' := by
  obtain ⟨depth, quote⟩ := nesting
  -- Within quotes every character moves on.
  cases quote with
  | some mark => simp [step?, outside]
  | none =>
    by_cases closes : char = ')'
    · subst closes
      have neither : isQuote ')' = false := by decide
      cases depth <;> simp [step?, outside, neither]
    · -- So does every character but the parenthesis outside them.
      have moves : step? ⟨depth, none⟩ char ≠ none := by
        simp only [step?, if_neg closes]
        split
        · simp
        · split <;> simp
      simp [moves, closes]

end Nesting

/-- Looking for the closing parenthesis takes one character after the other. -/
theorem closing?_cons (nesting : Nesting) (char : Char) (rest : Text) :
    closing? nesting.depth nesting.quote (char :: rest) =
      match nesting.step? char with
      | none => some ([], rest)
      | some next => (closing? next.depth next.quote rest).map
          fun (inner, after) => (char :: inner, after) := by
  obtain ⟨depth, quote⟩ := nesting
  -- Both sides make the same tests in the same order.
  cases quote with
  | some mark => simp [closing?, Nesting.step?]
  | none =>
    simp only [closing?, Nesting.step?]
    split
    · rfl
    · split
      · rfl
      · split
        · cases depth <;> rfl
        · rfl

/-- A closing parenthesis is found exactly behind a text that leads outside again, and no earlier
parenthesis closes. -/
theorem closing?_eq_some_iff {nesting : Nesting} {text inner after : Text} :
    closing? nesting.depth nesting.quote text = some (inner, after) ↔
      nesting.walk? inner = some .outside ∧ text = inner ++ ')' :: after := by
  -- Each character is either the parenthesis itself or belongs to the inner text.
  induction text generalizing nesting inner with
  | nil => simp [closing?]
  | cons char rest ih =>
    rw [closing?_cons]
    cases moved : nesting.step? char with
    | none =>
      -- This is the closing parenthesis, so the inner text is empty.
      obtain ⟨rfl, rfl⟩ := Nesting.step?_eq_none_iff.mp moved
      constructor
      · intro found
        obtain ⟨rfl, rfl⟩ := Prod.mk.inj (Option.some.inj found)
        exact ⟨rfl, rfl⟩
      · rintro ⟨leads, parts⟩
        cases inner with
        | nil =>
          obtain ⟨-, rfl⟩ := List.cons.inj parts
          rfl
        | cons first others =>
          obtain ⟨rfl, -⟩ := List.cons.inj parts
          simp [moved] at leads
    | some next =>
      -- The parenthesis stands further behind, and the character belongs to the inner text.
      simp only
      constructor
      · intro found
        obtain ⟨⟨later, behind⟩, further, equal⟩ := Option.map_eq_some_iff.mp found
        obtain ⟨rfl, rfl⟩ := Prod.mk.inj equal
        obtain ⟨leads, rfl⟩ := ih.mp further
        exact ⟨by simpa [moved] using leads, rfl⟩
      · rintro ⟨leads, parts⟩
        cases inner with
        | nil =>
          -- An empty inner text would put the parenthesis here.
          obtain ⟨rfl, -⟩ := List.cons.inj parts
          obtain rfl := Option.some.inj leads
          exact absurd moved (by simp [Nesting.step?_eq_none_iff.mpr ⟨rfl, rfl⟩])
        | cons first others =>
          obtain ⟨rfl, behind⟩ := List.cons.inj parts
          rw [Nesting.walk?_cons, moved, Option.bind_some] at leads
          rw [ih.mpr ⟨leads, behind⟩]
          rfl

/-- A complete call has a name, and its inner text closes what it opens. -/
structure IsComplete (call : Call) : Prop where
  named : IsName call.name
  closed : Nesting.outside.walk? call.inner = some .outside

/-- A call stands at the front of a text exactly if it is complete and the text begins with its
source. What comes behind does not matter. -/
theorem atFront?_eq_some_iff {text after : Text} {call : Call} :
    atFront? text = some (call, after) ↔ call.IsComplete ∧ text = call.source ++ after := by
  constructor
  · intro found
    refine ⟨?_, atFront?_source found⟩
    -- The name was read in front of its parenthesis, and the inner text up to the closing one.
    obtain ⟨⟨name, rest⟩, named, closes⟩ := Option.bind_eq_some_iff.mp found
    obtain ⟨⟨inner, behind⟩, closed, equal⟩ := Option.map_eq_some_iff.mp closes
    obtain ⟨rfl, rfl⟩ := Prod.mk.inj equal
    have shut : closing? Nesting.outside.depth Nesting.outside.quote rest = some (inner, behind) :=
      closed
    exact ⟨(name?_eq_some_iff.mp named).1, (closing?_eq_some_iff.mp shut).1⟩
  · rintro ⟨complete, rfl⟩
    -- A complete call is written in just these two parts.
    have parts : call.source ++ after = call.name ++ '(' :: (call.inner ++ ')' :: after) := by
      simp [source]
    have named := name?_eq_some_iff.mpr ⟨complete.named, parts⟩
    have shut : closing? Nesting.outside.depth Nesting.outside.quote
        (call.inner ++ ')' :: after) = some (call.inner, after) :=
      closing?_eq_some_iff.mpr ⟨complete.closed, rfl⟩
    have closed : closing? 0 none (call.inner ++ ')' :: after) = some (call.inner, after) := shut
    simp only [atFront?, named, Option.bind_some, closed, Option.map_some]

/-- A complete call at the front of a text is the first one of it. -/
theorem IsComplete.first?_append {call : Call} (complete : call.IsComplete) (after : Text) :
    first? false (call.source ++ after) = some ⟨[], call, after⟩ := by
  -- The name begins with a letter, and nothing stands before it.
  have front : atFront? (call.source ++ after) = some (call, after) :=
    atFront?_eq_some_iff.mpr ⟨complete, rfl⟩
  obtain ⟨letter, others, same, isLetter⟩ := complete.named.exists_cons
  have parts : call.source ++ after =
      letter :: (others ++ '(' :: (call.inner ++ ')' :: after)) := by
    simp [source, same]
  rw [parts] at front ⊢
  simp only [first?, isLetter, Bool.not_false, Bool.and_self, if_true, front]

/-- A split of a text with more text in front. -/
def Split.behind (front : Text) (split : Split) : Split :=
  { split with before := front ++ split.before }

/-- Text put in front twice is put in front together. -/
theorem map_behind_behind (front back : Text) (found : Option Split) :
    (found.map (Split.behind back)).map (Split.behind front) =
      found.map (Split.behind (front ++ back)) := by
  cases found with
  | none => rfl
  | some split => simp [Split.behind]

/-- The search goes on behind a character where no call stands. -/
theorem first?_cons_of_none {afterLetter : Bool} {char : Char} {rest : Text}
    (absent : isNameLetter char = true → afterLetter = false → atFront? (char :: rest) = none) :
    first? afterLetter (char :: rest) =
      (first? (isNameLetter char) rest).map (.behind [char]) := by
  -- The search looks for a call here only at a name letter that follows none.
  have here : (if isNameLetter char && !afterLetter then atFront? (char :: rest) else none) =
      none := by
    split
    · rename_i fresh
      obtain ⟨letter, bare⟩ := Bool.and_eq_true_iff.mp fresh
      exact absent letter (by simpa using bare)
    · rfl
  simp only [first?, here]
  rfl

/-- No call begins inside a run of name letters. -/
theorem first?_letters {letters : Text} (all : ∀ letter ∈ letters, isNameLetter letter = true)
    (rest : Text) : first? true (letters ++ rest) = (first? true rest).map (.behind letters) := by
  induction letters with
  | nil =>
    have same : Split.behind [] = id := rfl
    rw [same, Option.map_id, List.nil_append, id]
  -- Each letter stands behind another one, so no name starts with it.
  | cons letter others ih =>
    obtain ⟨first, all⟩ := List.forall_mem_cons.mp all
    rw [List.cons_append, first?_cons_of_none (by simp), first, ih all, map_behind_behind]
    rfl

/-- No call stands where nothing closes the parenthesis behind a name. -/
theorem atFront?_unclosed {name rest : Text} (named : IsName name)
    (unclosed : closing? 0 none rest = none) : atFront? (name ++ '(' :: rest) = none := by
  have read : name? (name ++ '(' :: rest) = some (name, rest) := name?_eq_some_iff.mpr ⟨named, rfl⟩
  simp only [atFront?, read, Option.bind_some, unclosed, Option.map_none]

/-- Where a run is followed by a parenthesis that nothing closes, calls are only found behind. -/
theorem first?_unclosed_run {run rest : Text} (only : IsRun run)
    (unclosed : closing? 0 none rest = none) (afterLetter : Bool) :
    first? afterLetter (run ++ '(' :: rest) =
      (first? false rest).map (.behind (run ++ ['('])) := by
  -- No call stands at the first letter, none begins inside the run, and none at the parenthesis.
  have absent := atFront?_unclosed (.plain only) unclosed
  obtain ⟨letter, letters, rfl⟩ := List.exists_cons_of_ne_nil only.filled
  obtain ⟨first, all⟩ := List.forall_mem_cons.mp only.letters
  have paren : isNameLetter '(' = false := by decide
  rw [List.cons_append] at absent ⊢
  rw [first?_cons_of_none fun _ _ => absent, first, first?_letters all,
    first?_cons_of_none (by simp [paren]), paren, map_behind_behind, map_behind_behind]
  rfl

/-- Where a name is followed by a parenthesis that nothing closes, calls are only found behind. -/
theorem first?_unclosed {name rest : Text} (named : IsName name)
    (unclosed : closing? 0 none rest = none) (afterLetter : Bool) :
    first? afterLetter (name ++ '(' :: rest) =
      (first? false rest).map (.behind (name ++ ['('])) := by
  have absent := atFront?_unclosed named unclosed
  cases named with
  | plain only => exact first?_unclosed_run only unclosed afterLetter
  | dotted front back =>
    -- The second run is a name of its own, but nothing closes its parenthesis either.
    rename_i head tail
    obtain ⟨letter, letters, rfl⟩ := List.exists_cons_of_ne_nil front.filled
    obtain ⟨first, all⟩ := List.forall_mem_cons.mp front.letters
    have point : isNameLetter '.' = false := by decide
    have parts : letter :: letters ++ '.' :: tail ++ '(' :: rest =
        letter :: (letters ++ '.' :: (tail ++ '(' :: rest)) := by simp
    rw [parts] at absent ⊢
    rw [first?_cons_of_none fun _ _ => absent, first, first?_letters all,
      first?_cons_of_none (by simp [point]), point, first?_unclosed_run back unclosed,
      map_behind_behind, map_behind_behind, map_behind_behind]
    simp

/-- Where a name with a parenthesis begins, its call is the first one, or calls are only found
behind the parenthesis. -/
theorem first?_named {name : Text} (named : IsName name) (behind : Text) :
    first? false (name ++ '(' :: behind) =
      match closing? 0 none behind with
      | some (inner, after) => some ⟨[], ⟨name, inner⟩, after⟩
      | none => (first? false behind).map (.behind (name ++ ['('])) := by
  -- The parenthesis behind the name is closed, or calls are found behind it only.
  cases closed : closing? 0 none behind with
  | none => exact first?_unclosed named closed false
  | some pair =>
    obtain ⟨inner, after⟩ := pair
    obtain ⟨leads, rfl⟩ := (@closing?_eq_some_iff .outside behind inner after).mp closed
    have complete : IsComplete ⟨name, inner⟩ := ⟨named, leads⟩
    simpa [source] using complete.first?_append after

/-- No name letter stands directly before the first call. -/
theorem first?_fresh {front text : Text} {split : Split}
    (found : first? (front.getLast?.any isNameLetter) text = some split) :
    (front ++ split.before).getLast?.any isNameLetter = false := by
  -- The flag always tells of the last character that was passed over.
  induction text generalizing front split with
  | nil => exact absurd found (by simp [first?])
  | cons char rest ih =>
    simp only [first?] at found
    split at found
    · rename_i call after here
      obtain rfl := Option.some.inj found
      split at here
      · rename_i fresh
        simpa using (Bool.and_eq_true_iff.mp fresh).2
      · exact absurd here (by simp)
    · -- The character that is passed over is the last one before the rest.
      obtain ⟨later, behind, rfl⟩ := Option.map_eq_some_iff.mp found
      have last : (front ++ [char]).getLast?.any isNameLetter = isNameLetter char := by
        simp
      have further := @ih (front ++ [char]) later (last.symm ▸ behind)
      simpa using further

end Docket.Call
