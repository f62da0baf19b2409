import Docket.Text.Basic

/-! Calls as they stand in an expression: `NAME(...)` with balanced parentheses and quotes. -/

namespace Docket

/-- A call as written: its name and the raw text between its parentheses. -/
structure Call where
  name : Text
  inner : Text
deriving DecidableEq, Repr, Inhabited

namespace Call

/-- The text of a call. -/
def source (call : Call) : Text :=
  call.name ++ '(' :: (call.inner ++ [')'])

/-- Function names consist of capital ASCII letters. -/
def isNameLetter (char : Char) : Bool :=
  'A' ≤ char && char ≤ 'Z'

/-- The two quotation marks. -/
def isQuote (char : Char) : Bool :=
  char == '\'' || char == '"'

/-- A run of name letters directly before an opening parenthesis, and the text after it. -/
def run? (text : Text) : Option (Text × Text) :=
  text.runBefore? isNameLetter '('

/-- The name `RUN` or `RUN.RUN` directly before an opening parenthesis, and the text after it. -/
def name? (text : Text) : Option (Text × Text) :=
  match text.runBefore? isNameLetter '.' with
  -- A point asks for a second run: `A.B.C(` begins no name at `A`, but one at `B`.
  | some (head, rest) => (run? rest).map fun (tail, after) => (head ++ '.' :: tail, after)
  | none => run? text

/-- The text up to the parenthesis that closes a call, and the text after it.
`depth` counts the parentheses opened inside, and quoted parentheses do not count. -/
def closing? (depth : Nat) (quote : Option Char) : Text → Option (Text × Text)
  | [] => none
  | char :: rest =>
    let inside (depth : Nat) (quote : Option Char) : Option (Text × Text) :=
      (closing? depth quote rest).map fun (inner, after) => (char :: inner, after)
    match quote with
    -- Inside quotes only the mark that opened them counts.
    | some mark => inside depth (if char = mark then none else quote)
    | none =>
      if isQuote char then inside depth (some char)
      else if char = '(' then inside (depth + 1) none
      else if char = ')' then
        match depth with
        | 0 => some ([], rest)
        | outer + 1 => inside outer none
      else inside depth none

/-- The complete call at the front of a text, and the text after it. -/
def atFront? (text : Text) : Option (Call × Text) :=
  (name? text).bind fun (name, rest) =>
    (closing? 0 none rest).map fun (inner, after) => (⟨name, inner⟩, after)

/-- A text cut at a complete call. -/
structure Split where
  before : Text
  call : Call
  after : Text
deriving DecidableEq, Repr

/-- The first complete call of a text. A name starts where no name letter precedes it;
`afterLetter` tells whether one stands directly before the text. -/
def first? (afterLetter : Bool) : Text → Option Split
  | [] => none
  | char :: rest =>
    let here := if isNameLetter char && !afterLetter then atFront? (char :: rest) else none
    match here with
    | some (call, after) => some ⟨[], call, after⟩
    -- What is no complete call is passed over one character at a time.
    | none =>
      (first? (isNameLetter char) rest).map fun split =>
        { split with before := char :: split.before }

/-- Whether a text holds a complete call. -/
def occursIn (text : Text) : Bool :=
  (first? false text).isSome

theorem name?_source {text name rest : Text} (found : name? text = some (name, rest)) :
    text = name ++ '(' :: rest := by
  unfold name? at found
  split at found
  · -- The second run stands behind the point.
    rename_i dotted
    obtain ⟨⟨tail, after⟩, second, equal⟩ := Option.map_eq_some_iff.mp found
    obtain ⟨rfl, rfl⟩ := Prod.mk.inj equal
    rw [Text.runBefore?_source dotted, Text.runBefore?_source second, List.append_assoc,
      List.cons_append]
  · exact Text.runBefore?_source found

theorem closing?_source {depth : Nat} {quote : Option Char} {text inner after : Text}
    (found : closing? depth quote text = some (inner, after)) :
    text = inner ++ ')' :: after := by
  -- Every step but the last puts its character into the inner text.
  induction text generalizing depth quote inner with
  | nil => simp [closing?] at found
  | cons char rest ih =>
    have step {depth : Nat} {quote : Option Char}
        (found : ((closing? depth quote rest).map fun (inner, after) => (char :: inner, after)) =
          some (inner, after)) : char :: rest = inner ++ ')' :: after := by
      obtain ⟨⟨later, behind⟩, found, equal⟩ := Option.map_eq_some_iff.mp found
      simp only [Prod.mk.injEq] at equal
      rw [equal.2] at found
      rw [ih found, ← equal.1]
      rfl
    -- Only the parenthesis at depth zero ends the text; every other branch is such a step.
    unfold closing? at found
    split at found
    · exact step found
    · split at found
      · exact step found
      · split at found
        · exact step found
        · split at found
          · rename_i closes
            split at found
            · simp only [Option.some.injEq, Prod.mk.injEq] at found
              rw [← found.1, ← found.2, closes]
              rfl
            · exact step found
          · exact step found

/-- A call at the front of a text is a front part of it. -/
theorem atFront?_source {text after : Text} {call : Call}
    (found : atFront? text = some (call, after)) : text = call.source ++ after := by
  obtain ⟨⟨name, rest⟩, named, closed⟩ := Option.bind_eq_some_iff.mp found
  obtain ⟨⟨inner, behind⟩, closed, equal⟩ := Option.map_eq_some_iff.mp closed
  simp only [Prod.mk.injEq] at equal
  rw [name?_source named, closing?_source closed, ← equal.1, ← equal.2]
  simp [source]

/-- The three parts of a split make up the text. -/
theorem first?_source {afterLetter : Bool} {text : Text} {split : Split}
    (found : first? afterLetter text = some split) :
    text = split.before ++ (split.call.source ++ split.after) := by
  -- The call stands at the front, or the first character goes before what is found in the rest.
  induction text generalizing afterLetter split with
  | nil => simp [first?] at found
  | cons char rest ih =>
    simp only [first?] at found
    split at found
    · rename_i call after here
      have atFront : atFront? (char :: rest) = some (call, after) := by
        split at here
        · exact here
        · exact absurd here (by simp)
      simp only [Option.some.injEq] at found
      rw [atFront?_source atFront, ← found]
      rfl
    · obtain ⟨later, found, equal⟩ := Option.map_eq_some_iff.mp found
      rw [ih found, ← equal]
      rfl

/-- A call is never empty, as it has its parentheses. -/
theorem source_length_pos (call : Call) : 0 < call.source.length := by
  simp only [source, List.length_append, List.length_cons]
  omega

end Call

end Docket
