import Docket.Proofs.Json.Scalar

/-! JSON values that the writer keeps whole read back as the values they were written from. -/

namespace Docket.Json

/-- Space in front of a solid character is skipped. -/
theorem skipSpace_append {front : Text} (space : ∀ blank ∈ front, isSpace blank = true)
    {char : Char} (rest : Text) (solid : isSpace char = false) :
    skipSpace (front ++ char :: rest) = char :: rest := by
  -- All of the front is dropped, and the solid character stops the dropping.
  rw [skipSpace, List.dropWhile_append_of_pos space]
  simp [solid]

/-- A line break with its indentation is nothing but space. -/
theorem newline_space (level : Nat) : ∀ blank ∈ newline level, isSpace blank = true := by
  -- The text is a line feed followed by spaces.
  intro blank inside
  rcases List.mem_cons.mp inside with rfl | inside
  · rfl
  · rw [List.eq_of_mem_replicate inside]
    rfl

/-- Without space at its front a text stays as it is. -/
theorem skipSpace_solid {char : Char} (rest : Text) (solid : isSpace char = false) :
    skipSpace (char :: rest) = char :: rest := by
  simp [skipSpace, solid]

/-- A digit or a minus sign opens a number. -/
theorem value?_number (fuel : Nat) {char : Char} (rest : Text)
    (lead : char = '-' ∨ char.isDigit = true) :
    value? (fuel + 1) (char :: rest) = number? (char :: rest) := by
  -- None of the characters that open other values is a minus sign or a digit.
  rcases lead with rfl | digit
  · simp [value?, skipSpace, isSpace]
  · have other : ∀ mark : Char, mark.isDigit = false → char ≠ mark := by
      rintro mark apart rfl
      exact absurd digit (by rw [apart]; exact Bool.false_ne_true)
    have solid : isSpace char = false := by
      simp [isSpace, other ' ' rfl, other '\n' rfl, other '\t' rfl, other '\r' rfl]
    simp [value?, skipSpace_solid rest solid, other '"' rfl, other '[' rfl, other '{' rfl,
      other 't' rfl, other 'f' rfl, other 'n' rfl]

/-- Space in front of a value does not matter. -/
theorem value?_spaced (fuel : Nat) {front : Text} (space : ∀ blank ∈ front, isSpace blank = true)
    {char : Char} (rest : Text) (solid : isSpace char = false) :
    value? fuel (front ++ char :: rest) = value? fuel (char :: rest) := by
  -- Reading a value starts by skipping space.
  cases fuel with
  | zero => simp [value?]
  | succ fuel => simp only [value?, skipSpace_append space rest solid, skipSpace_solid rest solid]

mutual

/-- Whether every part of a value is written as what it is. Numbers without a value and strings
that are no texts are not. -/
def isWhole : Json → Bool
  | decimal => false
  | garbled => false
  | array items => itemsWhole items
  | object members => membersWhole members
  | _ => true

/-- Whether all items of an array are whole. -/
def itemsWhole : List Json → Bool
  | [] => true
  | item :: rest => isWhole item && itemsWhole rest

/-- Whether the values of all members of an object are whole. -/
def membersWhole : List (Text × Json) → Bool
  | [] => true
  | (_, value) :: rest => isWhole value && membersWhole rest

end

mutual

/-- How much fuel reading a value takes. -/
def weight : Json → Nat
  | array items => 1 + itemsWeight items
  | object members => 1 + membersWeight members
  | _ => 1

/-- How much fuel reading the items of an array takes. -/
def itemsWeight : List Json → Nat
  | [] => 0
  | item :: rest => 1 + max (weight item) (itemsWeight rest)

/-- How much fuel reading the members of an object takes. -/
def membersWeight : List (Text × Json) → Nat
  | [] => 0
  | (_, value) :: rest => 1 + max (weight value) (membersWeight rest)

end

/-- The written form of a value begins with a character that is neither space nor a bracket that
closes. -/
theorem write_cons (level : Nat) (json : Json) : ∃ char rest,
    write level json = char :: rest ∧ isSpace char = false ∧ char ≠ ']' := by
  -- Every kind of value has a first character of its own.
  cases json with
  | null => exact ⟨_, _, rfl, rfl, by decide⟩
  | bool value => cases value <;> exact ⟨_, _, rfl, rfl, by decide⟩
  | integer value =>
    obtain ⟨char, rest, written, lead⟩ := ofInt_cons value
    -- A number begins with a sign or a digit, and no mark is one of them.
    have other : ∀ mark : Char, mark ≠ '-' → mark.isDigit = false → char ≠ mark := by
      rintro mark unsigned apart rfl
      rcases lead with same | digit
      · exact unsigned same
      · rw [apart] at digit
        exact Bool.false_ne_true digit
    refine ⟨char, rest, by rw [write, written], ?_, other ']' (by decide) rfl⟩
    simp [isSpace, other ' ' (by decide) rfl, other '\n' (by decide) rfl,
      other '\t' (by decide) rfl, other '\r' (by decide) rfl]
  | decimal => exact ⟨_, _, rfl, rfl, by decide⟩
  | string text => exact ⟨_, _, rfl, rfl, by decide⟩
  | array items => cases items <;> exact ⟨_, _, rfl, rfl, by decide⟩
  | object members => cases members <;> exact ⟨_, _, rfl, rfl, by decide⟩
  | garbled => exact ⟨_, _, rfl, rfl, by decide⟩

/-- A word is read up to its end. -/
theorem word_append (expected : String) (value : Json) (after : Text) :
    word expected value (expected.toList ++ after) = some (value, after) := by
  -- The reader compares the front of the text and drops as much of it.
  have front : Text.startsWith (expected.toList ++ after) expected.toList = true :=
    List.isPrefixOf_iff_prefix.mpr (List.prefix_append _ _)
  have left : (expected.toList ++ after).drop expected.length = after := by
    rw [← String.length_toList]
    exact List.drop_left
  rw [word, if_pos front, left]

/-- Space in front of the written form of a value does not matter. -/
theorem value?_spaced_write (fuel level : Nat) (json : Json) (after : Text) {front : Text}
    (space : ∀ blank ∈ front, isSpace blank = true) :
    value? fuel (front ++ (write level json ++ after)) =
      value? fuel (write level json ++ after) := by
  -- The written form begins with a solid character, where the skipping stops.
  obtain ⟨char, rest, written, solid, -⟩ := write_cons level json
  rw [written, List.cons_append]
  exact value?_spaced fuel space (rest ++ after) solid

/-- An item is followed by a comma or by a line break. -/
theorem endsNumber_items (level outer : Nat) (rest : List Json) (after : Text) :
    EndsNumber (writeItems level rest ++ (newline outer ++ after)) := by
  cases rest with
  | nil => exact .cons _ (by decide)
  | cons item rest => exact .cons _ (by decide)

/-- A member is followed by a comma or by a line break. -/
theorem endsNumber_members (level outer : Nat) (rest : List (Text × Json)) (after : Text) :
    EndsNumber (writeMembers level rest ++ (newline outer ++ after)) := by
  cases rest with
  | nil => exact .cons _ (by decide)
  | cons member rest => exact .cons _ (by decide)

/-- Reading every item of a list that was written item by item gives the list. -/
theorem mapM_map {α β : Type} (put : α → β) (get? : β → Option α)
    (inverse : ∀ item, get? (put item) = some item) (items : List α) :
    (items.map put).mapM get? = some items := by
  -- No item fails, so the items are collected one after the other.
  induction items with
  | nil => rfl
  | cons item rest ih => simp [inverse, ih]

/-- Members whose names are all texts make an object. -/
theorem ofMembers_some (members : List (Text × Json)) :
    ofMembers (members.map fun member => (some member.1, member.2)) = object members := by
  -- Every name is there, so every member is kept.
  rw [ofMembers, mapM_map]
  exact fun _ => rfl

mutual

/-- Reading the written form of a value gives the value and leaves what follows. -/
theorem value?_write (json : Json) (level : Nat) {fuel : Nat} {after : Text}
    (whole : isWhole json = true) (enough : weight json ≤ fuel) (ends : EndsNumber after) :
    value? fuel (write level json ++ after) = some (json, after) := by
  -- Every kind of value takes one unit of fuel for itself.
  cases fuel with
  | zero => cases json <;> simp [weight] at enough
  | succ fuel =>
    cases json with
    | null =>
      -- The first letter tells which word it must be.
      have read := word_append "ull" null after
      simp only [write, value?, skipSpace]
      exact read
    | bool value =>
      cases value with
      | true => exact word_append "rue" (bool true) after
      | false => exact word_append "alse" (bool false) after
    | integer value =>
      -- A digit or a minus sign leads to the reader of numbers.
      obtain ⟨char, rest, written, lead⟩ := ofInt_cons value
      have read := number?_ofInt value ends
      rw [write]
      rw [written, List.cons_append] at read ⊢
      rw [value?_number fuel _ lead, read]
    | decimal => simp [isWhole] at whole
    | string text =>
      have read := stringTail?_escape text after
      simp [write, quote, value?, skipSpace, isSpace, read]
    | array items =>
      cases items with
      | nil => simp [write, value?, skipSpace, isSpace]
      | cons first rest =>
        have least : itemsWeight (first :: rest) ≤ fuel := by
          simp only [weight] at enough
          omega
        have read := items?_write first rest (level + 1) level after
          (by simpa [isWhole] using whole) least
        obtain ⟨char, tail, written, solid, open_⟩ := write_cons (level + 1) first
        rw [written] at read
        -- The reader looks behind the space whether the array is closed at once.
        have inner := skipSpace_append (newline_space (level + 1))
          (tail ++ (writeItems (level + 1) rest ++ (newline level ++ ']' :: after))) solid
        simp only [List.cons_append] at read
        simp only [write, written, List.cons_append, List.append_assoc, List.nil_append]
        rw [value?, skipSpace_solid _ (by rfl)]
        simp only [inner]
        simp [open_, read]
    | object members =>
      cases members with
      | nil => simp [write, value?, skipSpace, isSpace]
      | cons member rest =>
        obtain ⟨name, value⟩ := member
        have least : membersWeight ((name, value) :: rest) ≤ fuel := by
          simp only [weight] at enough
          omega
        have read := memberList?_write name value rest (level + 1) level after
          (by simpa [isWhole] using whole) least
        -- Behind the space stands the quote of the first name.
        have inner := skipSpace_append (newline_space (level + 1))
          (name.flatMap escape ++ '"' :: ':' :: ' ' :: (write (level + 1) value ++
            (writeMembers (level + 1) rest ++ (newline level ++ '}' :: after))))
          (by rfl : isSpace '"' = false)
        simp only [quote, List.cons_append, List.append_assoc, List.nil_append] at read
        simp only [write, quote, List.cons_append, List.append_assoc, List.nil_append]
        rw [value?, skipSpace_solid _ (by rfl)]
        simp only [inner]
        simp only [read, Option.map_some]
        rw [ofMembers_some]
        rfl
    | garbled => simp [isWhole] at whole
termination_by fuel

/-- Reading the items of an array gives them all and leaves what follows the bracket. -/
theorem items?_write (first : Json) (rest : List Json) (level outer : Nat) {fuel : Nat}
    (after : Text) (whole : itemsWhole (first :: rest) = true)
    (enough : itemsWeight (first :: rest) ≤ fuel) :
    items? fuel (newline level ++ (write level first ++ (writeItems level rest ++
      (newline outer ++ ']' :: after)))) = some (first :: rest, after) := by
  obtain ⟨wholeFirst, wholeRest⟩ := Bool.and_eq_true_iff.mp whole
  cases fuel with
  | zero => simp [itemsWeight] at enough
  | succ fuel =>
    have cost : weight first ≤ fuel ∧ itemsWeight rest ≤ fuel := by
      simp only [itemsWeight] at enough
      omega
    -- The first item is read, and then a comma or the bracket decides how it goes on.
    have read := value?_write first level wholeFirst cost.1
      (endsNumber_items level outer rest (']' :: after))
    rw [items?, value?_spaced_write _ _ _ _ (newline_space level), read]
    -- Behind the last item the bracket closes; behind any other one a comma comes.
    cases rest with
    | nil =>
      have closed := skipSpace_append (newline_space outer) after (by rfl : isSpace ']' = false)
      simp [writeItems, closed]
    | cons second rest =>
      have later := items?_write second rest level outer after wholeRest cost.2
      simp only [writeItems, List.cons_append, List.append_assoc]
      rw [skipSpace_solid _ (by rfl)]
      simp [later]
termination_by fuel

/-- Reading the members of an object gives them all and leaves what follows the brace. -/
theorem memberList?_write (name : Text) (value : Json) (rest : List (Text × Json))
    (level outer : Nat) {fuel : Nat} (after : Text)
    (whole : membersWhole ((name, value) :: rest) = true)
    (enough : membersWeight ((name, value) :: rest) ≤ fuel) :
    memberList? fuel (newline level ++ (quote name ++ (':' :: ' ' :: (write level value ++
      (writeMembers level rest ++ (newline outer ++ '}' :: after)))))) =
      some (((name, value) :: rest).map fun member => (some member.1, member.2), after) := by
  obtain ⟨wholeValue, wholeRest⟩ := Bool.and_eq_true_iff.mp whole
  cases fuel with
  | zero => simp [membersWeight] at enough
  | succ fuel =>
    have cost : weight value ≤ fuel ∧ membersWeight rest ≤ fuel := by
      simp only [membersWeight] at enough
      omega
    -- The name is read, then the colon, and then the value behind one space.
    have read := value?_write value level wholeValue cost.1
      (endsNumber_members level outer rest ('}' :: after))
    -- The writer puts one space behind the colon.
    have blank : ∀ blank ∈ [' '], isSpace blank = true := by simp [isSpace]
    have spaced := value?_spaced_write fuel level value (writeMembers level rest ++
      (newline outer ++ '}' :: after)) blank
    rw [List.singleton_append] at spaced
    simp only [quote, List.cons_append, List.append_assoc, List.nil_append]
    rw [memberList?, skipSpace_append (newline_space level) _ (by rfl)]
    simp only [stringTail?_escape]
    rw [skipSpace_solid _ (by rfl)]
    simp only [spaced, read]
    -- Behind the last member the brace closes; behind any other one a comma comes.
    cases rest with
    | nil =>
      have closed := skipSpace_append (newline_space outer) after (by rfl : isSpace '}' = false)
      simp [writeMembers, closed]
    | cons second rest =>
      obtain ⟨next, other⟩ := second
      have later := memberList?_write next other rest level outer after wholeRest cost.2
      simp only [quote, List.cons_append, List.append_assoc, List.nil_append] at later
      simp only [writeMembers, quote, List.cons_append, List.append_assoc, List.nil_append]
      rw [skipSpace_solid _ (by rfl)]
      simp [later]
termination_by fuel

end

mutual

/-- Every unit of fuel is worth a character. -/
theorem weight_le_length (json : Json) (level : Nat) :
    weight json ≤ (write level json).length := by
  -- A value has a character of its own beside the characters of its parts.
  cases json with
  | null => simp [weight, write]
  | bool value => cases value <;> simp [weight, write]
  | integer value =>
    obtain ⟨char, rest, written, -⟩ := ofInt_cons value
    simp [weight, write, written]
  | decimal => simp [weight, write]
  | string text => simp [weight, write, quote]
  | array items =>
    cases items with
    | nil => simp [weight, itemsWeight, write]
    | cons first rest =>
      -- The brackets are worth the array, and the items are worth their own weights.
      have head := weight_le_length first (level + 1)
      have tail := itemsWeight_le_length rest (level + 1)
      simp only [weight, itemsWeight, write, newline, List.length_cons, List.length_append]
      omega
  | object members =>
    cases members with
    | nil => simp [weight, membersWeight, write]
    | cons member rest =>
      obtain ⟨name, value⟩ := member
      have head := weight_le_length value (level + 1)
      have tail := membersWeight_le_length rest (level + 1)
      simp only [weight, membersWeight, write, newline, List.length_cons, List.length_append]
      omega
  | garbled => simp [weight, write]

/-- The fuel for items is worth their characters. -/
theorem itemsWeight_le_length (items : List Json) (level : Nat) :
    itemsWeight items ≤ (writeItems level items).length := by
  -- Every item comes with a separator or the line break behind the bracket.
  cases items with
  | nil => simp [itemsWeight]
  | cons item rest =>
    have head := weight_le_length item level
    have tail := itemsWeight_le_length rest level
    simp only [itemsWeight, writeItems, newline, List.length_cons, List.length_append]
    omega

/-- The fuel for members is worth their characters. -/
theorem membersWeight_le_length (members : List (Text × Json)) (level : Nat) :
    membersWeight members ≤ (writeMembers level members).length := by
  -- Every member comes with its name beside its value.
  cases members with
  | nil => simp [membersWeight]
  | cons member rest =>
    obtain ⟨name, value⟩ := member
    have head := weight_le_length value level
    have tail := membersWeight_le_length rest level
    simp only [membersWeight, writeMembers, newline, List.length_cons, List.length_append]
    omega

end

/-- The written form of a whole value reads back as that value. -/
theorem read?_render {json : Json} (whole : isWhole json = true) :
    read? json.render = some json := by
  -- The length of the text gives the reader more fuel than the value takes.
  have cost := weight_le_length json 0
  have ends : EndsNumber [] := by
    intro char head
    exact absurd head (by simp)
  have enough : weight json ≤ 2 * (write 0 json).length + 1 := by omega
  have read := value?_write json 0 whole enough ends
  rw [List.append_nil] at read
  -- Nothing is left behind the value.
  unfold read? render
  rw [read]
  rfl

end Docket.Json
