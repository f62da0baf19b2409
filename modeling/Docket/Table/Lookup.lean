/-! Looking a key up in a list of pairs. -/

namespace Docket.Table

variable {κ α : Type} [BEq κ] [LawfulBEq κ]

/-- A key stands in a list of pairs exactly if a value is found for it. -/
theorem mem_map_fst_iff {key : κ} {entries : List (κ × α)} :
    key ∈ entries.map Prod.fst ↔ (entries.lookup key).isSome = true := by
  rw [List.lookup_isSome_iff]
  simp only [List.mem_map, beq_iff_eq]
  exact exists_congr fun _ => and_congr_right fun _ => eq_comm

variable [DecidableEq κ]

/-- The head of a list of pairs answers for its own key and hides nothing else. -/
theorem lookup_cons_pair (key other : κ) (value : α) (rest : List (κ × α)) :
    ((key, value) :: rest).lookup other =
      if other = key then some value else rest.lookup other := by
  by_cases same : other = key
  · simp [same]
  · have apart : (other == key) = false := beq_false_of_ne same
    simp [List.lookup_cons, apart, same]

/-- Without the entries of a key nothing is found for that key, and what was found for the others.
-/
theorem lookup_filter_ne (key other : κ) (entries : List (κ × α)) :
    (entries.filter (·.1 ≠ key)).lookup other =
      if other = key then none else entries.lookup other := by
  -- Both sides walk along the entries, and the left one passes those of the key.
  induction entries with
  | nil => simp
  | cons entry rest ih =>
    obtain ⟨first, value⟩ := entry
    by_cases dropped : first = key
    · simp only [List.filter_cons, dropped, ne_eq, not_true_eq_false, decide_false,
        Bool.false_eq_true, if_false, ih, lookup_cons_pair]
      split <;> rfl
    · simp only [List.filter_cons, dropped, ne_eq, not_false_eq_true, decide_true, if_true, ih,
        lookup_cons_pair]
      by_cases here : other = first
      · simp [here, dropped]
      · simp [here]

end Docket.Table
