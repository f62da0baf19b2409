import Docket.Text.Basic

/-! The order of texts by code point, which is also the order of their UTF-8 bytes. -/

namespace Docket.Text

/-- Texts are ordered by the first character in which they differ; a front part comes first. -/
def before : Text → Text → Bool
  | _, [] => false
  | [], _ :: _ => true
  | a :: left, b :: right => a.val < b.val || (a == b && before left right)

@[simp] theorem before_nil (left : Text) : before left [] = false := by
  cases left <;> rfl

@[simp] theorem nil_before_cons (b : Char) (right : Text) : before [] (b :: right) = true := rfl

theorem cons_before_cons (a b : Char) (left right : Text) :
    before (a :: left) (b :: right) = true ↔
      a.val < b.val ∨ (a = b ∧ before left right = true) := by
  simp [before]

@[simp] theorem before_irrefl (text : Text) : before text text = false := by
  -- Equal heads leave the tails to decide, and the empty text is not before itself.
  induction text with
  | nil => rfl
  | cons a rest ih => simp [before, ih]

theorem before_trans {first second third : Text} (left : before first second = true)
    (right : before second third = true) : before first third = true := by
  -- The earlier of the two deciding positions decides for the outer pair as well.
  induction first generalizing second third with
  | nil =>
    cases third with
    | nil => simp at right
    | cons c third => rfl
  | cons a first ih =>
    cases second with
    | nil => simp at left
    | cons b second =>
      cases third with
      | nil => simp at right
      | cons c third =>
        rw [cons_before_cons] at *
        rcases left with less | ⟨same, left⟩
        · rcases right with more | ⟨equal, _⟩
          · exact .inl (UInt32.lt_trans less more)
          · exact .inl (equal ▸ less)
        · subst same
          rcases right with more | ⟨equal, right⟩
          · exact .inl more
          · exact .inr ⟨equal, ih left right⟩

/-- Of two different texts one comes before the other. -/
theorem before_or_before {left right : Text} (different : left ≠ right) :
    before left right = true ∨ before right left = true := by
  -- The first position at which they differ decides; if there is none, the shorter one comes first.
  induction left generalizing right with
  | nil =>
    cases right with
    | nil => exact absurd rfl different
    | cons b right => exact .inl rfl
  | cons a left ih =>
    cases right with
    | nil => exact .inr rfl
    | cons b right =>
      simp only [cons_before_cons]
      by_cases same : a = b
      · subst same
        have rest : left ≠ right := fun equal => different (by rw [equal])
        rcases ih rest with less | more
        · exact .inl (.inr ⟨rfl, less⟩)
        · exact .inr (.inr ⟨rfl, more⟩)
      · -- Characters with different code points are strictly ordered.
        have apart : a.val ≠ b.val := fun equal => same (Char.ext equal)
        rcases UInt32.lt_or_lt_of_ne apart with less | more
        · exact .inl (.inl less)
        · exact .inr (.inl more)

end Docket.Text
