import Docket.Proofs.Text.Search
import Docket.Text.Case

/-!
Parts of a text in lower case.

Two things make the lower-case form of a text more than the forms of its characters. The capital I
with a dot becomes two characters, so that what stands behind it moves. And the form of a capital
sigma depends on what surrounds it: it is another one at the end of a word. So a part of a text has
the same lower-case form there as alone exactly if each of its capital sigmas is at the end of a
word in both places or in none.
-/

namespace Docket.Text

variable {passed front part back ahead : Text}

/-- A capital sigma is final if a cased character comes before it and none comes after it. What
comes before it is kept nearest character first. -/
def isFinalSigma (passed ahead : Text) : Bool :=
  meetsCased passed && !meetsCased ahead

/-- The lower-case form of a character between two texts. -/
def lowerBetween (passed : Text) (char : Char) (ahead : Text) : Text :=
  if char.toNat == 0x3A3 then
    if isFinalSigma passed ahead then [Char.ofNat 0x3C2] else [Char.ofNat 0x3C3]
  else lowerChar char

/-- The lower-case form of a part between two texts. -/
def lowerWithin (passed part ahead : Text) : Text :=
  match part with
  | [] => []
  | char :: rest =>
    lowerBetween passed char (rest ++ ahead) ++ lowerWithin (char :: passed) rest ahead

theorem lowerAfter_cons (passed : Text) (char : Char) (rest : Text) :
    lowerAfter passed (char :: rest) =
      lowerBetween passed char rest ++ lowerAfter (char :: passed) rest :=
  rfl

/-- The lower-case form of two parts is that of the first one before the second, and that of the
second one behind the first. -/
theorem lowerAfter_append (passed part ahead : Text) :
    lowerAfter passed (part ++ ahead) =
      lowerWithin passed part ahead ++ lowerAfter (part.reverse ++ passed) ahead := by
  induction part generalizing passed with
  | nil => rfl
  | cons char rest ih =>
    rw [List.cons_append, lowerAfter_cons, ih, lowerWithin, List.append_assoc,
      List.reverse_cons, List.append_assoc, List.singleton_append]

/-- A text stands alone before nothing. -/
theorem lowerWithin_nil (passed part : Text) :
    lowerWithin passed part [] = lowerAfter passed part := by
  have whole := lowerAfter_append passed part []
  rw [List.append_nil, lowerAfter, List.append_nil] at whole
  exact whole.symm

/-- Only the capital I with a dot becomes two characters. -/
theorem length_lowerBetween (passed : Text) (char : Char) (ahead : Text) :
    (lowerBetween passed char ahead).length = if char = 'İ' then 2 else 1 := by
  have dotted : char = 'İ' ↔ char.toNat = 0x130 := Char.toNat_inj.symm
  unfold lowerBetween
  split
  · rename_i sigma
    -- Both forms of a capital sigma are one character.
    have other : ¬ char = 'İ' := by
      rw [dotted]
      intro code
      rw [code] at sigma
      exact absurd sigma (by decide)
    rw [if_neg other]
    split <;> rfl
  · simp only [lowerChar, dotted, beq_iff_eq]
    split <;> rfl

/-- The length of a lower-case form does not depend on what surrounds the text. -/
theorem length_lowerWithin (passed part ahead : Text) :
    (lowerWithin passed part ahead).length = part.length + part.count 'İ' := by
  induction part generalizing passed with
  | nil => rfl
  | cons char rest ih =>
    rw [lowerWithin, List.length_append, length_lowerBetween, ih, List.length_cons,
      List.count_cons]
    -- Only the capital I with a dot becomes two characters.
    by_cases dotted : char = 'İ'
    · simp only [dotted, if_true, beq_self_eq_true]
      omega
    · simp only [if_neg dotted, beq_iff_eq]
      omega

/-- A character has the same form between two other texts, unless it is a capital sigma that is
final in one place only. -/
theorem lowerBetween_eq_iff {passed ahead front back : Text} {char : Char} :
    lowerBetween passed char ahead = lowerBetween front char back ↔
      (char = 'Σ' → isFinalSigma passed ahead = isFinalSigma front back) := by
  unfold lowerBetween
  by_cases sigma : char = 'Σ'
  · -- The two forms of a sigma are different characters.
    subst sigma
    cases isFinalSigma passed ahead <;> cases isFinalSigma front back <;> decide
  · have other : ¬ (char.toNat == 0x3A3) = true := by
      intro code
      exact sigma (Char.toNat_inj.mp (beq_iff_eq.mp code))
    simp only [if_neg other, sigma, false_imp_iff]

/-- A part has the same form between two other texts exactly if each capital sigma in it is final in
both places or in none. -/
theorem lowerWithin_eq_iff {passed ahead front back : Text} :
    lowerWithin passed part ahead = lowerWithin front part back ↔
      ∀ before after, part = before ++ 'Σ' :: after →
        isFinalSigma (before.reverse ++ passed) (after ++ ahead) =
          isFinalSigma (before.reverse ++ front) (after ++ back) := by
  induction part generalizing passed front with
  | nil =>
    refine ⟨fun _ before after none_ => ?_, fun _ => rfl⟩
    exact absurd none_ (by simp)
  | cons char rest ih =>
    -- The forms of a character are equally long, so the rests begin at the same place.
    have apart : lowerWithin passed (char :: rest) ahead = lowerWithin front (char :: rest) back ↔
        lowerBetween passed char (rest ++ ahead) = lowerBetween front char (rest ++ back) ∧
          lowerWithin (char :: passed) rest ahead = lowerWithin (char :: front) rest back := by
      refine ⟨fun same => List.append_inj same ?_, fun ⟨first, others⟩ => ?_⟩
      · rw [length_lowerBetween, length_lowerBetween]
      · rw [lowerWithin, lowerWithin, first, others]
    rw [apart, lowerBetween_eq_iff, ih]
    constructor
    · rintro ⟨first, others⟩ before after split
      -- The sigma in question is the first character, or it comes later.
      cases before with
      | nil =>
        obtain ⟨here, rfl⟩ := List.cons.inj split
        exact first here
      | cons head before =>
        obtain ⟨rfl, rfl⟩ := List.cons.inj split
        simpa using others before after rfl
    · -- The first character is the case without a text before it.
      intro all
      refine ⟨fun here => ?_, fun before after split => ?_⟩
      · exact all [] rest (by rw [here, List.nil_append])
      · simpa using all (char :: before) after (by rw [split, List.cons_append])

/-- Each capital sigma of a part is final in the whole text exactly if it is final in the part
alone. -/
def KeepsSigmas (front part back : Text) : Prop :=
  ∀ before after, part = before ++ 'Σ' :: after →
    isFinalSigma (before.reverse ++ front.reverse) (after ++ back) =
      isFinalSigma before.reverse after

/-- Without a capital sigma there is none to change. -/
theorem keepsSigmas_of_not_mem (free : 'Σ' ∉ part) : KeepsSigmas front part back := by
  rintro before after rfl
  exact absurd (List.mem_append_right before List.mem_cons_self) free

/-- The lower-case form of a part of a text stands behind that of what comes before it exactly if
the part keeps its sigmas. -/
theorem occursAt_lower_iff :
    OccursAt (lower part) (lower (front ++ part ++ back)) (front.length + front.count 'İ') ↔
      KeepsSigmas front part back := by
  have same : KeepsSigmas front part back ↔
      lowerWithin front.reverse part back = lowerWithin [] part [] := by
    rw [lowerWithin_eq_iff]
    simp only [List.append_nil, KeepsSigmas]
  -- The lower-case form of the text is that of its parts, each with what surrounds it.
  have whole : lower (front ++ part ++ back) = lowerWithin [] front (part ++ back) ++
      (lowerWithin front.reverse part back ++
        lowerAfter (part.reverse ++ front.reverse) back) := by
    rw [lower, List.append_assoc, lowerAfter_append, lowerAfter_append, List.append_nil]
  rw [same, whole, lower, ← lowerWithin_nil]
  constructor
  · rintro ⟨before, behind, split, size⟩
    rw [List.append_assoc] at split
    -- What comes before is equally long on both sides, and so are the two forms of the part.
    obtain ⟨-, rest⟩ := List.append_inj split (by rw [length_lowerWithin, size])
    exact (List.append_inj rest (by rw [length_lowerWithin, length_lowerWithin])).1
  · intro form
    exact ⟨_, _, by rw [form, List.append_assoc], length_lowerWithin _ _ _⟩

/-- Behind a front part, a search in lower case finds the part no later than a search that minds the
case would, exactly if the part keeps its form and its place, or another match comes before it. -/
theorem position_lower_le_iff :
    0 < position 0 (lower (front ++ part ++ back)) (lower part) ∧
        position 0 (lower (front ++ part ++ back)) (lower part) ≤ front.length + 1 ↔
      'İ' ∉ front ∧ KeepsSigmas front part back ∨
        ∃ index < front.length + 1, index ≠ front.length + front.count 'İ' ∧
          OccursAt (lower part) (lower (front ++ part ++ back)) index := by
  rw [position_le_iff, ← occursAt_lower_iff, ← List.count_eq_zero]
  constructor
  · rintro ⟨index, below, -, occurs⟩
    -- A match is the image of the part in the text, or it is another one.
    by_cases here : index = front.length + front.count 'İ'
    · subst here
      exact .inl ⟨by omega, occurs⟩
    · exact .inr ⟨index, below, here, occurs⟩
  · -- A match at an index puts the position at most one further.
    rintro (⟨undotted, occurs⟩ | ⟨index, below, -, occurs⟩)
    · exact ⟨_, by omega, Nat.zero_le _, occurs⟩
    · exact ⟨index, below, Nat.zero_le _, occurs⟩

end Docket.Text
