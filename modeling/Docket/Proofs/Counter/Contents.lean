import Docket.Counter.Table
import Docket.Proofs.Text.Bytes
import Mathlib.Data.List.Basic

/-! Flat maps of counters, what can be asked of them, and what the only right answers are. -/

namespace Docket.Counter

/-- What can be asked of a counter table. -/
inductive Operation where
  | advance (category : Category) (name : Text) (start step : Int64)
  | put (category : Category) (name : Text) (value : Int64)
  | remove (category : Category) (name : Text)
  | clear (category : Category)
  | complete
  | get (category : Category) (name : Text)
  | list
  | listCategory (category : Category)
deriving DecidableEq, Repr

/-- What a table answers. -/
inductive Reply where
  | advanced (result : Except Failure Int64)
  | held (value : Option Int64)
  | cleared (count : Nat)
  | done
  | listed (counters : List Listed)
  | group (entries : List (Text × Int64))
deriving DecidableEq

/-- The position of a category in storage order. -/
def Category.place (category : Category) : Nat :=
  all.idxOf category

/-- The order in which counters are listed: by category, and then by the bytes of their names. -/
def Listed.Before (left right : Listed) : Prop :=
  left.category.place < right.category.place ∨
    left.category = right.category ∧ Text.utf8 left.name < Text.utf8 right.name

namespace Listed

/-- The order is strict. -/
theorem Before.irrefl (counter : Listed) : ¬ counter.Before counter := by
  simp [Before, List.lt_irrefl]

/-- Of two counters only one comes before the other. -/
theorem Before.asymm {left right : Listed} (ahead : left.Before right) : ¬ right.Before left := by
  rintro (behind | ⟨same, behind⟩)
  · rcases ahead with less | ⟨same, -⟩
    · omega
    · simp [same] at behind
  · rcases ahead with less | ⟨-, ahead⟩
    · simp [same] at less
    · exact List.lt_asymm ahead behind

end Listed

/-- A flat map: the value of each counter that there is. -/
abbrev Contents := Category → Text → Option Int64

namespace Contents

/-- Changes what is held under one name of one category. -/
def put (contents : Contents) (category : Category) (name : Text) (value : Option Int64) :
    Contents :=
  fun other another => if other = category ∧ another = name then value else contents other another

/-- What an operation makes of a flat map. -/
def after (contents : Contents) : Operation → Contents
  | .advance category name start step =>
    let next := ((contents category name).getD start).toInt + step.toInt
    if Text.fits next then contents.put category name (some (.ofInt next)) else contents
  | .put category name value => contents.put category name (some value)
  | .remove category name => contents.put category name none
  | .clear category => fun other name => if other = category then none else contents other name
  | .complete | .get .. | .list | .listCategory _ => contents

/-- A listing has each counter of a flat map once, in strictly increasing order. -/
structure Lists (contents : Contents) (counters : List Listed) : Prop where
  sorted : counters.Pairwise Listed.Before
  exact : ∀ counter, counter ∈ counters ↔
    contents counter.category counter.name = some counter.value

/-- There is only one listing of a flat map. -/
theorem Lists.unique {contents : Contents} {counters others : List Listed}
    (left : contents.Lists counters) (right : contents.Lists others) : counters = others := by
  -- Both have the same members, each once, and the order leaves no choice.
  have distinct {counters : List Listed} (sorted : counters.Pairwise Listed.Before) :
      counters.Nodup :=
    sorted.imp fun ahead same => (same ▸ ahead).irrefl
  have same := (List.perm_ext_iff_of_nodup (distinct left.sorted) (distinct right.sorted)).mpr
    fun counter => (left.exact counter).trans (right.exact counter).symm
  exact same.eq_of_pairwise (fun _ _ _ _ ahead behind => absurd behind ahead.asymm)
    left.sorted right.sorted

/-- The counters of one category in a listing. -/
def restrict (counters : List Listed) (category : Category) : List (Text × Int64) :=
  (counters.filter (·.category = category)).map fun counter => (counter.name, counter.value)

/-- What an operation on a flat map is to be answered with. -/
def Answers (contents : Contents) (operation : Operation) (reply : Reply) : Prop :=
  match operation with
  | .advance category name start step =>
    let current := (contents category name).getD start
    reply = .advanced (if Text.fits (current.toInt + step.toInt) then .ok current
      else .error (.overflow category name))
  | .put category name _ | .remove category name | .get category name =>
    reply = .held (contents category name)
  | .clear category =>
    ∃ counters, contents.Lists counters ∧ reply = .cleared (restrict counters category).length
  | .complete => reply = .done
  | .list => ∃ counters, contents.Lists counters ∧ reply = .listed counters
  | .listCategory category =>
    ∃ counters, contents.Lists counters ∧ reply = .group (restrict counters category)

/-- There is only one answer to an operation on a flat map. -/
theorem Answers.unique {contents : Contents} {operation : Operation} {reply other : Reply}
    (left : contents.Answers operation reply) (right : contents.Answers operation other) :
    reply = other := by
  -- What is told about a listing is told about the only one.
  cases operation with
  | advance | put | remove | get | complete => exact left.trans right.symm
  | clear | list | listCategory =>
    obtain ⟨counters, lists, rfl⟩ := left
    obtain ⟨others, listsToo, rfl⟩ := right
    rw [lists.unique listsToo]

/-- Operations on a flat map with what they are answered with, from one map to another. -/
inductive Run : Contents → List Operation → List Reply → Contents → Prop where
  | done (contents : Contents) : Run contents [] [] contents
  | step {contents last : Contents} {operation : Operation} {reply : Reply}
      {rest : List Operation} {replies : List Reply} (answered : contents.Answers operation reply)
      (later : Run (contents.after operation) rest replies last) :
      Run contents (operation :: rest) (reply :: replies) last

/-- There is only one way to carry out operations on a flat map. -/
theorem Run.unique {contents last final : Contents} {operations : List Operation}
    {replies others : List Reply} (left : Run contents operations replies last)
    (right : Run contents operations others final) : replies = others ∧ last = final := by
  -- The first operation has one answer and comes to one map, from which the later ones go on.
  induction left generalizing others with
  | done contents =>
    cases right
    exact ⟨rfl, rfl⟩
  | step answered _ ih =>
    cases right with
    | step answeredToo laterToo =>
      obtain ⟨rfl, rfl⟩ := ih laterToo
      rw [answered.unique answeredToo]
      exact ⟨rfl, rfl⟩

end Contents

end Docket.Counter
