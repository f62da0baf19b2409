import Docket.Proofs.Field.Forward
import Docket.Proofs.Field.Report

/-! Loops without forward references: each goes through a name that is defined again, behind the
first declaration of another name and with a reference to it. -/

namespace Docket

open Relation

namespace Dependency

variable {fields : List Field} {name target : Text} {cycle : List Text}

/-- One name is first declared before another one. -/
def DeclaredBefore (fields : List Field) (one other : Text) : Prop :=
  ∃ place later, FirstDeclared fields one place ∧ FirstDeclared fields other later ∧ place < later

theorem DeclaredBefore.trans {one other third : Text} (left : DeclaredBefore fields one other)
    (right : DeclaredBefore fields other third) : DeclaredBefore fields one third := by
  obtain ⟨place, middle, first, second, before⟩ := left
  obtain ⟨again, later, same, last, after⟩ := right
  -- The name in the middle has one place.
  obtain rfl := second.unique same
  exact ⟨place, later, first, last, before.trans after⟩

theorem DeclaredBefore.irrefl : ¬ DeclaredBefore fields name name := by
  rintro ⟨place, later, first, second, before⟩
  exact before.ne (first.unique second)

/-- No way on which every name is declared before the last one comes back. -/
theorem not_transGen_declaredBefore :
    ¬ TransGen (fun one other => DeclaredBefore fields other one) name name := by
  -- Along the way the declarations only come later.
  have falls {one other : Text}
      (way : TransGen (fun one other => DeclaredBefore fields other one) one other) :
      DeclaredBefore fields other one := by
    induction way with
    | single step => exact step
    | tail _ step earlier => exact step.trans earlier
  exact fun back => DeclaredBefore.irrefl (falls back)

/-- A name is redefined by a target that comes in between: the target is first declared behind the
name, and behind it the name is defined again, with a reference to the target. -/
def Redefines (fields : List Field) (name target : Text) : Prop :=
  ∃ (position : Nat) (inside : position < fields.length), fields[position].name = name ∧
    target ∈ Reference.names fields[position].expression ∧
    DeclaredBefore fields name target ∧ target ∈ (fields.take position).map Field.name

/-- What a name is redefined by is another name. -/
theorem Redefines.ne (redefines : Redefines fields name target) : name ≠ target := by
  rintro rfl
  obtain ⟨_, _, _, _, between, _⟩ := redefines
  exact DeclaredBefore.irrefl between

/-- A redefinition is an edge of the graph. -/
theorem Redefines.refers (redefines : Redefines fields name target) :
    Refers fields name target := by
  have other := redefines.ne.symm
  obtain ⟨position, inside, named, referred, ⟨_, declared, _, place, _⟩, _⟩ := redefines
  exact ⟨position, inside, named, referred, declared, place, .inl other⟩

/-- Where all names are different, none is redefined. -/
theorem not_redefines_of_nodup (distinct : (fields.map Field.name).Nodup) :
    ¬ Redefines fields name target := by
  rintro ⟨position, inside, rfl, _, ⟨first, declared, ⟨bound, same, _⟩, place, before⟩, earlier⟩
  have behind : declared < position := place.lt_iff.mpr earlier
  -- The definition that refers to the target would be the first one, but it comes later.
  have firstListed : first < (fields.map Field.name).length := by rwa [List.length_map]
  have listed : position < (fields.map Field.name).length := by rwa [List.length_map]
  have alike : (fields.map Field.name)[first] = (fields.map Field.name)[position] := by
    rwa [List.getElem_map, List.getElem_map]
  have one : first = position := distinct.getElem_inj_iff.mp alike
  omega

/-- A chain along two relations has a step along the first one or is a chain along the second. -/
theorem exists_step_or_isChain {first second : Text → Text → Prop}
    (chain : cycle.IsChain fun one other => first one other ∨ second one other) :
    (∃ one other, [one, other] <:+: cycle ∧ first one other) ∨ cycle.IsChain second := by
  induction cycle with
  | nil => exact .inr .nil
  | cons one rest ih =>
    -- A step along the first relation is among the later ones, or it is the first one.
    cases rest with
    | nil => exact .inr (.singleton one)
    | cons other rest =>
      obtain ⟨step, chain⟩ := List.isChain_cons_cons.mp chain
      rcases ih chain with ⟨left, right, inside, there⟩ | chain
      · exact .inl ⟨left, right, inside.trans (List.suffix_cons _ _).isInfix, there⟩
      · rcases step with here | step
        · exact .inl ⟨one, other, ⟨[], rest, rfl⟩, here⟩
        · exact .inr (chain.cons_cons step)

end Dependency

namespace DependencyReport

open Dependency

variable {fields : List Field} {name target : Text} {cycle : List Text}

/-- Without forward references an edge leads to a name that is declared before, or it comes from a
redefinition. -/
theorem refers_cases (early : (ofFields fields).forward = []) (refers : Refers fields name target) :
    Redefines fields name target ∨ DeclaredBefore fields target name := by
  obtain ⟨position, inside, rfl, referred, declared, place, counts⟩ := refers
  -- The reference stands behind the declaration, or it would be listed.
  have behind : declared < position := by
    by_contra late
    have listed := (mem_forward_iff inside referred place).mpr ⟨Nat.not_lt.mp late, rfl⟩
    exact List.not_mem_nil (early ▸ listed.1)
  obtain ⟨first, here⟩ := exists_firstDeclared (List.mem_map_of_mem (List.getElem_mem inside))
  rcases Nat.lt_trichotomy first declared with before | same | after
  · exact .inl ⟨position, inside, rfl, referred, ⟨first, declared, here, place, before⟩,
      place.lt_iff.mp behind⟩
  · -- Two names with one place are the same, and then the reference is no edge.
    subst same
    obtain ⟨_, named, -⟩ := here
    obtain ⟨_, targeted, -⟩ := place
    rcases counts with other | late
    · exact absurd (targeted.symm.trans named) other
    · omega
  · exact .inr ⟨declared, first, place, here, after⟩

/-- Without forward references every circuit goes through a redefinition. -/
theorem exists_redefines (early : (ofFields fields).forward = [])
    (circuit : IsCircuit (Refers fields) cycle) :
    ∃ name target, [name, target] <:+: cycle ∧ Redefines fields name target := by
  obtain ⟨first, rest, rfl, simple, chain⟩ := circuit
  have steps := chain.imp fun _ _ refers => refers_cases early refers
  -- Otherwise every step leads to a name that is declared before, and there is no way back.
  refine (exists_step_or_isChain steps).resolve_right fun falls => ?_
  have falling : IsCircuit (fun one other => DeclaredBefore fields other one)
      (first :: rest ++ [first]) := ⟨first, rest, rfl, simple, falls⟩
  exact not_transGen_declaredBefore (falling.transGen (.head _) (.head _))

/-- A report is clean if it has no forward references and no cycles. -/
theorem isClean_eq_true_iff {report : DependencyReport} :
    report.isClean = true ↔ report.forward = [] ∧ report.cycles = [] := by
  simp [isClean]

/-- A loop needs a forward reference or a redefinition. Without forward references every reported
cycle has a step from a name to another one by which the name is redefined. So the report is clean
exactly if it has no forward references and no name that is redefined by a target leads back from
it; if all names are different, it is clean exactly if it has no forward references. -/
theorem isClean_iff_forward (fields : List Field) :
    let report := ofFields fields
    (report.forward = [] → ∀ cycle ∈ report.cycles, ∃ name target,
      [name, target] <:+: cycle ∧ Redefines fields name target ∧ name ≠ target) ∧
    (report.isClean = true ↔ report.forward = [] ∧
      ∀ name target, Redefines fields name target → ¬ ReflTransGen (Refers fields) target name) ∧
    ((fields.map Field.name).Nodup → (report.isClean = true ↔ report.forward = [])) := by
  intro report
  have ⟨_, _, loops, circuits, _⟩ := cycles_exact fields
  have needs (early : report.forward = []) : ∀ cycle ∈ report.cycles, ∃ name target,
      [name, target] <:+: cycle ∧ Redefines fields name target ∧ name ≠ target := by
    intro cycle listed
    obtain ⟨name, target, step, redefines⟩ := exists_redefines early (circuits cycle listed)
    exact ⟨name, target, step, redefines, redefines.ne⟩
  have clean : report.isClean = true ↔ report.forward = [] ∧
      ∀ name target, Redefines fields name target →
        ¬ ReflTransGen (Refers fields) target name := by
    rw [isClean_eq_true_iff]
    refine and_congr_right fun early => ⟨fun acyclic name target redefines back => ?_, ?_⟩
    · -- The way back and the redefinition together are a loop.
      exact loops.mpr ⟨name, TransGen.head' redefines.refers back⟩ acyclic
    · intro apart
      refine List.eq_nil_iff_forall_not_mem.mpr fun cycle listed => ?_
      -- The redefinition is a step of the cycle, and the cycle leads back.
      obtain ⟨name, target, step, redefines, -⟩ := needs early cycle listed
      have back : TransGen (Refers fields) target name :=
        (circuits cycle listed).transGen (step.subset (by simp)) (step.subset (by simp))
      exact apart name target redefines back.to_reflTransGen
  refine ⟨needs, clean, fun distinct => clean.trans (and_iff_left ?_)⟩
  exact fun name target redefines => absurd redefines (not_redefines_of_nodup distinct)

/-- A field that is continued through another one closes a loop, although every reference is to an
earlier field. -/
theorem cycles_of_continued_field :
    let fields : List Field := [⟨"N".toList, "1".toList, .expression⟩,
      ⟨"M".toList, "<N>".toList, .expression⟩, ⟨"N".toList, "<M>".toList, .expression⟩]
    let report := ofFields fields
    report.forward = [] ∧ report.cycles = [["N".toList, "M".toList, "N".toList]] ∧
      report.isClean = false := by
  decide +kernel

end DependencyReport

end Docket
