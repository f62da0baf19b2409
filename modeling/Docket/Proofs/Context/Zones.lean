import Docket.Context.Basic
import Docket.Proofs.Table.Entries
import Mathlib.Data.List.Induction
import Mathlib.Data.List.Nodup

/-!
The variables of recognized zones.

Each zone gives its text to its own name and, unless that begins with `OCR_`, to a second name that
does. Later zones write over earlier ones. So a zone keeps its own name exactly if no zone behind it
writes another text under its second name there. A second name that is no zone's own name is kept,
and all other variables are left alone.
-/

namespace Docket.Context

variable {zones front back : List (Text × Text)} {zone other : Text × Text} {name : Text}

/-- The second name of a zone has `OCR_` in front of its own name, which has not. -/
def IsSecondName (zone : Text × Text) (name : Text) : Prop :=
  Text.startsWith zone.1 recognized = false ∧ name = recognized ++ zone.1

instance (zone : Text × Text) (name : Text) : Decidable (IsSecondName zone name) :=
  inferInstanceAs (Decidable (_ ∧ _))

/-- A zone gives its text to its own name and to its second one. -/
def Gives (zone : Text × Text) (name : Text) : Prop :=
  name = zone.1 ∨ IsSecondName zone name

instance (zone : Text × Text) (name : Text) : Decidable (Gives zone name) :=
  inferInstanceAs (Decidable (_ ∨ _))

/-- Zones with the same second name have the same name. -/
theorem IsSecondName.unique (one : IsSecondName zone name) (two : IsSecondName other name) :
    zone.1 = other.1 :=
  List.append_cancel_left (one.2.symm.trans two.2)

/-- A zone writes its text under the names that it gives it to, and nothing else. -/
theorem get?_putAll_zoneVariables (bindings : Variables) (zone : Text × Text) (name : Text) :
    (bindings.putAll (zoneVariables zone.1 zone.2)).get? name =
      if Gives zone name then some zone.2 else bindings.get? name := by
  -- The own name is written last.
  by_cases own : name = zone.1
  · subst own
    rw [if_pos (.inl rfl), zoneVariables]
    split <;> simp [Sheet.putAll]
  · by_cases second : IsSecondName zone name
    · rw [if_pos (.inr second), zoneVariables, second.1, if_neg Bool.false_ne_true]
      simp [Sheet.putAll, second.2]
    · have other : ¬ Gives zone name := not_or.mpr ⟨own, second⟩
      rw [if_neg other, zoneVariables]
      split
      · simp [Sheet.putAll, own]
      · rename_i unmarked
        have apart : name ≠ recognized ++ zone.1 := fun same =>
          second ⟨Bool.not_eq_true _ ▸ unmarked, same⟩
        simp [Sheet.putAll, own, apart]

/-- Zones are added behind those that were added before. -/
theorem withZones_append (context : Context) (front back : List (Text × Text)) :
    context.withZones (front ++ back) = (context.withZones front).withZones back := by
  simp only [withZones, setAll, List.flatMap_append, Sheet.putAll_append]

/-- Of the zones that give their text to a name the last one has it. -/
theorem get?_withZones_cases (context : Context) (zones : List (Text × Text)) (name : Text) :
    ((∀ zone ∈ zones, ¬ Gives zone name) ∧
      (context.withZones zones).bindings.get? name = context.bindings.get? name) ∨
    ∃ zone ∈ zones, Gives zone name ∧
      (context.withZones zones).bindings.get? name = some zone.2 := by
  -- The induction takes the zones from the end, since the last one decides.
  induction zones using List.reverseRecOn with
  | nil => exact .inl ⟨List.forall_mem_nil _, rfl⟩
  | append_singleton zones zone ih =>
    have last : (context.withZones (zones ++ [zone])).bindings.get? name =
        if Gives zone name then some zone.2 else (context.withZones zones).bindings.get? name := by
      rw [withZones_append, ← get?_putAll_zoneVariables]
      simp only [withZones, setAll, List.flatMap_singleton]
    rw [last]
    by_cases gives : Gives zone name
    · exact .inr ⟨zone, by simp, gives, if_pos gives⟩
    · -- The last zone leaves the name to those before it.
      rw [if_neg gives]
      rcases ih with ⟨none_, same⟩ | ⟨earlier, inside, given, same⟩
      · refine .inl ⟨fun other inside => ?_, same⟩
        rcases List.mem_append.mp inside with inside | inside
        · exact none_ other inside
        · exact List.mem_singleton.mp inside ▸ gives
      · exact .inr ⟨earlier, List.mem_append_left _ inside, given, same⟩

/-- A zone that was added last has its own name. -/
theorem get?_withZones_last (context : Context) (front : List (Text × Text)) (zone : Text × Text) :
    (context.withZones (front ++ [zone])).bindings.get? zone.1 = some zone.2 := by
  rw [withZones_append]
  simp only [withZones, setAll, List.flatMap_singleton]
  rw [get?_putAll_zoneVariables, if_pos (.inl rfl)]

/-- A zone has its own name, unless a zone behind it has that for its second one. -/
theorem get?_withZones_own (context : Context)
    (distinct : ((front ++ zone :: back).map Prod.fst).Nodup) :
    ((∀ other ∈ back, ¬ IsSecondName other zone.1) ∧
      (context.withZones (front ++ zone :: back)).bindings.get? zone.1 = some zone.2) ∨
    ∃ other ∈ back, IsSecondName other zone.1 ∧
      (context.withZones (front ++ zone :: back)).bindings.get? zone.1 = some other.2 := by
  rw [List.append_cons, withZones_append]
  have own := get?_withZones_last context front zone
  rcases get?_withZones_cases (context.withZones (front ++ [zone])) back zone.1 with
    ⟨none_, same⟩ | ⟨other, inside, gives, same⟩
  · exact .inl ⟨fun other inside second => none_ other inside (.inr second), same.trans own⟩
  · -- The names are different, so it is the second name of the other zone.
    have fresh : zone.1 ≠ other.1 := by
      intro named
      rw [List.map_append, List.map_cons] at distinct
      have behind := (List.nodup_cons.mp distinct.of_append_right).1
      exact behind (named ▸ List.mem_map_of_mem inside)
    exact .inr ⟨other, inside, gives.resolve_left fresh, same⟩

/-- A second name that no zone has for its own belongs to its zone. -/
theorem get?_withZones_second (context : Context) (distinct : (zones.map Prod.fst).Nodup)
    (inside : zone ∈ zones) (second : IsSecondName zone name)
    (fresh : name ∉ zones.map Prod.fst) :
    (context.withZones zones).bindings.get? name = some zone.2 := by
  rcases get?_withZones_cases context zones name with ⟨none_, -⟩ | ⟨last, there, gives, same⟩
  · exact absurd (.inr second) (none_ zone inside)
  · -- The zone that wrote the name last has it for its second name, too.
    rcases gives with own | also
    · exact absurd (own ▸ List.mem_map_of_mem there) fresh
    · have one : last = zone :=
        List.inj_on_of_nodup_map distinct there inside (also.unique second)
      rw [same, one]

/--
What the variables of recognized zones are.

For every context and all zones with different names: a zone has its own name exactly if each zone
behind it that has this name for its second one has the same text; else the text of that zone stands
there. A second name that no zone has for its own belongs to its zone, in whichever order the zones
come. Every variable to which no zone gives its text is as before, and so is the number of levels.
-/
theorem withZones_exact (context : Context) {zones : List (Text × Text)}
    (distinct : (zones.map Prod.fst).Nodup) :
    let bindings := (context.withZones zones).bindings
    (∀ front zone back, zones = front ++ zone :: back →
      (bindings.get? zone.1 = some zone.2 ↔
        ∀ other ∈ back, IsSecondName other zone.1 → other.2 = zone.2) ∧
      ∀ other ∈ back, IsSecondName other zone.1 → bindings.get? zone.1 = some other.2) ∧
    (∀ zone ∈ zones, Text.startsWith zone.1 recognized = false →
      recognized ++ zone.1 ∉ zones.map Prod.fst →
        bindings.get? (recognized ++ zone.1) = some zone.2) ∧
    (∀ name, (∀ zone ∈ zones, ¬ Gives zone name) →
      bindings.get? name = context.bindings.get? name) ∧
    (context.withZones zones).depth = context.depth := by
  intro bindings
  refine ⟨?_, ?_, ?_, rfl⟩
  · rintro front zone back rfl
    -- No zone behind this one has its name, but one may have it for its second name.
    have behind {other : Text × Text} (inside : other ∈ back) : other ∈ front ++ zone :: back :=
      List.mem_append_right front (List.mem_cons_of_mem zone inside)
    rcases get?_withZones_own context distinct with ⟨none_, own⟩ | ⟨last, inside, second, same⟩
    · refine ⟨iff_of_true own fun other inside second => ?_, fun other inside second => ?_⟩
      · exact absurd second (none_ other inside)
      · exact absurd second (none_ other inside)
    · -- Only one zone has this name for its second one.
      have only {other : Text × Text} (there : other ∈ back) (also : IsSecondName other zone.1) :
          last = other :=
        List.inj_on_of_nodup_map distinct (behind inside) (behind there) (second.unique also)
      refine ⟨⟨fun own other there also => ?_, fun all => ?_⟩, fun other there also => ?_⟩
      · rw [← only there also]
        exact Option.some.inj (same.symm.trans own)
      · exact same.trans (congrArg some (all last inside second))
      · rw [← only there also]
        exact same
  · -- The second name is no name of a zone, so no zone writes it but this one.
    intro zone inside unmarked fresh
    exact get?_withZones_second context distinct inside ⟨unmarked, rfl⟩ fresh
  · intro name none_
    rcases get?_withZones_cases context zones name with ⟨-, same⟩ | ⟨zone, inside, gives, -⟩
    · exact same
    · exact absurd gives (none_ zone inside)

/-- A zone keeps its name before one that has it for its second name if both have the same text, or
if it comes later; the time stays. -/
theorem withZones_exact_in_order :
    let context := Context.start ⟨2025, 6, 20, 14, 5, 9⟩ standardDepth
    let zones : List (Text × Text) := [("Betrag".toList, "42,00".toList),
      ("OCR_Datum".toList, "01.02.2025".toList), ("Datum".toList, "01.02.2025".toList),
      ("OCR_Betrag".toList, "43,00".toList), ("Nr".toList, "17".toList)]
    let bindings := (context.withZones zones).bindings
    (zones.map Prod.fst).Nodup ∧
      bindings.get? "Betrag".toList = some "42,00".toList ∧
      bindings.get? "OCR_Datum".toList = some "01.02.2025".toList ∧
      bindings.get? "OCR_Betrag".toList = some "43,00".toList ∧
      bindings.get? "OCR_Nr".toList = some "17".toList ∧
      bindings.get? "Year".toList = context.bindings.get? "Year".toList := by
  intro context zones bindings
  -- Each name is a case of the general theorem, where the zones before it are a front of the list.
  have distinct : (zones.map Prod.fst).Nodup := by decide
  obtain ⟨own, second, others, -⟩ := withZones_exact context distinct
  refine ⟨distinct, (own [] _ _ rfl).1.mpr (by decide),
    (own (zones.take 1) _ _ rfl).1.mpr (by decide),
    (own (zones.take 3) _ _ rfl).1.mpr (by decide), ?_, others _ (by decide)⟩
  exact second ("Nr".toList, "17".toList) (by decide) (by decide) (by decide)

/-- A zone whose name is the second name of a later one loses its text. -/
theorem withZones_loses_zone :
    let context := Context.start ⟨2025, 6, 20, 14, 5, 9⟩ standardDepth
    let lost : Text × Text := ("OCR_A".toList, ['x'])
    let zones := [lost, (['A'], ['y'])]
    (zones.map Prod.fst).Nodup ∧ lost ∈ zones ∧
      (context.withZones zones).bindings.get? lost.1 = some ['y'] ∧
      (context.withZones zones).bindings.get? lost.1 ≠ some lost.2 := by
  decide +kernel

end Docket.Context
