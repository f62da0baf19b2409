import Docket.Proofs.Expression.Reference
import Docket.Proofs.Field.Forward
import Docket.Proofs.Field.Report

/-! Passes over fields without calls and without loops settle: every pass takes values one reference
farther, and no way along references is longer than there are fields. -/

namespace Docket

open Relation

namespace Dependency

variable {fields : List Field} {name : Text} {depth : Nat}

/-- Every way along references from a name passes `depth` declared names at most. -/
def EndsWithin (fields : List Field) : Nat → Text → Prop
  | 0, name => name ∉ fields.map Field.name
  | depth + 1, name => ∀ target, Refers fields name target → EndsWithin fields depth target

/-- A bound on the ways from a name may be raised. -/
theorem EndsWithin.succ (ends : EndsWithin fields depth name) :
    EndsWithin fields (depth + 1) name := by
  induction depth generalizing name with
  | zero => exact fun target refers => absurd refers.declares ends
  | succ depth ih => exact fun target refers => ih (ends target refers)

theorem EndsWithin.mono {more : Nat} (ends : EndsWithin fields depth name) (le : depth ≤ more) :
    EndsWithin fields more name := by
  induction le with
  | refl => exact ends
  | step _ ih => exact ih.succ

/-- Undeclared names lead nowhere. -/
theorem endsWithin_of_undeclared (undeclared : name ∉ fields.map Field.name) :
    EndsWithin fields depth name :=
  have ends : EndsWithin fields 0 name := undeclared
  ends.mono (Nat.zero_le depth)

/-- If the ways from a name pass more than `depth` declared names, one of them shows this. -/
theorem exists_way_of_not_endsWithin (long : ¬ EndsWithin fields depth name) :
    ∃ rest : List Text, rest.length = depth ∧ (name :: rest).IsChain (Refers fields) ∧
      name :: rest ⊆ fields.map Field.name := by
  induction depth generalizing name with
  | zero =>
    have declared : name ∈ fields.map Field.name := not_not.mp long
    exact ⟨[], rfl, List.isChain_singleton name, by simpa using declared⟩
  | succ depth ih =>
    simp only [EndsWithin, not_forall] at long
    -- The way goes on from a target whose own ways are too long by one less.
    obtain ⟨target, refers, long⟩ := long
    obtain ⟨rest, length_eq, chain, declared⟩ := ih long
    exact ⟨target :: rest, by rw [List.length_cons, length_eq], chain.cons_cons refers,
      List.cons_subset.mpr ⟨refers.declares, declared⟩⟩

/-- Without loops no way passes more declared names than there are fields. -/
theorem endsWithin_of_acyclic (acyclic : ∀ name, ¬ TransGen (Refers fields) name name)
    (name : Text) : EndsWithin fields fields.length name := by
  by_contra long
  obtain ⟨rest, length_eq, chain, declared⟩ := exists_way_of_not_endsWithin long
  -- A name that comes twice on a way leads back to itself.
  have distinct : (name :: rest).Nodup := by
    refine (pairwise_transGen chain).imp fun {one other} onward same => ?_
    exact acyclic one (same ▸ onward)
  have short := (distinct.subperm declared).length_le
  rw [List.length_cons, List.length_map, length_eq] at short
  omega

end Dependency

attribute [ext] Desk

namespace Desk

open Dependency

variable {engine : Engine} {now : Instant} {fields : List Field} {desk left right : Desk}
  {field : Field} {name : Text} {depth : Nat}

/-- The value of a field is the text of its expression, which holds no call. -/
def IsPlain (field : Field) : Prop :=
  field.source = .expression ∧ Call.occursIn field.expression = false

/-- A plain field is worth its expression with the references replaced, and changes nothing else. -/
theorem fieldValue_of_isPlain (plain : IsPlain field) (desk : Desk) :
    desk.fieldValue engine now field =
      (desk.bindings.substitute field.expression, desk.resources) := by
  obtain ⟨source, callFree⟩ := plain
  have formula : field.formula = field.expression := by simp [Field.formula, source]
  unfold fieldValue
  -- An empty expression is not evaluated, and has the empty value all the same.
  split
  · rename_i empty
    rw [List.isEmpty_iff.mp empty, Variables.substitute_nil]
  · simp [formula, Engine.evaluate, Engine.scope, Scope.evaluate, Scope.callsIn, callFree]

/-- Desks that agree on names up to a depth agree, when passes over them come to a field, on those
names and on the names one reference farther that these passes have defined. -/
theorem get?_stage (plain : ∀ field ∈ fields, IsPlain field) (later : Instant)
    (agree : ∀ name, EndsWithin fields depth name →
      left.bindings.get? name = right.bindings.get? name)
    (position : Nat) (bound : position ≤ fields.length)
    (reached : EndsWithin fields depth name ∨
      (EndsWithin fields (depth + 1) name ∧ name ∈ (fields.take position).map Field.name)) :
    (pass engine now (fields.take position) left).bindings.get? name =
      (pass engine later (fields.take position) right).bindings.get? name := by
  -- The induction is on the field that comes next, and the name is free: a reference is looked up
  -- among what the fields before have defined.
  induction position generalizing name with
  | zero =>
    have ends : EndsWithin fields depth name := by simpa using reached
    exact agree name ends
  | succ position ih =>
    have inside : position < fields.length := bound
    have before {name : Text} := @ih name (Nat.le_of_lt inside)
    rw [pass_take_succ fields left position inside, pass_take_succ fields right position inside,
      get?_evaluateField, get?_evaluateField]
    by_cases here : name = fields[position].name
    · subst here
      have isPlain := plain _ (List.getElem_mem inside)
      have ends : EndsWithin fields (depth + 1) fields[position].name :=
        reached.elim .succ And.left
      rw [if_pos rfl, if_pos rfl, fieldValue_of_isPlain isPlain, fieldValue_of_isPlain isPlain]
      refine congrArg some (Variables.substitute_congr fun target referred => before ?_)
      -- An edge spends one of the depth; the name's own earlier definition is of this pass.
      rcases reference_cases inside referred with undeclared | edge | ⟨rfl, earlier⟩
      · exact .inl (endsWithin_of_undeclared undeclared)
      · exact .inl (ends target edge)
      · exact .inr ⟨ends, earlier⟩
    · rw [if_neg here, if_neg here]
      refine before (reached.imp id (And.imp id fun defined => ?_))
      rw [List.take_succ_eq_append_getElem inside, List.map_append, List.map_singleton,
        List.mem_append, List.mem_singleton] at defined
      exact defined.resolve_right here

/-- A pass carries agreement one reference farther. -/
theorem get?_pass_congr (plain : ∀ field ∈ fields, IsPlain field) (later : Instant)
    (agree : ∀ name, EndsWithin fields depth name →
      left.bindings.get? name = right.bindings.get? name)
    (ends : EndsWithin fields (depth + 1) name) :
    (pass engine now fields left).bindings.get? name =
      (pass engine later fields right).bindings.get? name := by
  -- A name that no field declares agrees already; a declared one is stored by the end of the pass.
  have reached : EndsWithin fields depth name ∨ (EndsWithin fields (depth + 1) name ∧
      name ∈ (fields.take fields.length).map Field.name) := by
    rw [List.take_length]
    by_cases declared : name ∈ fields.map Field.name
    · exact .inr ⟨ends, declared⟩
    · exact .inl (endsWithin_of_undeclared declared)
  simpa only [List.take_length] using get?_stage plain later agree fields.length le_rfl reached

/-- Passes, one after the other, at their own times. -/
def passes (engine : Engine) (fields : List Field) (times : List Instant) (desk : Desk) : Desk :=
  times.foldl (fun desk now => pass engine now fields desk) desk

theorem passes_concat (times : List Instant) (last : Instant) :
    passes engine fields (times ++ [last]) desk =
      pass engine last fields (passes engine fields times desk) := by
  rw [passes, List.foldl_append]
  rfl

/-- One more pass leaves the values of all names whose ways along references are no longer than the
number of passes before it. -/
theorem get?_passes (plain : ∀ field ∈ fields, IsPlain field) (times : List Instant)
    (ends : EndsWithin fields times.length name) :
    (passes engine fields times desk).bindings.get? name =
      (pass engine now fields (passes engine fields times desk)).bindings.get? name := by
  -- The last two passes begin with desks that agree up to one reference less.
  induction times using List.reverseRecOn generalizing now name with
  | nil => exact ((pass_published fields desk).others name ends).1.symm
  | append_singleton times last ih =>
    rw [List.length_append, List.length_singleton] at ends
    rw [passes_concat]
    exact get?_pass_congr plain now (fun name ends => ih ends) ends

/-- A pass over plain fields uses no resources. -/
theorem resources_pass (plain : ∀ field ∈ fields, IsPlain field) (desk : Desk) :
    (pass engine now fields desk).resources = desk.resources := by
  induction fields generalizing desk with
  | nil => rfl
  | cons field rest ih =>
    have here : (desk.evaluateField engine now field).resources = desk.resources :=
      congrArg Prod.snd (fieldValue_of_isPlain (plain field (.head _)) desk)
    rw [pass_cons, ih fun other inside => plain other (.tail _ inside), here]

/-- A pass gives its names the same values in the document as among the variables. -/
theorem document_pass (mirrored : name ∈ fields.map Field.name ∨
      desk.document.get? name = desk.bindings.get? name) :
    (pass engine now fields desk).document.get? name =
      (pass engine now fields desk).bindings.get? name := by
  induction fields generalizing desk with
  | nil => exact mirrored.resolve_left List.not_mem_nil
  | cons field rest ih =>
    rw [pass_cons]
    refine ih ?_
    -- The first field gives its own name one value in both, and leaves all others.
    by_cases here : name = field.name
    · exact .inr (by simp [evaluateField, publish, here])
    · rw [List.map_cons, List.mem_cons, or_iff_right here] at mirrored
      exact mirrored.imp id fun same => by simpa [evaluateField, publish, here] using same

/-- A pass over names that are all there keeps the order of variables and document. -/
theorem keys_pass (known : ∀ field ∈ fields,
      field.name ∈ desk.bindings.keys ∧ field.name ∈ desk.document.keys) :
    (pass engine now fields desk).bindings.keys = desk.bindings.keys ∧
      (pass engine now fields desk).document.keys = desk.document.keys := by
  induction fields generalizing desk with
  | nil => exact ⟨rfl, rfl⟩
  | cons field rest ih =>
    -- A name that is there keeps its place when its value is stored.
    obtain ⟨bound, written⟩ := known field (.head _)
    have bindings : (desk.evaluateField engine now field).bindings.keys = desk.bindings.keys :=
      Sheet.keys_put_of_mem bound _
    have document : (desk.evaluateField engine now field).document.keys = desk.document.keys :=
      Sheet.keys_put_of_mem written _
    have later := @ih (desk.evaluateField engine now field) fun other inside => by
      rw [bindings, document]
      exact known other (.tail _ inside)
    rw [bindings, document] at later
    exact later

/-- A pass over plain fields leaves the desk as it is if it leaves the value of every variable, and
the document holds the values of all fields. -/
theorem pass_eq_self (plain : ∀ field ∈ fields, IsPlain field)
    (stable : ∀ name, (pass engine now fields desk).bindings.get? name = desk.bindings.get? name)
    (mirrored : ∀ name ∈ fields.map Field.name,
      desk.document.get? name = desk.bindings.get? name) :
    pass engine now fields desk = desk := by
  -- A pass defines all names of its fields, so they were there before it.
  have known (name : Text) (declared : name ∈ fields.map Field.name) :
      (desk.bindings.get? name).isSome = true := by
    rw [← stable name, Option.isSome_iff_ne_none]
    exact fun missing => (get?_pass_eq_none_iff.mp missing).2 declared
  obtain ⟨bindingKeys, documentKeys⟩ := @keys_pass engine now fields desk fun field inside => by
    have declared := List.mem_map_of_mem (f := Field.name) inside
    rw [Sheet.mem_keys_iff, Sheet.mem_keys_iff, mirrored _ declared]
    exact ⟨known _ declared, known _ declared⟩
  -- The same names in the same order with the same values are the same variables, and the same
  -- document.
  have bindings : (pass engine now fields desk).bindings = desk.bindings :=
    Sheet.ext_of_get? bindingKeys stable
  have document : (pass engine now fields desk).document = desk.document := by
    refine Sheet.ext_of_get? documentKeys fun name => ?_
    by_cases declared : name ∈ fields.map Field.name
    · rw [document_pass (.inl declared), stable, mirrored name declared]
    · exact ((pass_published fields desk).others name declared).2
  exact Desk.ext bindings document (resources_pass plain desk)

/-- Passes over fields without calls, of which none is in a loop, change nothing any more after as
many passes as there are fields: not the variables, not the document, and no resources either. The
names may be defined several times, and every pass has its own time. -/
theorem pass_stable_of_acyclic (engine : Engine) (fields : List Field) (desk : Desk)
    (plain : ∀ field ∈ fields,
      field.source = .expression ∧ Call.occursIn field.expression = false)
    (acyclic : (DependencyReport.ofFields fields).cycles = [])
    (times : List Instant) (enough : fields.length ≤ times.length) (now : Instant) :
    pass engine now fields (passes engine fields times desk) = passes engine fields times desk := by
  -- The search for cycles finds a loop wherever there is one.
  have noLoop (name : Text) : ¬ TransGen (Refers fields) name name := fun back =>
    (DependencyReport.cycles_exact fields).2.2.1.mpr ⟨name, back⟩ acyclic
  refine pass_eq_self plain (fun name => ?_) fun name declared => ?_
  · exact (get?_passes plain times ((endsWithin_of_acyclic noLoop name).mono enough)).symm
  · -- A declared name means that there was a pass, and the last one has written the document.
    rcases List.eq_nil_or_concat times with rfl | ⟨front, last, rfl⟩
    · obtain rfl : fields = [] := List.length_eq_zero_iff.mp (Nat.le_zero.mp enough)
      exact absurd declared List.not_mem_nil
    · rw [List.concat_eq_append, passes_concat]
      exact document_pass (.inl declared)

/-- Three fields, each of which refers to the next one, need all three passes. -/
theorem pass_stable_of_acyclic_chain :
    let engine : Engine := ⟨.empty, .standard, none, .none⟩
    let fields : List Field := [⟨"A".toList, "<B>!".toList, .expression⟩,
      ⟨"B".toList, "<C><Unknown>".toList, .expression⟩, ⟨"C".toList, "x".toList, .expression⟩]
    let desk : Desk := ⟨.empty, .ofPairs [("C".toList, [])], engine.resources .inMemory default⟩
    let after (count : Nat) := passes engine fields (List.replicate count default) desk
    ((∀ field ∈ fields, field.source = .expression ∧ Call.occursIn field.expression = false) ∧
      (DependencyReport.ofFields fields).cycles = []) ∧
    pass engine default fields (after 3) = after 3 ∧
    (pass engine default fields (after 2)).document ≠ (after 2).document := by
  intro engine fields desk after
  -- That no pass changes more after three is the general theorem; that two are not enough is
  -- evaluated.
  have plain : ∀ field ∈ fields,
      field.source = .expression ∧ Call.occursIn field.expression = false := by
    decide +kernel
  have acyclic : (DependencyReport.ofFields fields).cycles = [] := by decide +kernel
  refine ⟨⟨plain, acyclic⟩, ?_, by decide +kernel⟩
  exact pass_stable_of_acyclic engine fields desk plain acyclic _ (by decide) default

end Desk

end Docket
