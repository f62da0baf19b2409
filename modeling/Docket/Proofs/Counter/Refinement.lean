import Docket.Proofs.Counter.Contents
import Docket.Proofs.Counter.Effect
import Docket.Proofs.Counter.Session

/-! A counter table cannot be told from a flat map of its counters, whatever is asked of it. -/

namespace Docket.Counter

namespace Table

/-- Carries out an operation. What is written or removed is answered with what was there. -/
def carryOut (table : Table) : Operation → Reply × Table
  | .advance category name start step =>
    let (result, next) := table.advance category name start step
    (.advanced result, next)
  | .put category name value =>
    (.held ((table.group category).get? name), table.put category name value)
  | .remove category name =>
    (.held ((table.group? category).bind (·.get? name)), table.remove category name)
  | .clear category =>
    (.cleared (((table.group? category).map Index.size).getD 0), table.clear category)
  | .complete => (.done, table.complete)
  | .get category name => (.held (table.get? category name), table)
  | .list => (.listed table.list, table)
  | .listCategory category => (.group (table.listCategory category), table)

/-- Carries out operations in turn. -/
def run (table : Table) : List Operation → List Reply × Table
  | [] => ([], table)
  | operation :: rest =>
    let (reply, next) := table.carryOut operation
    let (replies, last) := next.run rest
    (reply :: replies, last)

/-- The flat map of the counters of a table. -/
def contents (table : Table) : Contents :=
  table.get?

/-- The listing of a table has the counters of the table. -/
theorem lists_list (table : Table) : table.contents.Lists table.list where
  sorted := by
    -- Categories come in storage order, and names in order within each of them.
    rw [list, List.pairwise_flatMap]
    constructor
    · intro category _
      have names := List.pairwise_map.mp (table.group category).sorted
      rw [List.pairwise_map]
      exact names.imp fun ahead => .inr ⟨rfl, Text.before_iff_utf8_lt.mp ahead⟩
    · have places : Category.all.Pairwise (fun left right => left.place < right.place) := by decide
      refine places.imp fun ahead left first right second => .inl ?_
      obtain ⟨_, -, rfl⟩ := List.mem_map.mp first
      obtain ⟨_, -, rfl⟩ := List.mem_map.mp second
      exact ahead
  -- A counter is listed in its own category and in no other one.
  exact := by
    rintro ⟨category, name, value⟩
    have known : category ∈ Category.all := by cases category <;> decide
    simp only [list, List.mem_flatMap, List.mem_map, Prod.exists, Listed.mk.injEq, contents, get?,
      ← Index.mem_entries_iff]
    constructor
    · rintro ⟨_, -, _, _, inside, rfl, rfl, rfl⟩
      exact inside
    · exact fun inside => ⟨category, known, name, value, inside, rfl, rfl, rfl⟩

/-- The listing of a category has the counters of the category in the listing of the table. -/
theorem listCategory_eq (table : Table) (category : Category) :
    table.listCategory category = Contents.restrict table.list category := by
  -- Of the three parts of the listing only that of the category is left.
  cases category <;>
    simp [Contents.restrict, list, Category.all, List.filter_map, Function.comp_def]

/-- Setting a counter changes that counter. -/
theorem contents_put (table : Table) (category : Category) (name : Text) (value : Int64) :
    (table.put category name value).contents = table.contents.put category name (some value) := by
  funext other another
  exact table.get?_put category other name another value

/-- Putting back the group of a category, which at least mentions the category, changes nothing. -/
theorem contents_putGroup_self (table : Table) (category : Category) :
    (table.putGroup category (table.group category)).contents = table.contents := by
  funext other name
  simp only [contents, get?, group_putGroup]
  split
  · rename_i same
    rw [same]
  · rfl

/-- Mentioning every category changes no counter. -/
theorem contents_complete (table : Table) : table.complete.contents = table.contents := by
  -- Each step of the fold puts back a group.
  unfold complete
  induction Category.all generalizing table with
  | nil => rfl
  | cons category rest ih =>
    rw [List.foldl_cons, ih, contents_putGroup_self]

/-- An advance that fails changes no counter. -/
theorem contents_advance_error {table : Table} {category : Category} {name : Text}
    {start step : Int64} {failure : Failure}
    (failed : (table.advance category name start step).1 = .error failure) :
    (table.advance category name start step).2.contents = table.contents := by
  -- A failed advance may mention a category, but puts no counter into it.
  simp only [advance] at failed ⊢
  split at failed
  · exact absurd failed (by simp)
  · rename_i beyond
    rw [if_neg beyond]
    exact table.contents_putGroup_self category

/-- An operation on a table answers as on its flat map, and comes to what it comes to there. -/
theorem carryOut_refines (table : Table) (operation : Operation) :
    table.contents.Answers operation (table.carryOut operation).1 ∧
      (table.carryOut operation).2.contents = table.contents.after operation := by
  -- One case for each operation: what it answers, and the flat map that it leaves.
  cases operation with
  | advance category name start step =>
    have held : table.contents category name = table.get? category name := rfl
    simp only [carryOut, advance, Contents.Answers, Contents.after, held]
    by_cases fits : Text.fits (((table.get? category name).getD start).toInt + step.toInt) = true
    · rw [if_pos fits, if_pos fits, if_pos fits]
      exact ⟨rfl, table.contents_put category name _⟩
    · rw [if_neg fits, if_neg fits, if_neg fits]
      -- An advance beyond 64 bits only mentions the category.
      exact ⟨rfl, table.contents_putGroup_self category⟩
  | put category name value =>
    exact ⟨rfl, table.contents_put category name value⟩
  | remove category name =>
    refine ⟨?_, ?_⟩
    · -- A category that is not mentioned has nothing to remove.
      simp only [carryOut, Contents.Answers, contents, get?, Table.group]
      cases table.group? category <;> rfl
    · funext other another
      exact table.get?_remove category other name another
  | clear category =>
    refine ⟨⟨table.list, table.lists_list, ?_⟩, ?_⟩
    · rw [← table.listCategory_eq category]
      simp only [carryOut, listCategory, Table.group]
      cases table.group? category <;> rfl
    · funext other name
      exact table.get?_clear category other name
  | complete => exact ⟨rfl, table.contents_complete⟩
  | get category name => exact ⟨rfl, rfl⟩
  | list => exact ⟨⟨table.list, table.lists_list, rfl⟩, rfl⟩
  | listCategory category =>
    refine ⟨⟨table.list, table.lists_list, ?_⟩, rfl⟩
    rw [← table.listCategory_eq category]
    rfl

/-- Operations on a table answer as on its flat map, and come to what they come to there. -/
theorem run_refines (table : Table) (operations : List Operation) :
    Contents.Run table.contents operations (table.run operations).1
      (table.run operations).2.contents := by
  -- The step is carried out on a table whose flat map is that of the run so far.
  induction operations generalizing table with
  | nil => exact .done _
  | cons operation rest ih =>
    obtain ⟨answered, contents⟩ := table.carryOut_refines operation
    have later := ih (table.carryOut operation).2
    rw [contents] at later
    exact .step answered later

/-- Tables with the same counters answer alike, whichever categories they mention. -/
theorem run_congr {left right : Table} (same : left.contents = right.contents)
    (operations : List Operation) : (left.run operations).1 = (right.run operations).1 ∧
      (left.run operations).2.contents = (right.run operations).2.contents := by
  have refines := left.run_refines operations
  rw [same] at refines
  exact refines.unique (right.run_refines operations)

/-- Whatever is asked of a table, its answers and what it comes to are those of the flat map of its
counters, and the flat map allows no others. From there on: an advance that fails leaves every
counter and the listing as they are; clearing a category tells how many counters it had and spares
the other categories; and the listing has each counter once, in strictly increasing order, and those
of a category are its part of the listing. -/
theorem run_as_flat_map (table : Table) (operations : List Operation) :
    let replies := (table.run operations).1
    let after := (table.run operations).2
    (∀ others last, Contents.Run table.contents operations others last ↔
      others = replies ∧ last = after.contents) ∧
    (∀ category name start step failure,
      (after.advance category name start step).1 = .error failure →
        let kept := (after.advance category name start step).2
        (∀ other another, kept.get? other another = after.get? other another) ∧
          kept.list = after.list) ∧
    (∀ category, (after.carryOut (.clear category)).1 =
        .cleared (after.listCategory category).length ∧
      ∀ other name, (after.clear category).get? other name =
        if other = category then none else after.get? other name) ∧
    after.contents.Lists after.list ∧
    ∀ category, after.listCategory category = Contents.restrict after.list category := by
  intro replies after
  -- The replies of the table are one run of the flat map, and the flat map has no other.
  have refines := table.run_refines operations
  refine ⟨fun others last => ⟨fun run => run.unique refines, ?_⟩, ?_, fun category => ⟨?_, ?_⟩,
    after.lists_list, after.listCategory_eq⟩
  · rintro ⟨rfl, rfl⟩
    exact refines
  · -- The flat map stays as it is, and with it everything that can be read from it.
    intro category name start step failure failed
    have kept := after.contents_advance_error failed
    refine ⟨fun other another => congrFun (congrFun kept other) another, ?_⟩
    have lists := Table.lists_list (after.advance category name start step).2
    rw [kept] at lists
    exact lists.unique after.lists_list
  · -- As many counters are cleared as the category lists.
    simp only [carryOut, listCategory, Table.group]
    cases after.group? category <;> rfl
  · exact fun other name => after.get?_clear category other name

/-- A counter at the upper end of 64 bits stays there, and so does the listing; a category that was
not mentioned has no counters to clear. -/
theorem run_as_flat_map_full :
    let table : Table := { custom := some (.ofPairs [("b".toList, 7), ("a".toList, 9)]) }
    let operations : List Operation := [.put .auto "n".toList 9223372036854775807,
      .advance .auto "n".toList 0 1, .clear .system, .remove .custom "c".toList, .list]
    let after := (table.run operations).2
    (table.run operations).1 = [.held none, .advanced (.error (.overflow .auto "n".toList)),
      .cleared 0, .held none, .listed [⟨.auto, "n".toList, 9223372036854775807⟩,
        ⟨.custom, "a".toList, 9⟩, ⟨.custom, "b".toList, 7⟩]] ∧
    (after.advance .auto "n".toList 0 1).1 = .error (.overflow .auto "n".toList) ∧
    (after.advance .auto "n".toList 0 1).2.list = after.list := by
  intro table operations after
  -- Only the failure is evaluated; what it spares is the third part of the general theorem.
  have failed : (after.advance .auto "n".toList 0 1).1 = .error (.overflow .auto "n".toList) := by
    decide +kernel
  have kept := (run_as_flat_map table operations).2.1 _ _ _ _ _ failed
  exact ⟨by decide +kernel, failed, kept.2⟩

end Table

/-- The operation on its table that a store is asked for. -/
def Request.operation : Request → Operation
  | .advance category name start step => .advance category name start step
  | .set category name value | .reset category name value => .put category name value
  | .delete category name => .remove category name
  | .clear category => .clear category

/-- What a store tells of the reply of its table. Of what was written over nothing is told. -/
def Request.answer? : Request → Reply → Option Answer
  | .advance .., .advanced (.ok value) => some (.value value)
  | .set .., .held _ | .reset .., .held _ => some .done
  | .delete .., .held value => some (.deleted value.isSome)
  | .clear _, .cleared count => some (.cleared count)
  | _, _ => none

namespace Store

/-- A change that is answered has been adopted, and the answer is the one that was to be given. -/
theorem commit_map_eq_ok {α : Type} {store next : Store} {answer : α} {change : α → Answer}
    {got : Answer} {table : Table} {disk after : Disk}
    (done : ((store.commit answer table disk).1.map change, (store.commit answer table disk).2) =
      (.ok got, next, after)) : change answer = got ∧ next.table = table := by
  -- A refused change has no answer, so the change was adopted.
  rcases store.commit_cases answer table disk with ⟨last, adopted⟩ | ⟨path, last, -, refused⟩
  · rw [adopted] at done
    obtain ⟨same, rest⟩ := Prod.mk.inj done
    obtain ⟨rfl, -⟩ := Prod.mk.inj rest
    exact ⟨Except.ok.inj same, rfl⟩
  · rw [refused] at done
    exact absurd (Prod.mk.inj done).1 (by simp [Except.map])

/-- A store that answers a request has carried out the operation on its table. -/
theorem serve_carryOut {store next : Store} {request : Request} {disk after : Disk}
    {answer : Answer} (served : store.serve request disk = (.ok answer, next, after)) :
    request.answer? (store.table.carryOut request.operation).1 = some answer ∧
      next.table = (store.table.carryOut request.operation).2 := by
  -- Every request commits the table that the operation comes to.
  cases request with
  | advance category name start step =>
    simp only [serve, advance] at served
    simp only [Request.operation, Table.carryOut]
    cases advanced : store.table.advance category name start step with
    | mk outcome moved =>
      rw [advanced] at served
      cases outcome with
      -- An overflow is not answered.
      | error failure => simp [Except.map] at served
      | ok value =>
        obtain ⟨rfl, adopted⟩ := commit_map_eq_ok served
        exact ⟨rfl, adopted⟩
  | set category name value | reset category name value =>
    obtain ⟨rfl, adopted⟩ := commit_map_eq_ok served
    exact ⟨rfl, adopted⟩
  -- The answer is what was there before the removal.
  | delete category name =>
    obtain ⟨rfl, adopted⟩ := commit_map_eq_ok served
    have removed : (store.table.carryOut (.remove category name)).1 =
      .held (store.get? category name) := (store.table.carryOut_refines (.remove category name)).1
    rw [Request.operation, removed]
    exact ⟨rfl, adopted⟩
  | clear category =>
    obtain ⟨rfl, adopted⟩ := commit_map_eq_ok served
    refine ⟨?_, adopted⟩
    simp only [Request.operation, Table.carryOut, Table.group]
    cases store.table.group? category <;> rfl

/-- A store that answers a request, whether or not it has a file, answers as the flat map of its
counters, and comes to what that comes to. -/
theorem serve_as_flat_map {store next : Store} {request : Request} {disk after : Disk}
    {answer : Answer} (served : store.serve request disk = (.ok answer, next, after)) :
    (∃ reply, store.table.contents.Answers request.operation reply ∧
      request.answer? reply = some answer) ∧
    next.table.contents = store.table.contents.after request.operation := by
  obtain ⟨answered, adopted⟩ := serve_carryOut served
  obtain ⟨replied, contents⟩ := store.table.carryOut_refines request.operation
  exact ⟨⟨_, replied, answered⟩, adopted ▸ contents⟩

end Store

end Docket.Counter
