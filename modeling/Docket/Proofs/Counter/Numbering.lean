import Docket.Proofs.Counter.Draw
import Docket.Proofs.Counter.Durability
import Docket.Proofs.Counter.Effect

/-! Numbers that are drawn from one counter have no gaps, whatever else is asked of the store, and
also if writes fail and the file is opened again. -/

namespace Docket.Counter

/-- The request does not set, reset, delete or clear the counter. -/
def Request.Spares (category : Category) (name : Text) : Request → Prop
  | .advance .. => True
  | .set other another _ | .reset other another _ | .delete other another =>
    ¬ (other = category ∧ another = name)
  | .clear other => other ≠ category

instance (category : Category) (name : Text) (request : Request) :
    Decidable (request.Spares category name) :=
  match request with
  | .advance .. => inferInstanceAs (Decidable True)
  | .set other another _ | .reset other another _ | .delete other another =>
    inferInstanceAs (Decidable (¬ (other = category ∧ another = name)))
  | .clear other => inferInstanceAs (Decidable (other ≠ category))

/-- The draw from the counter that a request and its answer are, if they are one. -/
def Request.draw? (category : Category) (name : Text) : Request → Answer → Option Draw
  | .advance other another start step, .value value =>
    if other = category ∧ another = name then some ⟨start, step, value⟩ else none
  | _, _ => none

/-- The step does not set, reset, delete or clear the counter. -/
def Command.Spares (category : Category) (name : Text) : Command → Prop
  | .openFile => True
  | .request asked => asked.Spares category name

instance (category : Category) (name : Text) (command : Command) :
    Decidable (command.Spares category name) :=
  match command with
  | .openFile => inferInstanceAs (Decidable True)
  | .request asked => inferInstanceAs (Decidable (asked.Spares category name))

/-- The draw from the counter that a step and its outcome are, if they are one. -/
def Command.draw? (category : Category) (name : Text) : Command → Outcome → Option Draw
  | .request asked, .answered answer => asked.draw? category name answer
  | _, _ => none

namespace Store

/-- What a request comes to for a counter: it is answered, and the counter has moved by the draw if
there was one; or it fails, and the store is as it was. -/
inductive Moves (category : Category) (name : Text) (request : Request) (store : Store) :
    Except Failure Answer × Store × Disk → Prop where
  | answered (answer : Answer) {next : Store} {after : Disk} (backing : next.path = store.path)
      (drawn : Drawn (store.get? category name) (request.draw? category name answer).toList
        (next.get? category name)) :
      Moves category name request store (.ok answer, next, after)
  | failed (failure : Failure) {after : Disk} :
      Moves category name request store (.error failure, store, after)

variable {category : Category} {name : Text}

/-- A change that does not reach the counter and is no draw leaves its value. -/
theorem commit_moves {α : Type} {request : Request} {store : Store} {table : Table} {answer : α}
    {change : α → Answer} (none_ : request.draw? category name (change answer) = none)
    (untouched : table.get? category name = store.get? category name) (disk : Disk) :
    Moves category name request store
      ((store.commit answer table disk).1.map change, (store.commit answer table disk).2) := by
  -- The change is adopted, or refused and then nothing moves.
  rcases store.commit_cases answer table disk with ⟨after, done⟩ | ⟨path, after, -, refused⟩
  · rw [done]
    refine .answered (change answer) rfl ?_
    rw [none_]
    exact untouched
  · rw [refused]
    exact .failed _

/-- An advance is a draw from its own counter and leaves the others. -/
theorem advance_moves (store : Store) (other : Category) (another : Text) (start step : Int64)
    (disk : Disk) : Moves category name (.advance other another start step) store
      ((store.advance other another start step disk).1.map .value,
        (store.advance other another start step disk).2) := by
  -- The advance is carried out, would overflow, or is refused; only the first of these moves
  -- anything.
  rcases store.advance_cases other another start step disk with
    ⟨next, after, moved, done⟩ | ⟨-, failed⟩ | ⟨path, after, -, refused⟩
  · rw [done]
    refine .answered (.value _) rfl ?_
    by_cases own : other = category ∧ another = name
    · -- The counter hands out its value and holds the next one.
      obtain ⟨rfl, rfl⟩ := own
      have holds : Store.get? { store with table := store.table.put other another next }
          other another = some next := by simp [Store.get?]
      simp only [Request.draw?, and_self, if_true, Option.toList_some, holds]
      exact ⟨rfl, next, moved, rfl⟩
    · have holds : Store.get? { store with table := store.table.put other another next }
          category name = store.get? category name := Table.get?_put_of_apart own store.table next
      simp only [Request.draw?, if_neg own, Option.toList_none, holds]
      rfl
  · rw [failed]
    exact .failed _
  · rw [refused]
    exact .failed _

/-- Every request that spares a counter moves it by the draw that it is, or not at all. -/
theorem serve_moves {request : Request} (spared : request.Spares category name) (store : Store)
    (disk : Disk) : Moves category name request store (store.serve request disk) := by
  -- What is set, deleted or cleared is another counter.
  cases request with
  | advance other another start step => exact advance_moves store other another start step disk
  | set other another value | reset other another value =>
    exact commit_moves rfl (Table.get?_put_of_apart spared store.table value) disk
  | delete other another =>
    exact commit_moves rfl (Table.get?_remove_of_apart spared store.table) disk
  | clear other =>
    have apart : ¬ category = other := fun same => spared same.symm
    refine commit_moves rfl ?_ disk
    simp [Store.get?, apart]

/-- Opening the file of a store that is in step with it gives that store again. -/
theorem InStep.openFile_eq {path : Text} {store : Store} {disk : Disk}
    (inStep : InStep path store disk) : openFile path disk = (.ok store, disk) := by
  -- What is loaded is the table of the store.
  have whole : store = ⟨store.table, some path⟩ := by rw [← inStep.backed]
  unfold openFile
  rw [inStep.loaded]
  simp only
  rw [← whole]

end Store

namespace Session

variable {path : Text} {category : Category} {name : Text}

/-- The value of a counter in the open store. -/
def held (session : Session) (category : Category) (name : Text) : Option Int64 :=
  session.store.bind (·.get? category name)

/-- The draws from a counter in steps that are carried out in turn. -/
def draws (path : Text) (category : Category) (name : Text) : Session → List Command → List Draw
  | _, [] => []
  | session, command :: rest =>
    let (outcome, later) := session.perform path command
    (command.draw? category name outcome).toList ++ draws path category name later rest

/-- Steps can rely on the open store: it is in step with its file, or it is kept in memory only and
none of the steps opens a file. -/
def Relies (path : Text) (session : Session) (commands : List Command) : Prop :=
  ∃ store, session.store = some store ∧
    (store.InStep path session.disk ∨ store.path = none ∧ .openFile ∉ commands)

/-- A store that was opened at some time can be relied on, whatever happened before and after. -/
theorem relies_run {disk : Disk} {earlier : List Command} {store : Store}
    (open_ : (run path ⟨none, disk⟩ earlier).store = some store) (commands : List Command) :
    (run path ⟨none, disk⟩ earlier).Relies path commands := by
  -- No store is open before the first step, and every step keeps the file in step.
  have durable : (run path ⟨none, disk⟩ earlier).Durable path :=
    durable_run (fun _ none_ => by cases none_) earlier
  exact ⟨store, open_, .inl (durable store open_)⟩

/-- A step that spares a counter moves it by the draw that it is, or not at all, and the steps after
it can still rely on the store. -/
theorem perform_drawn {session : Session} {command : Command} {rest : List Command}
    (relies : session.Relies path (command :: rest)) (spared : command.Spares category name) :
    Drawn (session.held category name)
      (command.draw? category name (session.perform path command).1).toList
      ((session.perform path command).2.held category name) ∧
    (session.perform path command).2.Relies path rest := by
  obtain ⟨store, open_, kept⟩ := relies
  obtain ⟨opened, disk⟩ := session
  obtain rfl : opened = some store := open_
  cases command with
  | openFile =>
    -- A file that is in step holds what the store holds.
    rcases kept with inStep | ⟨-, closed⟩
    · have again : perform path ⟨some store, disk⟩ .openFile = (.opened, ⟨some store, disk⟩) := by
        simp only [perform, inStep.openFile_eq]
      rw [again]
      exact ⟨rfl, store, rfl, .inl inStep⟩
    · -- A store without a file is not opened again.
      exact absurd (.head _) closed
  | request request =>
    have moves := Store.serve_moves spared store disk
    -- The file stays in step, or there is none.
    have stays : ∀ result next after, store.serve request disk = (result, next, after) →
        next.path = store.path →
        Relies path ⟨some next, after⟩ rest := by
      intro result next after served backing
      refine ⟨next, rfl, ?_⟩
      rcases kept with inStep | ⟨bare, closed⟩
      · left
        have settled := Store.serve_settled inStep request
        rw [served] at settled
        cases settled with
        | done _ inStep => exact inStep
        | failed _ files => exact inStep.kept files
      · right
        exact ⟨backing.trans bare, fun inside => closed (.tail _ inside)⟩
    -- What the request draws is known from the store, and the rest is what has just been shown.
    cases served : store.serve request disk with
    | mk result left_ =>
      obtain ⟨next, after⟩ := left_
      rw [served] at moves
      simp only [perform, served]
      cases moves with
      | answered answer backing drawn => exact ⟨drawn, stays _ _ _ served backing⟩
      | failed failure => exact ⟨rfl, stays _ _ _ served rfl⟩

/-- Steps that spare a counter move it by the draws that they are. -/
theorem run_drawn {session : Session} {commands : List Command}
    (relies : session.Relies path commands)
    (spared : ∀ command ∈ commands, command.Spares category name) :
    Drawn (session.held category name) (session.draws path category name commands)
      ((session.run path commands).held category name) := by
  -- Each step leaves a store that the later ones can rely on.
  induction commands generalizing session with
  | nil => rfl
  | cons command rest ih =>
    obtain ⟨drawn, later⟩ := perform_drawn relies (spared command (.head _))
    exact drawn.append (ih later fun other inside => spared other (.tail _ inside))

/-- A request for a number is answered with what the counter holds, or the start. It fails only if
the counter would leave 64 bits, or if the store has a file and the file refuses. -/
theorem perform_advance {session : Session} {store : Store} (open_ : session.store = some store)
    (start step : Int64) :
    let current := (session.held category name).getD start
    let outcome := (session.perform path (.request (.advance category name start step))).1
    (outcome = .answered (.value current) ∧
        Text.fits (current.toInt + step.toInt) = true) ∨
      (outcome = .failed (.overflow category name) ∧
        Text.fits (current.toInt + step.toInt) = false) ∨
      ∃ file, outcome = .failed (.inaccessible file) ∧ store.path = some file := by
  obtain ⟨opened, disk⟩ := session
  obtain rfl : opened = some store := open_
  intro current outcome
  -- The three ways in which an advance can go are the three outcomes.
  rcases store.advance_cases category name start step disk with
    ⟨next, after, moved, done⟩ | ⟨beyond, failed⟩ | ⟨file, after, backing, refused⟩
  · left
    constructor
    · simp only [outcome, perform, Store.serve, done]
      rfl
    · -- The next value fits, since it is one of 64 bits.
      have fits := Text.fits_toInt next
      rwa [moved] at fits
  · -- The sum does not fit, and the store says so before it writes anything.
    right; left
    constructor
    · simp only [outcome, perform, Store.serve, failed]
      rfl
    · exact beyond
  · right; right
    refine ⟨file, ?_, backing⟩
    simp only [outcome, perform, Store.serve, refused]
    rfl

/-- Whatever else steps do, as long as they do not set, reset, delete or clear the counter, the
numbers drawn from it have no gaps. A draw fails only for want of 64 bits or of a file that can be
written, and then it leaves no gap either. -/
theorem draws_gapless {session : Session} {commands : List Command}
    (relies : session.Relies path commands)
    (spared : ∀ command ∈ commands, command.Spares category name) :
    Gapless (session.held category name) (session.draws path category name commands)
        ((session.run path commands).held category name) ∧
      ∀ start step : Int64,
        let current := (session.held category name).getD start
        let outcome := (session.perform path (.request (.advance category name start step))).1
        (outcome = .answered (.value current) ∧
            Text.fits (current.toInt + step.toInt) = true) ∨
          (outcome = .failed (.overflow category name) ∧
            Text.fits (current.toInt + step.toInt) = false) ∨
          ∃ store file, session.store = some store ∧ store.path = some file ∧
            outcome = .failed (.inaccessible file) := by
  -- The draws of the run are draws in a row, which have no gaps.
  refine ⟨(run_drawn relies spared).gapless, fun start step => ?_⟩
  -- The store is open, so one more advance has one of the three outcomes.
  obtain ⟨store, open_, -⟩ := relies
  rcases perform_advance open_ start step with done | beyond | ⟨file, refused, backing⟩
  · exact .inl done
  · exact .inr (.inl beyond)
  · exact .inr (.inr ⟨store, file, open_, backing, refused⟩)

/-- The second request for a number fails, as its write does, and the file is opened again. The
third request gets what the second one would have got. -/
theorem draws_gapless_reopened :
    let troubles : List Trouble := [{}, {}, {}, { renameFails := true }]
    let session := run "c".toList ⟨none, { troubles }⟩ [.openFile]
    let number (start : Int64) : Command := .request (.advance .auto "a".toList start 2)
    let commands : List Command := [number 5, .request (.set .auto "b".toList 7), number 1,
      .openFile, .request (.clear .custom), number 1]
    session.draws "c".toList .auto "a".toList commands = [⟨5, 2, 5⟩, ⟨1, 2, 7⟩] ∧
      Gapless none [⟨5, 2, 5⟩, ⟨1, 2, 7⟩] (some 9) := by
  intro troubles session number commands
  -- The run itself is evaluated; that it leaves no gap comes from the general theorem.
  have drawn : session.draws "c".toList .auto "a".toList commands = [⟨5, 2, 5⟩, ⟨1, 2, 7⟩] := by
    decide +kernel
  have before : session.held .auto "a".toList = none := by decide +kernel
  have after : (session.run "c".toList commands).held .auto "a".toList = some 9 := by
    decide +kernel
  obtain ⟨store, open_⟩ := Option.isSome_iff_exists.mp
    (show session.store.isSome = true by decide +kernel)
  have gapless := (@draws_gapless "c".toList .auto "a".toList session commands
    (relies_run open_ commands) (by decide +kernel)).1
  rw [drawn, before, after] at gapless
  exact ⟨drawn, gapless⟩

end Session

end Docket.Counter
