import Docket.Shell.Execute

/-!
What a shell keeps to itself.

A subshell works on the state of its shell, and in the end that state is put back. Only the files,
what has been written to buffers, the time, the processes in the background, and the status remain.
So a command that is put together of subshells and pipelines leaves the variables, the functions,
the options and the working folder of its shell alone, however it comes out. So do programs that are
started, and commands whose output is put into a word.
-/

namespace Docket.Shell

/-- The part of the state of a shell that it does not share with other shells. -/
structure Own where
  home : Location
  name : Text
  arguments : List Text
  bindings : Sheet Text Text
  exported : List Text
  functions : Sheet Text Command
  options : Options
  line : Nat
  channels : Sheet Nat Channel
  fileBuffers : List Nat
  limit : Nat
  loops : Nat
  locals : Option (List (Text × Option Text))
  frozen : List Text
  farewell : Option Text
  cluster : Nat × Text

/-- What a shell keeps to itself in a state. -/
def State.own (state : State) : Own where
  home := state.disk.home
  name := state.name
  arguments := state.arguments
  bindings := state.bindings
  exported := state.exported
  functions := state.functions
  options := state.options
  line := state.line
  channels := state.channels
  fileBuffers := state.fileBuffers
  limit := state.limit
  loops := state.loops
  locals := state.locals
  frozen := state.frozen
  farewell := state.farewell
  cluster := state.cluster

/-- Work that leaves what the shell keeps to itself as it was. -/
def Keeps {α : Type} (work : Work α) : Prop :=
  ∀ state, (work.run state).2.own = state.own

namespace Keeps

variable {α β : Type}

/-- A value that is there needs no work. -/
protected theorem pure (value : α) : Keeps (Pure.pure value : Work α) :=
  fun _ => rfl

/-- Looking at a state changes nothing. -/
protected theorem get : Keeps (MonadState.get : Work State) :=
  fun _ => rfl

/-- A change that leaves the shell's own part of every state as it was. -/
protected theorem change {change : State → State}
    (same : ∀ state, (change state).own = state.own) : Keeps (modify change : Work Unit) :=
  same

/-- One work after the other. -/
protected theorem bind {first : Work α} {next : α → Work β} (keeps : Keeps first)
    (later : ∀ value, Keeps (next value)) : Keeps (first >>= next) :=
  fun state => (later _ _).trans (keeps state)

/-- Work that begins with a look at the state. -/
protected theorem looking {next : State → Work α}
    (keeps : ∀ state, ((next state).run state).2.own = state.own) : Keeps (get >>= next) :=
  keeps

/-- One work for each member of a list. -/
protected theorem forIn {work : α → Work Unit} {list : List α}
    (keeps : ∀ value ∈ list, Keeps (work value)) :
    Keeps (ForIn.forIn list PUnit.unit fun value _ => do
      work value
      return ForInStep.yield PUnit.unit) := by
  -- The work tells nothing, so the list is never left early.
  induction list with
  | nil => exact .pure _
  | cons first rest ih =>
    rw [List.forIn_cons]
    refine .bind (.bind (keeps first (by simp)) fun _ => .pure _) fun taken => ?_
    cases taken with
    | done => exact .pure _
    | yield => exact ih fun value inside => keeps value (by simp [inside])

end Keeps

open Execute

section

variable (executor : Executor)

/-- Why commands are not run any more is no part of what the shell keeps to itself. -/
theorem keeps_stop (halt : Halt) : Keeps (State.stop halt) :=
  fun _ => rfl

theorem keeps_setStatus (status : Nat) : Keeps (State.setStatus status) :=
  fun _ => rfl

theorem keeps_isHalted : Keeps State.isHalted :=
  fun _ => rfl

/-- What fails may end the script, and that is no change of the shell's own either. -/
theorem keeps_stopOnFailure (tested : Bool) : Keeps (stopOnFailure tested) := by
  refine .bind .get fun state => ?_
  split
  · exact keeps_stop _
  · exact .pure _

/-- The state of the shell is put back after what is done in a subshell. -/
theorem keeps_inSubshell (work : Work Unit) : Keeps (Run.inSubshell executor work) :=
  fun _ => rfl

/-- What is written goes to a buffer or a file, neither of which is the shell's own. -/
theorem keeps_writeTo (descriptor : Nat) (text : Text) :
    Keeps (State.writeTo descriptor text) := by
  refine .change fun state => ?_
  -- Appending to a file puts one entry, and the working folder is no entry.
  have same (location : Location) :
      (State.appendTo state.disk location text).home = state.disk.home := by
    unfold State.appendTo
    split <;> rfl
  dsimp only
  split
  · rfl
  · simp only [State.own, same]
  · rfl

theorem keeps_complain (text : Text) : Keeps (State.complain text) :=
  keeps_writeTo _ _

theorem keeps_fail (message : Text) (status : Nat) : Keeps (Run.fail message status) :=
  .bind (.bind .get fun _ => keeps_complain _) fun _ => keeps_setStatus status

theorem keeps_pass (time : Nat) : Keeps (State.pass time) := by
  refine .looking fun state => ?_
  -- The clock has moved on before it is asked whether the time is up.
  let later := { state with clock := state.clock + time }
  show ((if state.limit ≤ state.clock + time then State.stop .late else pure ()).run later).2.own =
    later.own
  split
  · exact keeps_stop .late later
  · rfl

theorem keeps_awaitBuffer (number : Nat) : Keeps (Run.awaitBuffer number) := by
  refine .bind .get fun state => .bind .get fun _ => ?_
  split
  · exact keeps_pass _
  · exact keeps_stop _

/-- Commands whose output is put into a word leave alone what the shell keeps to itself. -/
theorem keeps_output (source : Text) : Keeps (Run.output executor source) := by
  refine .bind (fun _ => rfl) fun number => ?_
  refine .bind (keeps_inSubshell executor _) fun _ => ?_
  refine .bind (keeps_awaitBuffer number) fun _ => ?_
  exact fun _ => rfl

/-- The state of the shell is put back after what a program does. -/
theorem keeps_apart (work : Work Unit) : Keeps (Run.apart work) :=
  fun _ => rfl

/-- A program that is started by its name leaves alone what the shell keeps to itself. -/
theorem keeps_start (name : Text) (arguments : List Text) :
    Keeps (Run.start executor name arguments) := by
  -- The program runs apart from the shell, or a message says why it does not run.
  refine .bind .get fun state => ?_
  dsimp only
  split
  case h_1 | h_3 => exact keeps_fail _ _
  case h_2 | h_4 =>
    refine .bind (keeps_apart _) fun ended => ?_
    split
    · exact keeps_complain _
    · exact .pure ()

/-- The members of a pipeline are joined by buffers, and in the end the channels are as before. -/
theorem keeps_pipeline (tested : Bool) (parts : List Command) :
    Keeps (pipeline executor tested parts) := by
  induction parts with
  | nil => exact .pure ()
  | cons first rest ih =>
    cases rest with
    | nil => exact keeps_inSubshell executor _
    | cons second others =>
      intro state
      -- What the later members start from differs from the state before in the channels alone.
      let number := ((State.newBuffer []).run state).1
      let joined := state.channels.put State.inputDescriptor (.buffer number)
      obtain ⟨started, last, own⟩ : ∃ started : State,
          ((pipeline executor tested (first :: second :: others)).run state).2.own =
            { ((pipeline executor tested (second :: others)).run started).2.own with
              channels := state.channels } ∧
          started.own = { state.own with channels := joined } :=
        ⟨_, rfl, rfl⟩
      rw [last, ih, own]
      rfl

/-- A loop counts itself while it runs. -/
theorem keeps_inLoop {work : Work Unit} (keeps : Keeps work) : Keeps (inLoop work) := by
  intro state
  -- The work keeps the raised count, and one is taken from it afterwards.
  have inside := keeps { state with loops := state.loops + 1 }
  have outside : ((inLoop work).run state).2.own =
      { (work.run { state with loops := state.loops + 1 }).2.own with
        loops := (work.run { state with loops := state.loops + 1 }).2.own.loops - 1 } := rfl
  rw [outside, inside]
  rfl

theorem keeps_turn {body : Work Unit} (keeps : Keeps body) : Keeps (turn body) := by
  refine .bind keeps fun _ => .looking fun state => ?_
  -- What stops the body is taken away or lessened, whatever it is.
  dsimp only
  split
  · rfl
  · split <;> rfl
  · split <;> rfl
  · rfl

theorem keeps_decides {condition : Command} (keeps : Keeps (executor true condition))
    (wanted : Bool) : Keeps (decides executor condition wanted) :=
  .bind keeps fun _ => .bind .get fun _ => .pure _

theorem keeps_repeatWhile {condition body : Work Bool} (asks : Keeps condition)
    (works : Keeps body) (fuel last : Nat) : Keeps (repeatWhile fuel last condition body) := by
  -- Each turn asks and works; to run out of turns is a stop like any other.
  induction fuel generalizing last with
  | zero => exact keeps_stop .late
  | succ fuel ih =>
    refine .bind asks fun holds => ?_
    split
    · refine .bind works fun goesOn => ?_
      split
      · exact .bind .get fun _ => ih _
      · exact .pure ()
    · refine .bind keeps_isHalted fun halted => ?_
      split
      · exact .pure ()
      · exact keeps_setStatus last

end

/-- Commands that are put together of subshells and pipelines. -/
inductive Command.Enclosed : Command → Prop where
  | subshell (body : Command) : Enclosed (.subshell body)
  | pipeline (parts : List Command) : Enclosed (.pipeline parts)
  | negated {inner : Command} (enclosed : Enclosed inner) : Enclosed (.negated inner)
  | both {first second : Command} (left : Enclosed first) (right : Enclosed second) :
      Enclosed (.both first second)
  | either {first second : Command} (left : Enclosed first) (right : Enclosed second) :
      Enclosed (.either first second)
  | sequence {commands : List Command} (all : ∀ command ∈ commands, Enclosed command) :
      Enclosed (.sequence commands)
  | branch {condition body other : Command} (asked : Enclosed condition) (left : Enclosed body)
      (right : Enclosed other) : Enclosed (.branch condition body other)
  | loop (untilTrue : Bool) {condition body : Command} (asked : Enclosed condition)
      (repeated : Enclosed body) : Enclosed (.loop untilTrue condition body)

/-- A step keeps what is the shell's own, if the commands inside an enclosed one do. -/
theorem keeps_step {executor : Executor}
    (inner : ∀ tested command, command.Enclosed → Keeps (executor tested command)) (tested : Bool)
    {command : Command} (enclosed : command.Enclosed) : Keeps (step executor tested command) := by
  refine .bind keeps_isHalted fun halted => ?_
  split
  · exact .pure ()
  -- One case for each way to put commands together.
  cases enclosed with
  | subshell body =>
    exact .bind (keeps_inSubshell executor _) fun _ => keeps_stopOnFailure tested
  | pipeline parts =>
    exact .bind (keeps_pipeline executor tested parts) fun _ => keeps_stopOnFailure tested
  | negated enclosed =>
    -- The status is turned round, unless something stops the commands.
    refine .bind (inner true _ enclosed) fun _ => .change fun state => ?_
    split <;> rfl
  | both left right =>
    refine .bind (keeps_decides executor (inner true _ left) true) fun holds => ?_
    split
    · exact inner tested _ right
    · exact .pure ()
  | either left right =>
    refine .bind (keeps_decides executor (inner true _ left) false) fun fails => ?_
    split
    · exact inner tested _ right
    · exact .pure ()
  | sequence all =>
    exact .bind (.forIn fun command inside => inner tested command (all command inside))
      fun _ => .pure ()
  | branch asked left right =>
    refine .bind (keeps_decides executor (inner true _ asked) true) fun holds => ?_
    split
    · exact inner tested _ left
    · refine .bind keeps_isHalted fun halted => ?_
      split
      · exact .pure ()
      · exact .bind (keeps_setStatus 0) fun _ => inner tested _ right
  | loop untilTrue asked repeated =>
    exact keeps_inLoop (keeps_repeatWhile (keeps_decides executor (inner true _ asked) _)
      (keeps_turn (inner tested _ repeated)) _ _)

/-- However it comes out, a command that is put together of subshells and pipelines leaves alone
what its shell keeps to itself. -/
theorem own_execute {command : Command} (enclosed : command.Enclosed) (depth : Nat)
    (tested : Bool) (state : State) :
    ((execute depth tested command).run state).2.own = state.own := by
  suffices keeps : ∀ tested command, command.Enclosed → Keeps (execute depth tested command) from
    keeps tested command enclosed state
  -- The commands inside another one are run by the executor of the depth below.
  induction depth with
  | zero => exact fun _ _ _ => keeps_stop .late
  | succ depth ih => exact fun tested command => keeps_step ih tested

/-- What a host is asked for leaves the working folder where it is, and a program that is not
started leaves the whole disk. -/
theorem host_disk (launch : Launch) (limit : Nat) (disk : Disk) :
    (host launch limit disk).2.home = disk.home ∧
      ((host launch limit disk).1 = none → (host launch limit disk).2 = disk) := by
  unfold host
  dsimp only
  split
  · -- No word of a program may hold the character that ends words.
    exact ⟨rfl, fun _ => rfl⟩
  · split
    · exact ⟨rfl, fun _ => rfl⟩
    · exact ⟨rfl, nofun⟩

end Docket.Shell
