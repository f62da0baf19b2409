import Docket.Proofs.Counter.Record
import Docket.Proofs.Counter.Session
import Docket.Proofs.Storage.Atomicity

/-!
The file of an open store always holds the table of the store, whatever fails on the way.

Opening a store writes a file only where it finds no table: where the path leads to no file, or to a
blank one. The folders that are missing on the way are made first. So a path that steps back out of
a missing folder is taken to lead to no file, and then it replaces one that was there.
-/

namespace Docket.Counter

open Disk

/-- The files of a disk are as before, temporary neighbours of a path aside. What the path led to
it still leads to. -/
structure FilesKept (path : Text) (before after : Disk) : Prop where
  located : KeepsFiles (IsTemporary path) before after
  led : ∀ file, before.file? path = some file → after.file? path = some file

/-- A content that is not taken for that of an empty file: a text that is not blank, or bytes that
are no text. -/
def Filled (content : Content) : Prop :=
  ∀ text, content = .text text → Text.blank text = false

/-- What a step does to a disk: nothing, or it replaces one file, whether that goes well or not. -/
def Touched (before after : Disk) : Prop :=
  after = before ∨ ∃ path content, after = (before.replace path content).2

/-- Replacing one file keeps a disk a tree. -/
theorem Touched.isTree {before after : Disk} (touched : Touched before after)
    (tree : before.IsTree) : after.IsTree := by
  rcases touched with rfl | ⟨path, content, rfl⟩
  · exact tree
  · exact isTree_replace path content tree

/-- Doing nothing keeps every file. -/
theorem FilesKept.refl (path : Text) (disk : Disk) : FilesKept path disk disk :=
  ⟨.refl _ disk, fun _ found => found⟩

namespace Store

/-- A store is in step with a file that holds its table. -/
structure InStep (path : Text) (store : Store) (disk : Disk) : Prop where
  backed : store.path = some path
  full : store.table.IsFull
  loaded : load path disk = .ok (some store.table)

/-- A table is loaded from a file. -/
theorem load_eq_some {path : Text} {disk : Disk} {table : Table}
    (loaded : load path disk = .ok (some table)) :
    table.IsFull ∧ ∃ file, disk.file? path = some file := by
  -- A missing or blank file has no table, and a table that is loaded has been completed.
  unfold load at loaded
  split at loaded
  · exact absurd loaded (by simp)
  · exact absurd loaded (by simp)
  · rename_i text read
    split at loaded
    · exact absurd loaded (by simp)
    · split at loaded
      · obtain rfl := Option.some.inj (Except.ok.inj loaded)
        exact ⟨Table.isFull_complete _, file?_of_readText read⟩
      · exact absurd loaded (by simp)

/-- What is loaded depends on the file that the path leads to. -/
theorem load_of_file? {path : Text} {before after : Disk} {file : Content × Bool}
    (found : before.file? path = some file) (kept : after.file? path = some file) :
    load path after = load path before := by
  -- Loading reads the file of the path and nothing else.
  unfold load
  rw [readText_of_file? found, readText_of_file? kept]

/-- A table that could be written is what is loaded. -/
theorem load_persist {path : Text} {table : Table} {disk after : Disk} (full : table.IsFull)
    (written : persist path table disk = (.ok (), after)) : load path after = .ok (some table) := by
  -- The file holds the text of the table, which is not blank and reads back.
  unfold persist at written
  split at written
  · rename_i replaced done
    obtain ⟨-, rfl⟩ := Prod.mk.inj written
    obtain ⟨-, location, found, -⟩ := replace_ok done
    have read := readText_of_file? (file?_eq_some.mpr ⟨location, found⟩)
    simp only [Content.text?] at read
    unfold load
    simp only [read, blank_fileText, read?_fileText full, Table.complete_of_isFull full]
    rfl
  · exact absurd (Prod.mk.inj written).1 (by simp)

/-- A table that could not be written leaves the files as they were. -/
theorem filesKept_persist {path : Text} {table : Table} {disk after : Disk} {failure : Failure}
    (failed : persist path table disk = (.error failure, after)) : FilesKept path disk after := by
  -- Replacing the file failed, so it is there as before.
  unfold persist at failed
  split at failed
  · exact absurd (Prod.mk.inj failed).1 (by simp)
  · rename_i fault replaced done
    obtain ⟨-, rfl⟩ := Prod.mk.inj failed
    exact ⟨(replace_error done).2, fun _ found => file?_replace_error done found⟩

/-- A store that stays as it is stays in step with a file that is kept. -/
theorem InStep.kept {path : Text} {store : Store} {before after : Disk}
    (inStep : InStep path store before) (kept : FilesKept path before after) :
    InStep path store after := by
  -- The file is there, since a table was loaded from it, and it is kept.
  obtain ⟨-, file, found⟩ := load_eq_some inStep.loaded
  refine ⟨inStep.backed, inStep.full, ?_⟩
  rw [load_of_file? found (kept.led file found)]
  exact inStep.loaded

/-- Opening gives a store in step with its file. -/
theorem inStep_openFile {path : Text} {disk after : Disk} {store : Store}
    (opened : openFile path disk = (.ok store, after)) : InStep path store after := by
  -- The table was loaded from the file, or the empty one was written to it.
  unfold openFile at opened
  split at opened
  · exact absurd (Prod.mk.inj opened).1 (by simp)
  · rename_i table loaded
    obtain ⟨same, rfl⟩ := Prod.mk.inj opened
    obtain rfl := Except.ok.inj same
    exact ⟨rfl, (load_eq_some loaded).1, loaded⟩
  · split at opened
    · rename_i written
      obtain ⟨same, rfl⟩ := Prod.mk.inj opened
      obtain rfl := Except.ok.inj same
      exact ⟨rfl, Table.isFull_empty, load_persist Table.isFull_empty written⟩
    · exact absurd (Prod.mk.inj opened).1 (by simp)

/-- A store that could not be opened has changed no file. -/
theorem filesKept_openFile {path : Text} {disk after : Disk} {failure : Failure}
    (failed : openFile path disk = (.error failure, after)) : FilesKept path disk after := by
  -- Either nothing was written, or writing the empty table failed.
  unfold openFile at failed
  split at failed
  · obtain ⟨-, rfl⟩ := Prod.mk.inj failed
    exact .refl path disk
  · exact absurd (Prod.mk.inj failed).1 (by simp)
  · split at failed
    · exact absurd (Prod.mk.inj failed).1 (by simp)
    · rename_i unwritten
      obtain ⟨-, rfl⟩ := Prod.mk.inj failed
      exact filesKept_persist unwritten

/-- A file that is not blank holds a table, or it is refused. -/
theorem load_ne_none {path : Text} {disk : Disk} {content : Content} {executable : Bool}
    (found : disk.file? path = some (content, executable)) (filled : Filled content) :
    load path disk ≠ .ok none := by
  -- A text that is not blank is a table or corrupt, and what is no text cannot be read.
  unfold load
  rw [readText_of_file? found]
  cases content with
  | text text =>
    simp only [Content.text?, filled text rfl, Bool.false_eq_true, if_false]
    split <;> simp
  | bytes raw => simp [Content.text?]

/-- Opening leaves a disk alone if the file is not blank, whether or not a table is in it. -/
theorem openFile_of_filled {path : Text} {disk : Disk} {content : Content} {executable : Bool}
    (found : disk.file? path = some (content, executable)) (filled : Filled content) :
    (openFile path disk).2 = disk := by
  -- Only where no table is found a new file is written.
  unfold openFile
  split
  · rfl
  · rfl
  · rename_i loaded
    exact absurd loaded (load_ne_none found filled)

/-- Opening changes no file that is not blank, be it in the place of the path or elsewhere. The path
must step back only out of places that are there, unless the file lies elsewhere. -/
theorem fileAt?_openFile {path : Text} {disk : Disk} {place : Location} {content : Content}
    {executable : Bool} (held : disk.fileAt? place = some (content, executable))
    (filled : Filled content) (apart : ¬ disk.IsStaging path place)
    (safe : place ≠ disk.target path ∨ disk.IsTree ∧ disk.StepsBackInside path) :
    (openFile path disk).2.fileAt? place = some (content, executable) := by
  unfold openFile
  split
  · exact held
  · exact held
  · rename_i missing
    -- No table was found, so an empty one is written, unless that fails.
    cases replaced : disk.replace path (.text (fileText .empty)) with
    | mk outcome after =>
      cases outcome with
      | error fault =>
        simp only [persist, replaced]
        rw [keepsFiles_replace_error replaced place apart, held]
      | ok done =>
        have elsewhere : place ≠ disk.target path := by
          rcases safe with elsewhere | ⟨tree, inside⟩
          · exact elsewhere
          · -- Else the path would have led to the file before, which would not have been missed.
            rintro rfl
            have led := file?_of_replace_ok replaced tree inside held
            exact load_ne_none led filled missing
        simp only [persist, replaced]
        rw [(keepsFiles_replace_ok replaced).2 place (not_or.mpr ⟨elsewhere, apart⟩), held]

section

variable {store : Store} {disk : Disk}

/-- A write replaces the file of the path, and the disk does not tell how that ended. -/
theorem disk_persist (path : Text) (table : Table) :
    (persist path table disk).2 = (disk.replace path (.text (fileText table))).2 := by
  unfold persist
  split
  · rename_i done
    rw [done]
  · rename_i failed
    rw [failed]

/-- Opening a store writes at most one file. -/
theorem touched_openFile (path : Text) : Touched disk (openFile path disk).2 := by
  -- Only the opening of a missing table writes.
  unfold openFile
  split
  · exact .inl rfl
  · exact .inl rfl
  · refine .inr ⟨path, .text (fileText .empty), ?_⟩
    rw [← disk_persist]
    split
    · rename_i done
      rw [done]
    · rename_i failed
      rw [failed]

/-- Committing a table writes at most one file. -/
theorem touched_commit {α : Type} (answer : α) (next : Table) :
    Touched disk (store.commit answer next disk).2.2 := by
  -- Committing is adopting, with an answer for what went well.
  have same : (store.commit answer next disk).2.2 = (store.adopt next disk).2.2 := by
    unfold commit
    split
    · rename_i done
      rw [done]
    · rename_i failed
      rw [failed]
  rw [same]
  unfold adopt
  split
  · exact .inl rfl
  · split
    · exact .inl rfl
    · -- Only a store with a file writes one.
      rename_i path _
      refine .inr ⟨path, .text (fileText next), ?_⟩
      rw [← disk_persist]
      split
      · rename_i done
        rw [done]
      · rename_i failed
        rw [failed]

/-- Every request writes at most one file. -/
theorem touched_serve (request : Request) : Touched disk (store.serve request disk).2.2 := by
  cases request with
  | advance category name start step =>
    -- A counter that would overflow is not committed.
    simp only [serve, advance]
    split
    · exact touched_commit _ _
    · exact .inl rfl
  | set category name value => exact touched_commit _ _
  | reset category name value => exact touched_commit _ _
  | delete category name => exact touched_commit _ _
  | clear category => exact touched_commit _ _

end

/-- What a change of a store comes to: it succeeds, and the store is in step with its file; or it
fails, and neither the store nor a file has changed. -/
inductive Settled {α : Type} (path : Text) (store : Store) (disk : Disk) :
    Except Failure α × Store × Disk → Prop where
  | done (answer : α) {next : Store} {after : Disk} (inStep : InStep path next after) :
      Settled path store disk (.ok answer, next, after)
  | failed (failure : Failure) {after : Disk} (kept : FilesKept path disk after) :
      Settled path store disk (.error failure, store, after)

/-- A change of its answer leaves a change settled. -/
theorem Settled.map {α β : Type} {path : Text} {store next : Store} {disk after : Disk}
    {result : Except Failure α} (settled : Settled path store disk (result, next, after))
    (change : α → β) : Settled path store disk (result.map change, next, after) := by
  -- The store and the disk are not looked at.
  cases settled with
  | done answer inStep => exact .done (change answer) inStep
  | failed failure kept => exact .failed failure kept

section

variable {path : Text} {store : Store} {disk : Disk}

/-- Adopting a full table settles it. -/
theorem adopt_settled (inStep : InStep path store disk) {next : Table} (full : next.IsFull) :
    Settled path store disk (store.adopt next disk) := by
  -- The table is adopted only after it has been written.
  have backed := inStep.backed
  unfold adopt
  by_cases same : next = store.table
  · -- An unchanged table is in the file already.
    rw [if_pos same]
    exact .done () inStep
  · rw [if_neg same]
    simp only [backed]
    cases written : persist path next disk with
    | mk outcome after =>
      cases outcome with
      | ok done => exact .done () ⟨rfl, full, load_persist full written⟩
      | error failure => exact .failed failure (filesKept_persist written)

/-- Adopting a full table with an answer settles it. -/
theorem commit_settled {α : Type} (inStep : InStep path store disk) (answer : α) {next : Table}
    (full : next.IsFull) : Settled path store disk (store.commit answer next disk) := by
  -- Committing adds an answer to adopting.
  have settled := adopt_settled inStep full
  unfold commit
  split
  · rename_i adopted
    rw [adopted] at settled
    cases settled with
    | done _ inStep => exact .done answer inStep
  · rename_i adopted
    rw [adopted] at settled
    cases settled with
    | failed _ kept => exact .failed _ kept

/-- Advancing a counter is settled; a counter that would overflow changes nothing. -/
theorem advance_settled (inStep : InStep path store disk) (category : Category) (name : Text)
    (start step : Int64) :
    Settled path store disk (store.advance category name start step disk) := by
  -- An overflow is found before anything is adopted.
  have full := Table.isFull_advance inStep.full category name start step
  unfold advance
  split
  · rename_i value next advanced
    rw [advanced] at full
    exact commit_settled inStep value full
  · exact .failed _ (.refl path disk)

/-- Every request to a store that is in step is settled. -/
theorem serve_settled (inStep : InStep path store disk) (request : Request) :
    Settled path store disk (store.serve request disk) := by
  -- Every request changes the table in a way that keeps it full, and commits that.
  have full := inStep.full
  cases request with
  | advance category name start step =>
    exact (advance_settled inStep category name start step).map _
  | set category name value =>
    exact (commit_settled inStep () (Table.isFull_put full category name value)).map _
  | reset category name value =>
    exact (commit_settled inStep () (Table.isFull_put full category name value)).map _
  | delete category name =>
    exact (commit_settled inStep _ (Table.isFull_remove full category name)).map _
  | clear category =>
    exact (commit_settled inStep _ (Table.isFull_clear full category)).map _

end

end Store

namespace Session

variable {path : Text}

/-- A session is durable when its open store, if there is one, is in step with the file. -/
def Durable (path : Text) (session : Session) : Prop :=
  -- A session without an open store asks nothing of the file.
  ∀ store, session.store = some store → store.InStep path session.disk

/-- A step keeps a session durable; if it fails, neither the store nor a file has changed. -/
theorem durable_perform {session : Session} (durable : session.Durable path) (command : Command) :
    (session.perform path command).2.Durable path ∧
      ∀ failure, (session.perform path command).1 = .failed failure →
        (session.perform path command).2.store = session.store ∧
          FilesKept path session.disk (session.perform path command).2.disk := by
  -- Opening replaces the store, and a request settles the one that is open.
  cases command with
  | openFile =>
    unfold perform
    dsimp only
    split
    · rename_i store after opened
      refine ⟨?_, by simp⟩
      rintro _ ⟨⟩
      exact Store.inStep_openFile opened
    · -- The store that was open stays, and its file is kept.
      rename_i failure after refused
      have kept := Store.filesKept_openFile refused
      exact ⟨fun store open_ => (durable store open_).kept kept, fun _ _ => ⟨rfl, kept⟩⟩
  | request request =>
    unfold perform
    dsimp only
    split
    · exact ⟨durable, by simp⟩
    · rename_i store open_
      have settled := Store.serve_settled (durable store open_) request
      split
      · -- The store that answers is the next one, in step with what it has written.
        rename_i answer next after served
        rw [served] at settled
        cases settled with
        | done _ inStep =>
          refine ⟨?_, by simp⟩
          rintro _ ⟨⟩
          exact inStep
      · -- A request that fails leaves the store, and its file is kept.
        rename_i failure next after served
        rw [served] at settled
        cases settled with
        | failed _ kept =>
          refine ⟨?_, fun _ _ => ⟨open_.symm, kept⟩⟩
          rintro _ ⟨⟩
          exact (durable store open_).kept kept

/-- A session stays durable over any number of steps. -/
theorem durable_run {session : Session} (durable : session.Durable path)
    (commands : List Command) : (session.run path commands).Durable path := by
  -- Every step starts from a durable session.
  induction commands generalizing session with
  | nil => exact durable
  | cons command rest ih => exact ih (durable_perform durable command).1

/-- What a step of opening leaves behind is the disk on which the store was opened. -/
theorem disk_perform_openFile (path : Text) (session : Session) :
    (session.perform path .openFile).2.disk = (Store.openFile path session.disk).2 := by
  -- An opening that is refused leaves its disk as well.
  unfold perform
  dsimp only
  split
  · rename_i opened
    rw [opened]
  · rename_i refused
    rw [refused]

/-- A step writes at most one file. -/
theorem touched_perform (session : Session) (command : Command) :
    Touched session.disk (session.perform path command).2.disk := by
  -- The disk is that of the opening or of the request, however it ended.
  cases command with
  | openFile =>
    rw [disk_perform_openFile]
    exact Store.touched_openFile path
  | request request =>
    unfold perform
    dsimp only
    split
    · -- Without a store nothing is touched.
      exact .inl rfl
    · rename_i store _
      have served : Touched session.disk (store.serve request session.disk).2.2 :=
        Store.touched_serve request
      split
      · rename_i done
        rwa [done] at served
      · rename_i failed
        rwa [failed] at served

/-- Any number of steps keep a disk a tree. -/
theorem isTree_run {session : Session} (tree : session.disk.IsTree) (commands : List Command) :
    (session.run path commands).disk.IsTree := by
  induction commands generalizing session with
  | nil => exact tree
  | cons command rest ih => exact ih ((touched_perform session command).isTree tree)

/--
After any steps from any disk, whatever fails on the way, the file of an open store holds the table
of the store.

- A step that fails then leaves the store and the files as they were.
- Opening leaves the disk alone if the path leads to a file that is not blank, whether or not a
  table is in it.
- Opening changes no other file that is not blank, the temporary one aside: none outside the place
  of the path, and none in that place either, if the path steps back only out of places that are
  there and every entry of the disk lies in a folder.
-/
theorem file_holds_table_along_runs (path : Text) (disk : Disk) (commands : List Command) :
    let session := run path ⟨none, disk⟩ commands
    (∀ store, session.store = some store →
      store.path = some path ∧ Store.load path session.disk = .ok (some store.table)) ∧
    (∀ command failure after, session.perform path command = (.failed failure, after) →
      after.store = session.store ∧ FilesKept path session.disk after.disk) ∧
    (∀ content executable, session.disk.file? path = some (content, executable) →
      Filled content → (session.perform path .openFile).2.disk = session.disk) ∧
    (∀ place content executable, session.disk.fileAt? place = some (content, executable) →
      Filled content → ¬ session.disk.IsStaging path place →
      place ≠ session.disk.target path ∨ disk.IsTree ∧ session.disk.StepsBackInside path →
      (session.perform path .openFile).2.disk.fileAt? place = some (content, executable)) := by
  -- The invariant holds before the first step, when no store is open, and every step keeps it.
  intro session
  have durable : session.Durable path := durable_run (fun _ open_ => by cases open_) commands
  refine ⟨fun store open_ => ?_, fun command failure after failed => ?_,
    fun content executable found filled => ?_,
    fun place content executable held filled apart safe => ?_⟩
  · exact ⟨(durable store open_).backed, (durable store open_).loaded⟩
  · have kept := (durable_perform durable command).2 failure
    rw [failed] at kept
    exact kept rfl
  · rw [disk_perform_openFile]
    exact Store.openFile_of_filled found filled
  · -- The disk is still a tree if it was one at first.
    rw [disk_perform_openFile]
    refine Store.fileAt?_openFile held filled apart (safe.imp_right fun ⟨tree, inside⟩ => ?_)
    exact ⟨isTree_run tree commands, inside⟩

/-- The path steps back out of a folder that is there, so its blank file is written and no other.
The third write fails, and leaves the table of the first one. -/
theorem file_holds_table_along_runs_interrupted :
    let path := "f/../c".toList
    let disk : Disk := {
      entries := .ofPairs [(["f".toList], .folder),
        (["c".toList], .file (.text " \n".toList) false),
        (["d".toList], .file (.text "kept".toList) false)]
      troubles := [{}, {}, { renameFails := true }] }
    let next : Command := .request (.advance .auto "a".toList 1 1)
    let opened := (run path ⟨none, disk⟩ []).perform path .openFile
    let session := run path ⟨none, disk⟩ [.openFile, next]
    disk.IsTree ∧ disk.StepsBackInside path ∧ opened.1 = .opened ∧
      opened.2.disk.fileAt? ["d".toList] = some (.text "kept".toList, false) ∧
      (∃ store, session.store = some store ∧ store.get? .auto "a".toList = some 2 ∧
        Store.load path session.disk = .ok (some store.table)) ∧
      ∃ failure, (session.perform path next).1 = .failed failure ∧
        (session.perform path next).2.store = session.store ∧
        (session.perform path .openFile).2.disk = session.disk := by
  intro path disk next opened session
  -- The general theorem is used after no step, for the opening, and after two, for the failing
  -- write.
  have tree : disk.IsTree := by decide +kernel
  have inside : disk.StepsBackInside path := by decide +kernel
  obtain ⟨-, -, -, others⟩ := file_holds_table_along_runs path disk []
  obtain ⟨holds, fails, alone, -⟩ := file_holds_table_along_runs path disk [.openFile, next]
  -- The temporary sibling has a name with a point in front, which the other file has not.
  have apart : ¬ disk.IsStaging path ["d".toList] := by
    rintro ⟨name, named, place⟩
    have same : Path.fileName? path = some "c".toList := by decide +kernel
    obtain rfl := Option.some.inj (same.symm.trans named)
    revert place
    decide +kernel
  refine ⟨tree, inside, by decide +kernel, ?_, ?_, ?_⟩
  · exact others _ _ _ (by decide +kernel) (by rintro _ ⟨⟩; decide +kernel) apart
      (.inr ⟨tree, inside⟩)
  · -- The store is open, and its file holds its table.
    cases open_ : session.store with
    | none => exact absurd open_ (by decide +kernel)
    | some store =>
      refine ⟨store, rfl, ?_, (holds store open_).2⟩
      have value : (session.store.bind (·.get? .auto "a".toList)) = some 2 := by decide +kernel
      rwa [open_] at value
  · -- The write that fails is the third one, and opening again finds a file that is filled.
    have failed : (session.perform path next).1 = .failed (.inaccessible path) := by
      decide +kernel
    refine ⟨_, failed, (fails next _ _ (Prod.ext failed rfl)).1, ?_⟩
    cases found : session.disk.file? path with
    | none => exact absurd found (by decide +kernel)
    | some file =>
      obtain ⟨content, executable⟩ := file
      refine alone content executable found ?_
      have filled : (session.disk.file? path).all
          (fun file => file.1.text?.all (Text.blank · == false)) = true := by decide +kernel
      rw [found] at filled
      rintro text rfl
      simpa [Content.text?] using filled

/-- A path that steps back out of a missing folder leads to no file. Opening makes that folder, and
then the empty table replaces the file that the path leads to, which holds a counter. -/
theorem openFile_missing_folder :
    let path := "new/../c".toList
    let place : Location := ["c".toList]
    let text := Store.fileText (Table.empty.put .auto "a".toList 5)
    let disk : Disk := { entries := .ofPairs [(place, .file (.text text) false)] }
    let opened := (run path ⟨none, disk⟩ []).perform path .openFile
    disk.IsTree ∧ Text.blank text = false ∧ disk.fileAt? place = some (.text text, false) ∧
      disk.file? path = none ∧ opened.1 = .opened ∧
      opened.2.disk.fileAt? place = some (.text (Store.fileText .empty), false) ∧
      opened.2.disk.fileAt? place ≠ disk.fileAt? place := by
  -- The whole run is evaluated, on a disk with a single file.
  decide +kernel

end Session

end Docket.Counter
