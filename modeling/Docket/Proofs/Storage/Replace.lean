import Docket.Proofs.Storage.Disk

/-! Replacing a file either gives its path the new content or leaves every file as it was. -/

namespace Docket.Disk

/-- A change that leaves every file outside the spared locations as it was. -/
def KeepsFiles (spared : Location → Prop) (before after : Disk) : Prop :=
  -- What becomes of folders and of empty places is not said here.
  ∀ location, ¬ spared location → after.fileAt? location = before.fileAt? location

namespace KeepsFiles

/-- Doing nothing keeps every file. -/
theorem refl (spared : Location → Prop) (disk : Disk) : KeepsFiles spared disk disk :=
  fun _ _ => rfl

/-- Two changes keep the files that each of them keeps. -/
theorem trans {spared : Location → Prop} {first second third : Disk}
    (left : KeepsFiles spared first second) (right : KeepsFiles spared second third) :
    KeepsFiles spared first third :=
  fun location kept => (right location kept).trans (left location kept)

/-- A change that spares less keeps more. -/
theorem mono {narrow wide : Location → Prop} {before after : Disk}
    (keeps : KeepsFiles narrow before after)
    (within : ∀ location, narrow location → wide location) : KeepsFiles wide before after :=
  fun location kept => keeps location fun spared => kept (within location spared)

/-- Putting an entry changes no file but the one in its place. -/
theorem putEntry {spared : Location → Prop} (disk : Disk) {location : Location}
    (below : location ≠ []) (entry : Entry) (here : spared location) :
    KeepsFiles spared disk (disk.putEntry location entry) := by
  intro other kept
  have apart : other ≠ location := fun same => kept (same ▸ here)
  simp only [fileAt?, entry?_putEntry disk below, if_neg apart]

/-- Removing an entry changes no file but the one in its place. -/
theorem eraseEntry {spared : Location → Prop} (disk : Disk) {location : Location}
    (below : location ≠ []) (here : spared location) :
    KeepsFiles spared disk (disk.eraseEntry location) := by
  intro other kept
  have apart : other ≠ location := fun same => kept (same ▸ here)
  simp only [fileAt?, entry?_eraseEntry disk below, if_neg apart]

/-- A folder in an empty place changes no file. -/
theorem putFolder {disk : Disk} {location : Location} (below : location ≠ [])
    (free : disk.entry? location = none) (spared : Location → Prop) :
    KeepsFiles spared disk (disk.putEntry location .folder) := by
  -- An empty place held no file, and a folder is none either.
  intro other _
  by_cases same : other = location
  · simp [fileAt?, entry?_putEntry disk below, same, free]
  · simp only [fileAt?, entry?_putEntry disk below, if_neg same]

end KeepsFiles

/-- A place that is empty after a change was empty before, if the change keeps all folders and
files. -/
theorem entry?_eq_none_of_keeps {before after : Disk} (folders : KeepsFolders before after)
    (files : KeepsFiles (fun _ => False) before after) {location : Location}
    (free : after.entry? location = none) : before.entry? location = none := by
  -- A folder or a file at the place would still be there.
  cases held : before.entry? location with
  | none => rfl
  | some entry =>
    cases entry with
    | folder => simp [folders.folder location held] at free
    | file content executable =>
      have kept := (files location not_false).trans (fileAt?_eq_some.mpr held)
      simp [fileAt?_eq_some.mp kept] at free

/-- A folder is made in an empty place. -/
theorem makeFolder_eq_ok {disk after : Disk} {path : Text}
    (made : disk.makeFolder path = .ok after) : ∃ folder last,
      disk.place path = .ok (folder, last) ∧ isDots last = false ∧
      disk.entry? (folder ++ [last]) = none ∧
      after = disk.putEntry (folder ++ [last]) .folder := by
  -- Every other way through the definition ends in an error.
  unfold makeFolder at made
  simp only [throw, throwThe, MonadExceptOf.throw, bind, Except.bind, pure, Except.pure] at made
  split at made
  · exact absurd made (by simp)
  · rename_i spot placed
    split at made
    · exact absurd made (by simp)
    · rename_i solid
      split at made
      · exact absurd made (by simp)
      · rename_i free
        exact ⟨spot.1, spot.2, placed, by simpa using solid, free, (Except.ok.inj made).symm⟩

/-- What holds of a disk, and still holds once a folder of a line is made on it, holds once the line
of folders is made. -/
theorem makeFolders_go_induction (holds : Disk → Prop) {line : List Text}
    (step : ∀ path ∈ line, path ≠ [] → ∀ disk after, holds disk →
      disk.makeFolder path = .ok after → holds after)
    (allowed : Option Nat) {disk : Disk} (start : holds disk) :
    holds (makeFolders.go allowed disk line).2 := by
  -- The walk stops at the first folder that cannot be made.
  induction line generalizing allowed disk with
  | nil => exact start
  | cons path rest ih =>
    have later := fun path inside => step path (List.mem_cons_of_mem _ inside)
    unfold makeFolders.go
    split
    · exact ih later allowed start
    · rename_i missing
      have filled : path ≠ [] := by
        rintro rfl
        simp at missing
      split
      · exact start
      · split
        · -- One folder more is there, and the others are made from it.
          rename_i after made
          exact ih later _ (step path (.head _) filled disk after start made)
        · exact start

/-- What holds of a disk, and still holds once a folder above a path is made on it, holds once the
folders above the path are made. -/
theorem prepare_induction (holds : Disk → Prop) {path : Text} {disk : Disk} (start : holds disk)
    (step : ∀ parent, Path.parent? path = some parent → parent ≠ [] →
      ∀ folder ∈ Path.lineage parent.length parent, folder ≠ [] → ∀ disk after, holds disk →
        disk.makeFolder folder = .ok after → holds after)
    (trouble : Trouble) : holds (prepare trouble path disk).2 := by
  -- If the parent is there already nothing is done at all.
  unfold prepare
  split
  · exact start
  · rename_i parent found
    split
    · exact start
    · rename_i missing
      have filled : parent ≠ [] := by
        rintro rfl
        simp at missing
      exact makeFolders_go_induction holds
        (fun folder inside => step parent found filled folder (List.mem_reverse.mp inside)) _ start

/-- Making the folders above a path moves no folder and changes no file. -/
theorem prepare_keeps (trouble : Trouble) (path : Text) (disk : Disk)
    (spared : Location → Prop) :
    KeepsFolders disk (prepare trouble path disk).2 ∧
      KeepsFiles spared disk (prepare trouble path disk).2 := by
  refine prepare_induction (fun after => KeepsFolders disk after ∧ KeepsFiles spared disk after)
    ⟨.refl disk, .refl spared disk⟩
    (fun parent _ _ folder _ _ middle after keeps made => ?_) trouble
  -- A folder that is made takes an empty place.
  obtain ⟨place, last, -, -, free, rfl⟩ := makeFolder_eq_ok made
  have below : place ++ [last] ≠ [] := by simp
  exact ⟨keeps.1.trans (.putEntry below (by rw [free]; simp) .folder),
    keeps.2.trans (.putFolder below free spared)⟩

/-- A file that is opened for writing is empty and lies where no folder is. -/
theorem openEmpty_eq_ok {disk after : Disk} {path : Text} {location : Location}
    (opened : disk.openEmpty path = .ok (location, after)) : ∃ folder last executable,
      disk.place path = .ok (folder, last) ∧ location = folder ++ [last] ∧
      disk.entry? location ≠ some .folder ∧
      after = disk.putEntry location (.file (.text []) executable) := by
  -- Every way through the definition that gives a file empties the one at the place.
  unfold openEmpty at opened
  simp only [throw, throwThe, MonadExceptOf.throw, bind, Except.bind, pure, Except.pure] at opened
  split at opened
  · exact absurd opened (by simp)
  · split at opened
    · exact absurd opened (by simp)
    · rename_i spot placed
      split at opened
      · exact absurd opened (by simp)
      · split at opened
        · exact absurd opened (by simp)
        · -- A file that is there is emptied.
          rename_i executable found
          obtain ⟨rfl, rfl⟩ := Prod.mk.inj (Except.ok.inj opened)
          exact ⟨spot.1, spot.2, executable, placed, rfl, by simp [found], rfl⟩
        · -- Where nothing is a new file is made.
          rename_i found
          obtain ⟨rfl, rfl⟩ := Prod.mk.inj (Except.ok.inj opened)
          exact ⟨spot.1, spot.2, false, placed, rfl, by simp [found], rfl⟩

/-- What is renamed takes the place of the path, where no folder is. -/
theorem renameOver_eq_ok {disk after : Disk} {path : Text} {source : Location}
    (renamed : disk.renameOver source path = .ok after) : wantsFolder path = false ∧
      ∃ folder last entry, disk.place path = .ok (folder, last) ∧ isDots last = false ∧
        disk.entry? (folder ++ [last]) ≠ some .folder ∧ disk.entry? source = some entry ∧
        after = if folder ++ [last] = source then disk
          else (disk.eraseEntry source).putEntry (folder ++ [last]) entry := by
  -- A file is put in place only after all the checks.
  unfold renameOver at renamed
  simp only [throw, throwThe, MonadExceptOf.throw, bind, Except.bind, pure, Except.pure] at renamed
  split at renamed
  · exact absurd renamed (by simp)
  · rename_i plain
    split at renamed
    · exact absurd renamed (by simp)
    · rename_i spot placed
      split at renamed
      · exact absurd renamed (by simp)
      · rename_i solid
        refine ⟨by simpa using plain, spot.1, spot.2, ?_⟩
        split at renamed
        · exact absurd renamed (by simp)
        · exact absurd renamed (by simp)
        · rename_i entry found free
          refine ⟨entry, placed, by simpa using solid, free, found, ?_⟩
          split at renamed
          · -- A file that is renamed to its own place stays.
            rename_i same
            rw [if_pos same, Except.ok.inj renamed]
          · rename_i apart
            rw [if_neg apart, Except.ok.inj renamed]

/-- The places that only temporary neighbours of a path take. -/
def IsTemporary (path : Text) (location : Location) : Prop :=
  -- The name alone decides, since the folder of the neighbour may be reached in many ways.
  ∃ name serial, Path.fileName? path = some name ∧
    location.getLast? = some (temporaryName name serial)

/-- A content that has been put into the temporary file, while all other files stay. -/
structure Staged (spared : Location → Prop) (location : Location) (content : Content)
    (before after : Disk) : Prop where
  below : location ≠ []
  here : spared location
  held : after.entry? location = some (.file content false)
  folders : KeepsFolders before after
  files : KeepsFiles spared before after

/-- Writing to the opened temporary file stages the content. -/
theorem staged_openEmpty {spared : Location → Prop} {temporary : Text} {disk opened : Disk}
    {location : Location}
    (neighbour : ∀ folder last, disk.place temporary = .ok (folder, last) →
      spared (folder ++ [last]))
    (open_ : disk.openEmpty temporary = .ok (location, opened)) (content : Content) :
    Staged spared location content disk (opened.putEntry location (.file content false)) := by
  -- The file is first emptied and then written, both at the same place.
  obtain ⟨folder, last, executable, placed, rfl, free, rfl⟩ := openEmpty_eq_ok open_
  have below : folder ++ [last] ≠ [] := by simp
  have here := neighbour folder last placed
  have empty : Disk.entry? (disk.putEntry (folder ++ [last]) (.file (.text []) executable))
      (folder ++ [last]) ≠ some .folder := by
    rw [entry?_putEntry disk below, if_pos rfl]
    simp
  refine ⟨below, here, ?_, ?_, ?_⟩
  · rw [entry?_putEntry _ below, if_pos rfl]
  · exact (KeepsFolders.putEntry below free _).trans (.putEntry below empty _)
  · exact (KeepsFiles.putEntry disk below _ here).trans (.putEntry _ below _ here)

/-- Discarding a staged content, or failing to, changes no other file. -/
theorem Staged.discard {spared : Location → Prop} {location : Location} {content : Content}
    {before after : Disk} (staged : Staged spared location content before after)
    (trouble : Trouble) : KeepsFolders before (Disk.discard trouble location after) ∧
      KeepsFiles spared before (Disk.discard trouble location after) := by
  -- Either the temporary file is removed or it stays, and no other file is touched.
  unfold Disk.discard
  split
  · exact ⟨staged.folders, staged.files⟩
  · have free : after.entry? location ≠ some .folder := by simp [staged.held]
    exact ⟨staged.folders.trans (.eraseEntry staged.below free),
      staged.files.trans (.eraseEntry after staged.below staged.here)⟩

/-- Renaming a staged content over a path leads the path to it. -/
theorem Staged.renameOver {spared : Location → Prop} {source : Location} {content : Content}
    {before middle after : Disk} {path : Text}
    (staged : Staged spared source content before middle)
    (renamed : middle.renameOver source path = .ok after) :
    KeepsFolders before after ∧ ∃ location,
      after.find path = .ok (location, .file content false) ∧
      KeepsFiles (fun other => other = location ∨ spared other) before after := by
  -- The source is removed and the target put, and neither of them is a folder.
  obtain ⟨plain, folder, last, entry, placed, solid, free, found, rfl⟩ := renameOver_eq_ok renamed
  obtain rfl := Option.some.inj (staged.held.symm.trans found)
  have wide : KeepsFiles (fun other => other = folder ++ [last] ∨ spared other) before middle :=
    staged.files.mono fun _ => .inr
  split
  · -- The temporary file has the name that is to be replaced.
    rename_i same
    refine ⟨staged.folders, folder ++ [last], ?_, wide⟩
    exact find_of_place (.refl middle) placed solid plain (by rw [same]; exact staged.held)
  · -- The temporary file leaves its place and takes that of the path.
    have below : folder ++ [last] ≠ [] := by simp
    have file : middle.entry? source ≠ some .folder := by simp [staged.held]
    have free : Disk.entry? (middle.eraseEntry source) (folder ++ [last]) ≠ some .folder := by
      rw [entry?_eraseEntry middle staged.below]
      split
      · simp
      · exact free
    have folders := (KeepsFolders.eraseEntry staged.below file).trans
      (.putEntry below free (.file content false))
    refine ⟨staged.folders.trans folders, folder ++ [last], ?_, ?_⟩
    · refine find_of_place folders placed solid plain ?_
      rw [entry?_putEntry _ below, if_pos rfl]
    · exact (wide.trans (.eraseEntry middle staged.below (.inr staged.here))).trans
        (.putEntry _ below _ (.inl rfl))

/-- Writing through a temporary file either opens none, or puts something into it that is then
discarded or, if it is the whole content, renamed. Only what is renamed comes through. -/
theorem writeThrough_cases {trouble : Trouble} {path temporary : Text} {content : Content}
    {disk after : Disk} {outcome : Except PathFault Unit}
    (wrote : writeThrough trouble path temporary content disk = (outcome, after)) :
    outcome ≠ .ok () ∧ after = disk ∨ ∃ location opened held,
      disk.openEmpty temporary = .ok (location, opened) ∧
      (outcome ≠ .ok () ∧
          after = discard trouble location (opened.putEntry location (.file held false)) ∨
        outcome = .ok () ∧ held = content ∧
          Disk.renameOver (opened.putEntry location (.file held false)) location path =
            .ok after) := by
  -- Only a part is put into the file if writing stops, and that part is discarded.
  obtain rfl := congrArg Prod.fst wrote
  obtain rfl := congrArg Prod.snd wrote
  unfold writeThrough
  split
  · exact .inl ⟨by simp, rfl⟩
  · -- Without an open file nothing has changed.
    split
    · exact .inl ⟨by simp, rfl⟩
    · rename_i location opened open_
      split
      · exact .inr ⟨location, opened, _, open_, .inl ⟨by simp, rfl⟩⟩
      · split
        · exact .inr ⟨location, opened, content, open_, .inl ⟨by simp, rfl⟩⟩
        · dsimp only
          split
          · rename_i renamed
            exact .inr ⟨location, opened, content, open_, .inr ⟨rfl, rfl, renamed⟩⟩
          · exact .inr ⟨location, opened, content, open_, .inl ⟨by simp, rfl⟩⟩

/-- If a temporary file does not come through, no other file has changed. -/
theorem writeThrough_error {trouble : Trouble} {path temporary : Text} {content : Content}
    {disk after : Disk} {fault : PathFault} {spared : Location → Prop}
    (neighbour : ∀ folder last, disk.place temporary = .ok (folder, last) →
      spared (folder ++ [last]))
    (failed : writeThrough trouble path temporary content disk = (.error fault, after)) :
    KeepsFolders disk after ∧ KeepsFiles spared disk after := by
  -- Until the temporary file is open nothing has changed, and afterwards it is discarded.
  rcases writeThrough_cases failed with
    ⟨-, rfl⟩ | ⟨location, opened, held, open_, ⟨-, rfl⟩ | ⟨done, -⟩⟩
  · exact ⟨.refl after, .refl spared after⟩
  · exact (staged_openEmpty neighbour open_ held).discard trouble
  · exact absurd done (by simp)

/-- If a temporary file comes through, the path leads to its content, and no file has changed but
that one. -/
theorem writeThrough_ok {trouble : Trouble} {path temporary : Text} {content : Content}
    {disk after : Disk} {spared : Location → Prop}
    (neighbour : ∀ folder last, disk.place temporary = .ok (folder, last) →
      spared (folder ++ [last]))
    (done : writeThrough trouble path temporary content disk = (.ok (), after)) :
    KeepsFolders disk after ∧ ∃ location,
      after.find path = .ok (location, .file content false) ∧
      KeepsFiles (fun other => other = location ∨ spared other) disk after := by
  -- Only one way ends well: everything is written and then renamed.
  rcases writeThrough_cases done with
    ⟨failed, -⟩ | ⟨source, opened, held, open_, ⟨failed, -⟩ | ⟨-, rfl, renamed⟩⟩
  · exact absurd rfl failed
  · exact absurd rfl failed
  · exact (staged_openEmpty neighbour open_ held).renameOver renamed

/-- The temporary file of a replacement takes a temporary place. -/
theorem isTemporary_of_place {path name : Text} (named : Path.fileName? path = some name)
    (serial : Nat) {disk : Disk} {folder : Location} {last : Text}
    (placed : disk.place (Path.sibling path (temporaryName name serial)) = .ok (folder, last)) :
    IsTemporary path (folder ++ [last]) := by
  -- The place of a path ends in its last name, which is the temporary one.
  obtain ⟨-, -, -, front, names, -⟩ := place_eq_ok placed
  have final := namesIn_sibling path
    (slash_notMem_temporaryName (Path.slash_notMem_fileName named) serial)
    (by simp [temporaryName])
  rw [names, List.getLast?_concat] at final
  exact ⟨name, serial, named, by rw [List.getLast?_concat, final]⟩

/-- A replacement comes to what it has prepared, and then it has failed, or to what is written
through a temporary neighbour from there on. -/
theorem replace_cases (path : Text) (content : Content) (disk : Disk) :
    let trouble := disk.troubles.headD {}
    let prepared := (prepare trouble path { disk with troubles := disk.troubles.tail }).2
    (disk.replace path content).1 ≠ .ok () ∧ (disk.replace path content).2 = prepared ∨
      ∃ name outcome, Path.fileName? path = some name ∧
        writeThrough trouble path (Path.sibling path (temporaryName name prepared.serial)) content
          { prepared with serial := prepared.serial + 1 } =
            (outcome, (disk.replace path content).2) ∧
        ((disk.replace path content).1 = .ok () ↔ outcome = .ok ()) := by
  -- Nothing is written if folders could not be made or the path has no name.
  intro trouble prepared
  unfold replace
  dsimp only
  -- Folders are made first, then the name is looked at, and then the file is written.
  split
  · rename_i made
    exact .inl ⟨by simp, (congrArg Prod.snd made).symm⟩
  · rename_i ready made
    obtain rfl : prepared = ready := congrArg Prod.snd made
    split
    · exact .inl ⟨by simp, rfl⟩
    · rename_i name named
      split
      · rename_i wrote
        exact .inr ⟨name, _, named, wrote, by simp⟩
      · rename_i wrote
        exact .inr ⟨name, _, named, wrote, by simp⟩

/-- A replacement first takes its trouble and makes the folders above its path. -/
theorem prepare_tail_keeps (trouble : Trouble) (path : Text) (disk : Disk)
    (spared : Location → Prop) :
    KeepsFolders disk (prepare trouble path { disk with troubles := disk.troubles.tail }).2 ∧
      KeepsFiles spared disk
        (prepare trouble path { disk with troubles := disk.troubles.tail }).2 := by
  have keeps := prepare_keeps trouble path { disk with troubles := disk.troubles.tail } spared
  -- The troubles that are left are no entries.
  exact ⟨⟨keeps.1.home, keeps.1.folder⟩, keeps.2⟩

/-- A replacement that fails moves no folder and changes no file but a temporary one. -/
theorem replace_error {path : Text} {content : Content} {disk after : Disk} {fault : ReplaceFault}
    (failed : disk.replace path content = (.error fault, after)) :
    KeepsFolders disk after ∧ KeepsFiles (IsTemporary path) disk after := by
  -- It may fail before anything is written, or while the content is written.
  obtain ⟨folders, files⟩ :=
    prepare_tail_keeps (disk.troubles.headD {}) path disk (IsTemporary path)
  have cases := replace_cases path content disk
  rw [failed] at cases
  rcases cases with ⟨-, rfl⟩ | ⟨name, outcome, named, wrote, result⟩
  · exact ⟨folders, files⟩
  · cases outcome with
    | ok => exact absurd (result.mpr rfl) (by simp)
    | error fault =>
      -- The number in the temporary name has no part in where files lie.
      obtain ⟨later, kept⟩ := writeThrough_error
        (fun folder last placed => isTemporary_of_place named _ placed) wrote
      exact ⟨folders.trans ⟨later.home, later.folder⟩, files.trans kept⟩

/-- A replacement that succeeds leads its path to the new content. It moves no folder, and of the
files it changes only that one and a temporary one. -/
theorem replace_ok {path : Text} {content : Content} {disk after : Disk}
    (done : disk.replace path content = (.ok (), after)) :
    KeepsFolders disk after ∧ ∃ location,
      after.find path = .ok (location, .file content false) ∧
      KeepsFiles (fun other => other = location ∨ IsTemporary path other) disk after := by
  -- The folders are made, the path has a name, and the temporary file comes through.
  have cases := replace_cases path content disk
  rw [done] at cases
  obtain ⟨name, outcome, named, wrote, result⟩ := cases.resolve_left fun failed => failed.1 rfl
  obtain rfl := result.mp rfl
  obtain ⟨later, location, found, kept⟩ := writeThrough_ok
    (fun folder last placed => isTemporary_of_place named _ placed) wrote
  obtain ⟨folders, files⟩ := prepare_tail_keeps (disk.troubles.headD {}) path disk
    (fun other => other = location ∨ IsTemporary path other)
  exact ⟨folders.trans ⟨later.home, later.folder⟩, location, found, files.trans kept⟩

/-- Single dots do not count where a path points. -/
theorem foldl_enter_filter (names : List Text) (start : Location) :
    (names.filter (· != ['.'])).foldl enter start = names.foldl enter start := by
  induction names generalizing start with
  | nil => rfl
  | cons name rest ih =>
    by_cases dot : name = ['.']
    · simp [dot, ih, enter]
    · simp [dot, ih]

/-- The pieces of a path that lead anywhere are its names other than single dots. -/
theorem filter_namesIn (path : Text) :
    (namesIn path).filter (· != ['.']) = (Path.pieces path).filter (!Path.isIdle ·) := by
  rw [namesIn, List.filter_filter]
  congr
  funext piece
  cases piece <;> simp [Path.isIdle, bne]

/-- A path with a name points to a place of that name. -/
theorem getLast?_target {path name : Text} (named : Path.fileName? path = some name)
    (disk : Disk) : (disk.target path).getLast? = some name := by
  -- The name is the last piece that leads anywhere, and it leads neither here nor back.
  obtain ⟨final, forward⟩ := Path.fileName?_eq_some named
  rw [← filter_namesIn] at final
  obtain ⟨front, names⟩ := List.getLast?_eq_some_iff.mp final
  have inside : name ∈ (namesIn path).filter (· != ['.']) := by simp [names]
  have other : name ≠ ['.'] := by simpa using (List.mem_filter.mp inside).2
  have solid : isDots name = false := by simp [isDots, other, forward]
  rw [target, ← foldl_enter_filter, names, List.foldl_append, List.foldl_cons, List.foldl_nil,
    enter_of_not_isDots _ solid, List.getLast?_concat]

/-- The last name of a path that leads to a file is the name of that file. -/
theorem getLast?_of_find {disk : Disk} {path name : Text} {location : Location}
    {content : Content} {executable : Bool}
    (found : disk.find path = .ok (location, .file content executable))
    (named : Path.fileName? path = some name) : location.getLast? = some name := by
  -- The file lies where the path points.
  obtain rfl := eq_foldl_of_follow (find_eq_file.mp found).2.2.2.1
  exact getLast?_target named disk

/-- A path that leads to a file leads to no temporary place. -/
theorem not_isTemporary_of_find {disk : Disk} {path : Text} {location : Location}
    {content : Content} {executable : Bool}
    (found : disk.find path = .ok (location, .file content executable)) :
    ¬ IsTemporary path location := by
  -- The place has the name of the path, and a temporary name is longer.
  rintro ⟨name, serial, named, final⟩
  rw [getLast?_of_find found named] at final
  exact temporaryName_ne name serial (Option.some.inj final).symm

/-- The file that a path leads to, by its location. -/
theorem file?_eq_some {disk : Disk} {path : Text} {content : Content} {executable : Bool} :
    disk.file? path = some (content, executable) ↔
      ∃ location, disk.find path = .ok (location, .file content executable) := by
  -- A folder or a fault is no file.
  unfold file?
  split
  · rename_i found
    simp [found]
  · rename_i other
    simpa using fun location => other location content executable

/-- A path that leads to something does so after a replacement has failed, and to the same. -/
theorem find_replace_error {path : Text} {content : Content} {disk after : Disk}
    {fault : ReplaceFault} (failed : disk.replace path content = (.error fault, after))
    {found : Location × Entry} (before : disk.find path = .ok found) :
    after.find path = .ok found := by
  -- The way is still open, and a file at its end is none of the temporary ones.
  obtain ⟨location, entry⟩ := found
  obtain ⟨folders, files⟩ := replace_error failed
  cases entry with
  | folder => exact find_mono_folder folders before
  | file held executable =>
    have kept := files location (not_isTemporary_of_find before)
    rw [fileAt?_eq_some.mpr (find_eq_file.mp before).2.2.2.2, fileAt?_eq_some] at kept
    exact find_mono folders before kept

/-- A replacement that fails leaves the file of its path as it was. -/
theorem file?_replace_error {path : Text} {content : Content} {disk after : Disk}
    {fault : ReplaceFault} (failed : disk.replace path content = (.error fault, after))
    {file : Content × Bool} (found : disk.file? path = some file) :
    after.file? path = some file := by
  obtain ⟨location, found⟩ := file?_eq_some.mp found
  exact file?_eq_some.mpr ⟨location, find_replace_error failed found⟩

/-- The text of a file is what the path leads to. -/
theorem readText_of_file? {disk : Disk} {path : Text} {content : Content} {executable : Bool}
    (found : disk.file? path = some (content, executable)) :
    disk.readText path = match content.text? with
      | some text => .ok text
      | none => .error .unusable := by
  -- What is read is what is found.
  obtain ⟨location, found⟩ := file?_eq_some.mp found
  unfold readText
  simp only [found, bind, Except.bind, pure, Except.pure]
  cases content <;> rfl

/-- A text is read from a file. -/
theorem file?_of_readText {disk : Disk} {path text : Text} (read : disk.readText path = .ok text) :
    ∃ file, disk.file? path = some file := by
  -- Neither a fault nor a folder has a text.
  unfold readText at read
  cases found : disk.find path with
  | error fault => simp [found, bind, Except.bind] at read
  | ok spot =>
    obtain ⟨location, entry⟩ := spot
    cases entry with
    | folder => simp [found, bind, Except.bind, throw, throwThe, MonadExceptOf.throw] at read
    | file content executable => exact ⟨_, file?_eq_some.mpr ⟨location, found⟩⟩

end Docket.Disk
