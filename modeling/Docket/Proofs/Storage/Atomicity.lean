import Docket.Proofs.Storage.Lineage

/-!
Replacing a file happens as a whole or not at all.

If it happens, the path leads to the new content and nothing else has changed. If it does not, the
path leads to what it led to before, whichever step went wrong. Either way no temporary file is
left.
-/

namespace Docket.Disk

/-- The place where a replacement puts its temporary file. -/
def IsStaging (disk : Disk) (path : Text) (place : Location) : Prop :=
  ∃ name, Path.fileName? path = some name ∧
    place = disk.target (Path.sibling path (temporaryName name disk.serial))

/-- There is one such place at most. -/
theorem IsStaging.unique {disk : Disk} {path : Text} {place other : Location}
    (left : disk.IsStaging path place) (right : disk.IsStaging path other) : place = other := by
  obtain ⟨name, named, rfl⟩ := left
  obtain ⟨same, again, rfl⟩ := right
  rw [Option.some.inj (named.symm.trans again)]

/-- A temporary name is no dots, for it is too long. -/
theorem isDots_temporaryName (name : Text) (serial : Nat) :
    isDots (temporaryName name serial) = false := by
  -- The dots are at most two characters long.
  have long : 2 < (temporaryName name serial).length := by
    simp only [temporaryName, List.length_append, List.length_cons]
    have : (".tmp.1.".toList).length = 7 := rfl
    omega
  refine Bool.or_eq_false_iff.mpr ⟨?_, ?_⟩
  all_goals
    refine beq_eq_false_iff_ne.mpr fun same => ?_
    rw [same] at long
    exact absurd long (by decide)

/-- A temporary file is not put where the path points. -/
theorem IsStaging.ne_target {disk : Disk} {path : Text} {place : Location}
    (staging : disk.IsStaging path place) : place ≠ disk.target path := by
  -- The last names differ, and a neighbour points to a place of its own name.
  obtain ⟨name, named, rfl⟩ := staging
  have whole := slash_notMem_temporaryName (Path.slash_notMem_fileName named) disk.serial
  obtain ⟨front, names⟩ := List.getLast?_eq_some_iff.mp
    (namesIn_sibling path whole (by simp [temporaryName]))
  have last : (disk.target (Path.sibling path (temporaryName name disk.serial))).getLast? =
      some (temporaryName name disk.serial) := by
    rw [target, names, List.foldl_append, List.foldl_cons, List.foldl_nil,
      enter_of_not_isDots _ (isDots_temporaryName name _), List.getLast?_concat]
  intro same
  rw [same, getLast?_target named] at last
  exact temporaryName_ne name disk.serial (Option.some.inj last).symm

/-- The temporary neighbour of a path names the place where a replacement puts its file. -/
theorem isStaging_of_place {disk prepared : Disk} (home : prepared.home = disk.home)
    {path name : Text} (named : Path.fileName? path = some name) {folder : Location} {last : Text}
    (placed : prepared.place (Path.sibling path (temporaryName name disk.serial)) =
      .ok (folder, last)) : disk.IsStaging path (folder ++ [last]) := by
  -- The last name of the neighbour is the temporary name, so the place is named by it.
  have whole := slash_notMem_temporaryName (Path.slash_notMem_fileName named) disk.serial
  have final := namesIn_sibling path whole (by simp [temporaryName])
  obtain ⟨-, -, -, front, names, -⟩ := place_eq_ok placed
  rw [names, List.getLast?_concat] at final
  have solid : isDots last = false := by
    rw [Option.some.inj final]
    exact isDots_temporaryName name disk.serial
  exact ⟨name, named, (eq_target_of_place placed solid).trans (target_congr home _)⟩

/-- Making the folders above a path does not use up numbers of temporary files. -/
theorem serial_prepare (trouble : Trouble) (path : Text) (disk : Disk) :
    (prepare trouble path disk).2.serial = disk.serial := by
  refine prepare_induction (fun after => after.serial = disk.serial) rfl
    (fun parent _ _ folder _ _ middle after same made => ?_) trouble
  obtain ⟨place, last, -, -, -, rfl⟩ := makeFolder_eq_ok made
  exact same

/-- A temporary file is gone once it came through, and also if it was discarded and could be
removed. -/
theorem fileAt?_writeThrough {trouble : Trouble} {path temporary : Text} {content : Content}
    {disk after : Disk} {outcome : Except PathFault Unit} {place : Location}
    (wrote : writeThrough trouble path temporary content disk = (outcome, after))
    (staged : ∀ folder last, disk.place temporary = .ok (folder, last) → folder ++ [last] = place)
    (apart : place ≠ disk.target path) (free : disk.fileAt? place = none)
    (removed : outcome = .ok () ∨ trouble.removeFails = false) : after.fileAt? place = none := by
  rcases writeThrough_cases wrote with ⟨-, rfl⟩ | ⟨location, opened, held, open_, put⟩
  · exact free
  · obtain ⟨folder, last, executable, placed, rfl, -, rfl⟩ := openEmpty_eq_ok open_
    obtain rfl := staged folder last placed
    have below : folder ++ [last] ≠ [] := by simp
    rcases put with ⟨failed, rfl⟩ | ⟨-, -, renamed⟩
    · -- What failed to come through is discarded.
      have removes := removed.resolve_left failed
      rw [discard, removes, if_neg Bool.false_ne_true, fileAt?, entry?_eraseEntry _ below,
        if_pos rfl]
    · -- What came through is under the name of the path now.
      obtain ⟨-, parent, name, entry, target, solid, -, -, rfl⟩ := renameOver_eq_ok renamed
      have points := eq_target_of_place target solid
      change _ = disk.target path at points
      rw [points, if_neg apart.symm, fileAt?, entry?_putEntry _ (by simp [← points]), if_neg apart,
        entry?_eraseEntry _ below, if_pos rfl]

/-- A replacement comes to a disk on which only folders were made, and then it has failed, or to
what is written from there on through a file at the staging place. -/
theorem replace_stages (path : Text) (content : Content) (disk : Disk) :
    ∃ prepared : Disk, KeepsFolders disk prepared ∧ KeepsFiles (fun _ => False) disk prepared ∧
      ((disk.replace path content).1 ≠ .ok () ∧ (disk.replace path content).2 = prepared ∨
        ∃ temporary outcome,
          (∀ folder last, prepared.place temporary = .ok (folder, last) →
            disk.IsStaging path (folder ++ [last])) ∧
          writeThrough (disk.troubles.headD {}) path temporary content prepared =
            (outcome, (disk.replace path content).2) ∧
          ((disk.replace path content).1 = .ok () ↔ outcome = .ok ())) := by
  let prepared :=
    (prepare (disk.troubles.headD {}) path { disk with troubles := disk.troubles.tail }).2
  obtain ⟨folders, files⟩ :
      KeepsFolders disk prepared ∧ KeepsFiles (fun _ => False) disk prepared :=
    prepare_tail_keeps _ _ _ _
  have serial : prepared.serial = disk.serial := serial_prepare _ _ _
  -- The replacement has failed after making folders, or it goes on to write.
  rcases replace_cases path content disk with failed | ⟨name, outcome, named, wrote, result⟩
  · exact ⟨prepared, folders, files, .inl failed⟩
  · -- The number in the temporary name has no part in where files lie.
    refine ⟨{ prepared with serial := prepared.serial + 1 }, ⟨folders.home, folders.folder⟩, files,
      .inr ⟨_, outcome, fun folder last placed => ?_, wrote, result⟩⟩
    change Disk.place _ (Path.sibling path (temporaryName name prepared.serial)) = _ at placed
    rw [serial] at placed
    refine isStaging_of_place ?_ named placed
    exact folders.home

/-- Where a replacement puts its temporary file no file is left, if there was nothing before and the
file could be removed. -/
theorem IsStaging.fileAt?_replace {path : Text} {disk : Disk} {place : Location}
    (staging : disk.IsStaging path place) (content : Content) (free : disk.entry? place = none)
    (removed : (disk.replace path content).1 = .ok () ∨
      (disk.troubles.headD {}).removeFails = false) :
    (disk.replace path content).2.fileAt? place = none := by
  obtain ⟨prepared, folders, files, stages⟩ := replace_stages path content disk
  -- The folders that were made are no files.
  have nothing : disk.fileAt? place = none := by simp [fileAt?, free]
  have still := (files place not_false).trans nothing
  rcases stages with ⟨-, same⟩ | ⟨temporary, outcome, here, wrote, result⟩
  · -- Nothing was written at all.
    rw [same]
    exact still
  · refine fileAt?_writeThrough wrote (fun folder last placed => ?_) ?_ still
      (removed.imp_left result.mp)
    · -- A path has one staging place, and it is not the place of the path.
      exact (here folder last placed).unique staging
    · rw [target_congr folders.home]
      exact staging.ne_target

/-- A replacement that succeeds leads its path to the new content, and changes no other file but the
temporary one. -/
theorem keepsFiles_replace_ok {path : Text} {content : Content} {disk after : Disk}
    (done : disk.replace path content = (.ok (), after)) :
    after.find path = .ok (disk.target path, .file content false) ∧
      KeepsFiles (fun place => place = disk.target path ∨ disk.IsStaging path place)
        disk after := by
  -- A replacement that succeeds has come to the writing, and the writing has succeeded.
  obtain ⟨prepared, folders, files, stages⟩ := replace_stages path content disk
  rw [done] at stages
  obtain ⟨temporary, outcome, here, wrote, result⟩ :=
    stages.resolve_left fun failed => failed.1 rfl
  obtain rfl := result.mp rfl
  obtain ⟨later, location, found, kept⟩ := writeThrough_ok here wrote
  obtain rfl : location = disk.target path := by
    rw [← target_congr (later.home.trans folders.home) path]
    exact eq_foldl_of_follow (find_eq_file.mp found).2.2.2.1
  exact ⟨found, (files.mono fun _ => False.elim).trans kept⟩

/-- A replacement that succeeds and finds a file in its place changes the file that its path led to
before, if the path steps back only out of places that were there. -/
theorem file?_of_replace_ok {path : Text} {content : Content} {disk after : Disk}
    (done : disk.replace path content = (.ok (), after)) (tree : disk.IsTree)
    (inside : disk.StepsBackInside path) {file : Content × Bool}
    (held : disk.fileAt? (disk.target path) = some file) : disk.file? path = some file := by
  -- The path leads to its place afterwards, and only folders were made on the way to it.
  obtain ⟨found, -⟩ := keepsFiles_replace_ok done
  have made := foldersAbove_replace path content disk
  rw [done] at made
  have led := find_back tree (replace_ok done).1.home made.fresh inside found
    (fileAt?_eq_some.mp held)
  exact file?_eq_some.mpr ⟨_, led⟩

/-- A replacement that fails changes no file but the temporary one. -/
theorem keepsFiles_replace_error {path : Text} {content : Content} {disk after : Disk}
    {fault : ReplaceFault} (failed : disk.replace path content = (.error fault, after)) :
    KeepsFiles (disk.IsStaging path) disk after := by
  obtain ⟨prepared, folders, files, stages⟩ := replace_stages path content disk
  rw [failed] at stages
  have files : KeepsFiles (disk.IsStaging path) disk prepared := files.mono fun _ => False.elim
  -- It failed before anything was written, or while writing through the temporary file.
  rcases stages with ⟨-, same⟩ | ⟨temporary, outcome, here, wrote, result⟩
  · obtain rfl : after = prepared := same
    exact files
  · cases outcome with
    | error fault => exact files.trans (writeThrough_error here wrote).2
    | ok => exact absurd (result.mpr rfl) (by simp)

/-- A path that leads to something after a replacement has failed did so before, if it steps back
only out of places that were there. -/
theorem find_of_replace_error {path : Text} {content : Content} {disk after : Disk}
    {fault : ReplaceFault} (failed : disk.replace path content = (.error fault, after))
    (tree : disk.IsTree) (inside : disk.StepsBackInside path)
    {found : Location × Entry} (later : after.find path = .ok found) :
    disk.find path = .ok found := by
  obtain ⟨location, entry⟩ := found
  obtain ⟨folders, files⟩ := replace_error failed
  have made := foldersAbove_replace path content disk
  rw [failed] at made
  cases entry with
  | folder => exact find_back_folder tree folders.home made inside later
  | file held executable =>
    -- What the path leads to is no temporary file, so it was there with the same content.
    have kept := files location (not_isTemporary_of_find later)
    rw [fileAt?_eq_some.mpr (find_eq_file.mp later).2.2.2.2] at kept
    exact find_back tree folders.home made.fresh inside later (fileAt?_eq_some.mp kept.symm)

/-- A text that can be read after a replacement has failed could be read before, if the path steps
back only out of places that were there. -/
theorem readText_replace_error {path : Text} {content : Content} {disk after : Disk}
    {fault : ReplaceFault} (tree : disk.IsTree) (inside : disk.StepsBackInside path)
    (failed : disk.replace path content = (.error fault, after)) (text : Text) :
    after.readText path = .ok text ↔ disk.readText path = .ok text := by
  constructor
  · -- What can be read is what the path leads to, and it led there before.
    intro read
    obtain ⟨⟨held, executable⟩, found⟩ := file?_of_readText read
    obtain ⟨location, later⟩ := file?_eq_some.mp found
    have before := find_of_replace_error failed tree inside later
    rw [readText_of_file? (file?_eq_some.mpr ⟨location, before⟩)]
    rwa [readText_of_file? found] at read
  · -- What could be read is kept, although replacing it failed.
    intro read
    obtain ⟨⟨held, executable⟩, found⟩ := file?_of_readText read
    rw [readText_of_file? (file?_replace_error failed found)]
    rwa [readText_of_file? found] at read

/--
Replacing a file happens as a whole or not at all, if the place for the temporary file is free.

If it happens, the path leads to exactly the new content, every other file is as it was, and the
temporary file is gone.

If it does not, whatever went wrong on the way:

- every file but the temporary one is as it was, and that one is not there unless it could not be
  removed,
- what the path led to it leads to still, be it a file or a folder,
- and where it led nowhere it leads nowhere still, if it steps back only out of places that were
  there.

Either way the folders above the path, and no others, are made and kept. This is why a path that
steps back out of a missing folder may lead somewhere afterwards.
-/
theorem replace_atomic (path : Text) (content : Content) (disk : Disk)
    (free : ∀ place, disk.IsStaging path place → disk.entry? place = none) :
    (∀ after, disk.replace path content = (.ok (), after) →
      after.find path = .ok (disk.target path, .file content false) ∧
      KeepsFolders disk after ∧ FoldersAbove path disk after ∧
      KeepsFiles (· = disk.target path) disk after ∧
      ∀ place, disk.IsStaging path place → after.fileAt? place = none) ∧
    (∀ fault after, disk.replace path content = (.error fault, after) →
      KeepsFolders disk after ∧ FoldersAbove path disk after ∧
      KeepsFiles (disk.IsStaging path) disk after ∧
      ((disk.troubles.headD {}).removeFails = false →
        ∀ place, disk.IsStaging path place → after.fileAt? place = none) ∧
      (∀ found, disk.find path = .ok found → after.find path = .ok found) ∧
      (disk.IsTree → disk.StepsBackInside path →
        ∀ found, after.find path = .ok found → disk.find path = .ok found)) := by
  -- The staging place was free, so the file there is the temporary one.
  have swept (place : Location) (staging : disk.IsStaging path place) :=
    staging.fileAt?_replace content (free place staging)
  have made := foldersAbove_replace path content disk
  constructor
  · intro after done
    rw [done] at swept made
    obtain ⟨found, files⟩ := keepsFiles_replace_ok done
    refine ⟨found, (replace_ok done).1, made, fun place apart => ?_,
      fun place staging => swept place staging (.inl rfl)⟩
    -- The temporary file was not there before and is not there now.
    by_cases staging : disk.IsStaging path place
    · rw [swept place staging (.inl rfl), fileAt?, free place staging]
    · exact files place (not_or.mpr ⟨apart, staging⟩)
  · intro fault after failed
    rw [failed] at swept made
    exact ⟨(replace_error failed).1, made, keepsFiles_replace_error failed,
      fun removes place staging => swept place staging (.inr removes),
      fun found => find_replace_error failed,
      fun tree inside found => find_of_replace_error failed tree inside⟩

/-- A file that could be written in part only is still the older one, and the next time it is the
new one. -/
theorem replace_atomic_interrupted :
    let path := "f/../d".toList
    let disk : Disk := {
      entries := .ofPairs [(["f".toList], .folder), (["d".toList], .file (.text "old".toList) true)]
      troubles := [{ writesOnly := some 1 }] }
    let interrupted := disk.replace path (.text "new".toList)
    let done := interrupted.2.replace path (.text "new".toList)
    (∀ place, disk.IsStaging path place → disk.entry? place = none) ∧
      disk.IsTree ∧ disk.StepsBackInside path ∧
      interrupted.1 = .error (.path .refused) ∧
      (∀ found, interrupted.2.find path = .ok found ↔ disk.find path = .ok found) ∧
      (∀ place, interrupted.2.IsStaging path place → Disk.entry? interrupted.2 place = none) ∧
      done.1 = .ok () ∧
      done.2.find path = .ok (["d".toList], .file (.text "new".toList) false) := by
  intro path disk interrupted done
  -- There is one staging place for each of the two replacements, and both are free.
  have named : Path.fileName? path = some "d".toList := by decide +kernel
  have free : ∀ place, disk.IsStaging path place → disk.entry? place = none := by
    rintro place ⟨name, again, rfl⟩
    obtain rfl := Option.some.inj (named.symm.trans again)
    decide +kernel
  have still : ∀ place, interrupted.2.IsStaging path place →
      Disk.entry? interrupted.2 place = none := by
    rintro place ⟨name, again, rfl⟩
    obtain rfl := Option.some.inj (named.symm.trans again)
    decide +kernel
  have tree : disk.IsTree := by decide +kernel
  have inside : disk.StepsBackInside path := by decide +kernel
  have failed : interrupted.1 = .error (.path .refused) := by decide +kernel
  have came : done.1 = .ok () := by decide +kernel
  have points : interrupted.2.target path = ["d".toList] := by decide +kernel
  -- The first replacement fails and the second one succeeds, and each is a case of the general
  -- theorem.
  obtain ⟨-, -, -, -, kept, back⟩ := (replace_atomic path (.text "new".toList) disk free).2 _ _
    (Prod.ext failed rfl)
  obtain ⟨found, -⟩ := (replace_atomic path (.text "new".toList) interrupted.2 still).1 _
    (Prod.ext came rfl)
  rw [points] at found
  exact ⟨free, tree, inside, failed, fun other => ⟨back tree inside other, kept other⟩, still, came,
    found⟩

/-- A path that leads out of a missing folder and back to it leads nowhere. But that folder is made
before the replacement fails, which it does because the path leads to a folder now. -/
theorem replace_leaves_folder :
    let name := "a".toList
    let path := "a/../a".toList
    let disk : Disk := {}
    let replaced := disk.replace path (.text "new".toList)
    disk.IsTree ∧ Path.fileName? path = some name ∧
      disk.entry? (disk.target (Path.sibling path (temporaryName name 0))) = none ∧
      disk.find path = .error .missing ∧ disk.entry? (disk.target path) = none ∧
      replaced.1 = .error (.path .isFolder) ∧ replaced.2.find path = .ok ([name], .folder) := by
  -- The whole replacement is evaluated, on an empty disk.
  decide +kernel

end Docket.Disk
