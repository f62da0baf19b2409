import Docket.Proofs.Storage.Replace
import Docket.Proofs.Table.Entries
import Mathlib.Data.List.Infix

/-! Disks are trees. A replacement that fails opens no way to a file, except where a path steps back
out of a folder that was missing and is made. -/

namespace Docket.Disk

/-- Every entry lies in a folder, and so the working folder is there with all folders above it. -/
structure IsTree (disk : Disk) : Prop where
  home : disk.entry? disk.home = some .folder
  entries : ∀ location ∈ disk.entries.keys, disk.entry? location.dropLast = some .folder

instance (disk : Disk) : Decidable disk.IsTree :=
  decidable_of_iff (disk.entry? disk.home = some .folder ∧
      ∀ location ∈ disk.entries.keys, disk.entry? location.dropLast = some .folder)
    ⟨fun both => ⟨both.1, both.2⟩, fun tree => ⟨tree.home, tree.entries⟩⟩

/-- What is there lies in a folder. -/
theorem IsTree.folder_dropLast {disk : Disk} (tree : disk.IsTree) {location : Location}
    (there : (disk.entry? location).isSome = true) :
    disk.entry? location.dropLast = some .folder := by
  -- The root lies in itself.
  unfold entry? at there
  split at there
  · rename_i root
    rw [List.isEmpty_iff.mp root]
    rfl
  · exact tree.entries location (Sheet.mem_keys_iff.mpr there)

/-- Everything on the way from the root to what is there is there itself. -/
theorem IsTree.isSome_of_prefix {disk : Disk} (tree : disk.IsTree) {front location : Location}
    (way : front <+: location) (there : (disk.entry? location).isSome = true) :
    (disk.entry? front).isSome = true := by
  -- The way is walked back from its end, from each place to the folder in which it lies.
  obtain ⟨back, rfl⟩ := way
  induction back using List.reverseRecOn with
  | nil => simpa using there
  | append_singleton back last ih =>
    have folder := tree.folder_dropLast there
    rw [← List.append_assoc, List.dropLast_concat] at folder
    exact ih (by rw [folder]; rfl)

/-- A disk is a tree if what is there lies in a folder. -/
theorem isTree_of_dropLast {disk : Disk} (home : disk.entry? disk.home = some .folder)
    (entries : ∀ location, (disk.entry? location).isSome = true →
      disk.entry? location.dropLast = some .folder) : disk.IsTree := by
  refine ⟨home, fun location inside => ?_⟩
  by_cases root : location = []
  · simp [root, entry?]
  · refine entries location ?_
    simpa [root, entry?] using Sheet.mem_keys_iff.mp inside

/-- What is put into a folder keeps a disk a tree, if no folder is replaced by a file. -/
theorem IsTree.putEntry {disk : Disk} (tree : disk.IsTree) {parent : Location} {last : Text}
    (inside : disk.entry? parent = some .folder) {entry : Entry}
    (free : disk.entry? (parent ++ [last]) ≠ some .folder) :
    IsTree (disk.putEntry (parent ++ [last]) entry) := by
  have below : parent ++ [last] ≠ [] := by simp
  have folders := KeepsFolders.putEntry below free entry
  -- All folders stay, so what was there still lies in one.
  refine isTree_of_dropLast (folders.folder _ tree.home) fun location there => ?_
  refine folders.folder _ ?_
  rw [entry?_putEntry disk below] at there
  split at there
  · rename_i here
    rw [here, List.dropLast_concat]
    exact inside
  · exact tree.folder_dropLast there

/-- Removing a file keeps a disk a tree. -/
theorem IsTree.eraseEntry {disk : Disk} (tree : disk.IsTree) {location : Location}
    (below : location ≠ []) (free : disk.entry? location ≠ some .folder) :
    IsTree (disk.eraseEntry location) := by
  have folders := KeepsFolders.eraseEntry below free
  -- All folders stay, so what is left still lies in one.
  refine isTree_of_dropLast (folders.folder _ tree.home) fun other there => ?_
  refine folders.folder _ ?_
  rw [entry?_eraseEntry disk below] at there
  split at there
  · exact absurd there (by simp)
  · exact tree.folder_dropLast there

/-- Making the folders above a path keeps a disk a tree. -/
theorem isTree_prepare (trouble : Trouble) (path : Text) {disk : Disk} (tree : disk.IsTree) :
    (prepare trouble path disk).2.IsTree := by
  refine prepare_induction IsTree tree
    (fun parent _ _ folder _ _ middle after tree made => ?_) trouble
  -- Every folder that is made lies in a folder.
  obtain ⟨place, last, placed, -, free, rfl⟩ := makeFolder_eq_ok made
  obtain ⟨-, -, inside, -⟩ := place_eq_ok placed
  exact tree.putEntry inside (by rw [free]; simp)

/-- Discarding a file keeps a disk a tree. -/
theorem IsTree.discard {disk : Disk} (tree : disk.IsTree) (trouble : Trouble) {location : Location}
    (below : location ≠ []) (free : disk.entry? location ≠ some .folder) :
    (Disk.discard trouble location disk).IsTree := by
  unfold Disk.discard
  split
  · exact tree
  · exact tree.eraseEntry below free

/-- Renaming a file keeps a disk a tree. -/
theorem IsTree.renameOver {disk after : Disk} (tree : disk.IsTree) {path : Text}
    {source : Location} (below : source ≠ []) (free : disk.entry? source ≠ some .folder)
    (renamed : disk.renameOver source path = .ok after) : after.IsTree := by
  obtain ⟨-, parent, last, entry, placed, -, target, -, rfl⟩ := renameOver_eq_ok renamed
  obtain ⟨-, -, inside, -⟩ := place_eq_ok placed
  split
  · exact tree
  · -- The folder of the path is still there once the source is gone.
    have folders := KeepsFolders.eraseEntry below free
    refine (tree.eraseEntry below free).putEntry (folders.folder parent inside) ?_
    rw [entry?_eraseEntry disk below]
    split
    · simp
    · exact target

/-- Writing a temporary file and renaming it keeps a disk a tree. -/
theorem isTree_writeThrough {trouble : Trouble} {path temporary : Text} {content : Content}
    {disk after : Disk} {outcome : Except PathFault Unit} (tree : disk.IsTree)
    (wrote : writeThrough trouble path temporary content disk = (outcome, after)) :
    after.IsTree := by
  rcases writeThrough_cases wrote with ⟨-, rfl⟩ | ⟨location, opened, held, open_, put⟩
  · exact tree
  · obtain ⟨parent, last, executable, placed, rfl, free, rfl⟩ := openEmpty_eq_ok open_
    obtain ⟨-, -, inside, -⟩ := place_eq_ok placed
    have below : parent ++ [last] ≠ [] := by simp
    -- The file is emptied and then filled, and is a file all the time.
    have folders := KeepsFolders.putEntry below free (.file (.text []) executable)
    have empty : Disk.entry? (disk.putEntry (parent ++ [last]) (.file (.text []) executable))
        (parent ++ [last]) ≠ some .folder := by
      simp [entry?_putEntry disk below]
    have staged : (Disk.putEntry (disk.putEntry (parent ++ [last]) (.file (.text []) executable))
        (parent ++ [last]) (.file held false)).IsTree :=
      (tree.putEntry inside free).putEntry (folders.folder parent inside) empty
    have filled : Disk.entry? (Disk.putEntry (disk.putEntry (parent ++ [last])
        (.file (.text []) executable)) (parent ++ [last]) (.file held false))
        (parent ++ [last]) ≠ some .folder := by
      simp [entry?_putEntry _ below]
    -- The temporary file is discarded or renamed.
    rcases put with ⟨-, rfl⟩ | ⟨-, -, renamed⟩
    · exact staged.discard trouble below filled
    · exact staged.renameOver below filled renamed

/-- A replacement keeps a disk a tree, whether or not it succeeds. -/
theorem isTree_replace (path : Text) (content : Content) {disk : Disk} (tree : disk.IsTree) :
    (disk.replace path content).2.IsTree := by
  -- The troubles that are left and the number in the temporary name are no entries.
  have ready : IsTree { disk with troubles := disk.troubles.tail } := ⟨tree.home, tree.entries⟩
  have prepared := isTree_prepare (disk.troubles.headD {}) path ready
  rcases replace_cases path content disk with ⟨-, same⟩ | ⟨name, outcome, -, wrote, -⟩
  · rw [same]
    exact prepared
  · refine isTree_writeThrough ?_ wrote
    exact ⟨prepared.home, prepared.entries⟩

/-- A change makes folders only where nothing was. -/
def FoldersFresh (before after : Disk) : Prop :=
  ∀ location, after.entry? location = some .folder →
    before.entry? location = some .folder ∨ before.entry? location = none

/-- A path steps back only out of places that are there. -/
def StepsBackInside (disk : Disk) (path : Text) : Prop :=
  ∀ count < (namesIn path).length, (namesIn path)[count]? = some ['.', '.'] →
    (disk.follow (disk.origin path) ((namesIn path).take count)).isOk = true

instance (disk : Disk) (path : Text) : Decidable (disk.StepsBackInside path) :=
  inferInstanceAs (Decidable (∀ count < (namesIn path).length,
    (namesIn path)[count]? = some ['.', '.'] →
      (disk.follow (disk.origin path) ((namesIn path).take count)).isOk = true))

/-- The way up to a step back leads to a place that is there. -/
theorem StepsBackInside.follow {disk : Disk} {path : Text} (inside : disk.StepsBackInside path)
    {front rest : List Text} (same : namesIn path = front ++ ['.', '.'] :: rest) :
    ∃ place, disk.follow (disk.origin path) front = .ok place := by
  have walked := inside front.length (by simp [same]) (by simp [same])
  rw [same, List.take_left] at walked
  cases outcome : disk.follow (disk.origin path) front with
  | ok place => exact ⟨place, rfl⟩
  | error fault => simp [outcome, Except.isOk, Except.toBool] at walked

/-- The place where a path starts is there. -/
theorem IsTree.isSome_origin {disk : Disk} (tree : disk.IsTree) (path : Text) :
    (disk.entry? (disk.origin path)).isSome = true := by
  unfold origin
  split
  · rfl
  · rw [tree.home]
    rfl

/-- A way that never steps back leads downwards. -/
theorem prefix_of_follow {disk : Disk} {start stop : Location} {names : List Text}
    (forward : ['.', '.'] ∉ names) (found : disk.follow start names = .ok stop) :
    start <+: stop := by
  -- A name is put behind the place so far, unless it is a dot and the place is kept.
  induction names generalizing start with
  | nil =>
    rw [follow, Except.ok.injEq] at found
    rw [found]
  | cons name rest ih =>
    obtain ⟨other, forward⟩ := List.ne_and_not_mem_of_not_mem_cons forward
    obtain ⟨-, -, -, found⟩ := follow_cons_eq_ok.mp found
    have step : start <+: enter start name := by
      unfold enter
      split
      · exact List.prefix_rfl
      · split
        · rename_i up
          exact absurd (beq_iff_eq.mp up).symm other
        · exact List.prefix_append start [name]
    exact step.trans (ih forward found)

/-- A way to a place that was there was open before folders were made, if it steps back only out of
places that were there. -/
theorem follow_back {before after : Disk} (tree : before.IsTree)
    (fresh : FoldersFresh before after) {start stop : Location} {names : List Text}
    (there : (before.entry? start).isSome = true) (stays : (before.entry? stop).isSome = true)
    (inside : ∀ front rest, names = front ++ ['.', '.'] :: rest →
      ∃ place, before.follow start front = .ok place)
    (found : after.follow start names = .ok stop) : before.follow start names = .ok stop := by
  induction names generalizing start with
  | nil => exact found
  | cons name rest ih =>
    obtain ⟨here, named, -, found⟩ := follow_cons_eq_ok.mp found
    -- A way can only go on through a folder, and this place was there before.
    have folder : before.entry? start = some .folder := by
      rcases fresh start here with folder | missing
      · exact folder
      · simp [missing] at there
    by_cases next : (before.entry? (enter start name)).isSome = true
    · refine follow_cons_eq_ok.mpr ⟨folder, named, next, ih next (fun front later same => ?_) found⟩
      obtain ⟨place, walked⟩ := inside (name :: front) later (by rw [same, List.cons_append])
      exact ⟨place, (follow_cons_eq_ok.mp walked).2.2.2⟩
    · -- From a place that was missing the way can only lead further down, to more that was missing.
      have forward : ['.', '.'] ∉ rest := by
        intro back
        obtain ⟨front, later, same⟩ := List.append_of_mem back
        obtain ⟨place, walked⟩ := inside (name :: front) later (by rw [same, List.cons_append])
        exact next (follow_cons_eq_ok.mp walked).2.2.1
      exact absurd (tree.isSome_of_prefix (prefix_of_follow forward found) stays) next

/-- A path that leads to a file after folders were made led to the same place before, if a file was
there. What that file holds may have changed. -/
theorem find_back {before after : Disk} (tree : before.IsTree) (home : after.home = before.home)
    (fresh : FoldersFresh before after) {path : Text} (inside : before.StepsBackInside path)
    {location : Location} {content later : Content} {executable runs : Bool}
    (found : after.find path = .ok (location, .file later runs))
    (held : before.entry? location = some (.file content executable)) :
    before.find path = .ok (location, .file content executable) := by
  obtain ⟨nonempty, usable, plain, found, -⟩ := find_eq_file.mp found
  -- The path starts at the same place, so only the way from there is to be looked at.
  have origin : after.origin path = before.origin path := by
    simp only [Disk.origin, home]
  rw [origin] at found
  refine find_eq_file.mpr ⟨nonempty, usable, plain, ?_, held⟩
  exact follow_back tree fresh (tree.isSome_origin path) (by rw [held]; rfl)
    (fun front rest same => inside.follow same) found

/-- Putting a file makes no folder. -/
theorem folder_of_putFile {disk : Disk} {location other : Location} {content : Content}
    {executable : Bool} (folder :
      Disk.entry? (disk.putEntry location (.file content executable)) other = some .folder) :
    disk.entry? other = some .folder := by
  unfold entry? putEntry at folder
  -- The root stays a folder; the place itself holds a file now, and all others are as before.
  split at folder
  · rename_i root
    simp [root, entry?]
  · rename_i below
    rw [Sheet.get?_put] at folder
    split at folder
    · exact absurd folder (by simp)
    · simpa [below, entry?] using folder

/-- Removing an entry makes no folder. -/
theorem folder_of_eraseEntry {disk : Disk} {location other : Location}
    (folder : Disk.entry? (disk.eraseEntry location) other = some .folder) :
    disk.entry? other = some .folder := by
  unfold entry? eraseEntry at folder
  -- The root stays a folder; the place itself is empty now, and all others are as before.
  split at folder
  · rename_i root
    simp [root, entry?]
  · rename_i below
    rw [Sheet.get?_erase] at folder
    split at folder
    · exact absurd folder (by simp)
    · simpa [below, entry?] using folder

/-- Discarding a temporary file makes no folder. -/
theorem folder_of_discard {trouble : Trouble} {place other : Location} {disk : Disk}
    (folder : Disk.entry? (discard trouble place disk) other = some .folder) :
    disk.entry? other = some .folder := by
  unfold discard at folder
  split at folder
  · exact folder
  · exact folder_of_eraseEntry folder

/-- Renaming a file makes no folder. -/
theorem folder_of_renameOver {disk after : Disk} {path : Text} {source other : Location}
    {content : Content} {executable : Bool}
    (file : disk.entry? source = some (.file content executable))
    (renamed : disk.renameOver source path = .ok after)
    (folder : after.entry? other = some .folder) : disk.entry? other = some .folder := by
  -- What is put in the place of the path is what was found at the source.
  obtain ⟨-, parent, last, entry, -, -, -, found, rfl⟩ := renameOver_eq_ok renamed
  obtain rfl := Option.some.inj (file.symm.trans found)
  split at folder
  · exact folder
  · exact folder_of_eraseEntry (folder_of_putFile folder)

/-- Writing a temporary file and renaming it makes no folder. -/
theorem folder_of_writeThrough {trouble : Trouble} {path temporary : Text} {content : Content}
    {disk after : Disk} {outcome : Except PathFault Unit} {other : Location}
    (wrote : writeThrough trouble path temporary content disk = (outcome, after))
    (folder : after.entry? other = some .folder) : disk.entry? other = some .folder := by
  -- Whatever fails on the way, only a file is put and only entries are removed.
  rcases writeThrough_cases wrote with ⟨-, rfl⟩ | ⟨location, opened, held, open_, put⟩
  · exact folder
  · obtain ⟨parent, last, executable, -, rfl, -, rfl⟩ := openEmpty_eq_ok open_
    rcases put with ⟨-, rfl⟩ | ⟨-, -, renamed⟩
    · exact folder_of_putFile (folder_of_putFile (folder_of_discard folder))
    · have below : parent ++ [last] ≠ [] := by simp
      have filled := entry?_putEntry (disk.putEntry (parent ++ [last])
        (.file (.text []) executable)) below (.file held false) (parent ++ [last])
      rw [if_pos rfl] at filled
      exact folder_of_putFile (folder_of_putFile (folder_of_renameOver filled renamed folder))

end Docket.Disk
