import Docket.Proofs.Storage.Path

/-! Changes of a disk that leave its folders alone leave the ways along its paths alone. -/

namespace Docket.Disk

/-- What a location holds, if it is a file. -/
def fileAt? (disk : Disk) (location : Location) : Option (Content × Bool) :=
  -- Folders and empty places hold no file.
  match disk.entry? location with
  | some (.file content executable) => some (content, executable)
  | _ => none

/-- A location holds a file exactly if its entry is that file. -/
theorem fileAt?_eq_some {disk : Disk} {location : Location} {content : Content}
    {executable : Bool} : disk.fileAt? location = some (content, executable) ↔
      disk.entry? location = some (.file content executable) := by
  -- Nothing and a folder are no files.
  unfold fileAt?
  split
  · rename_i found
    simp [found]
  · rename_i other
    simpa using other content executable

/-- Putting an entry below the root changes its own location only. -/
theorem entry?_putEntry (disk : Disk) {location : Location} (below : location ≠ [])
    (entry : Entry) (other : Location) :
    Disk.entry? (disk.putEntry location entry) other =
      if other = location then some entry else disk.entry? other := by
  -- The root is a folder whatever the entries say, so only places below it can change.
  unfold entry? putEntry
  by_cases root : other = []
  · simp [root, below.symm]
  · simp [root]

/-- Removing an entry below the root changes its own location only. -/
theorem entry?_eraseEntry (disk : Disk) {location : Location} (below : location ≠ [])
    (other : Location) :
    Disk.entry? (disk.eraseEntry location) other =
      if other = location then none else disk.entry? other := by
  -- The root is a folder whatever the entries say, so only places below it can change.
  unfold entry? eraseEntry
  by_cases root : other = []
  · simp [root, below.symm]
  · simp [root]

/-- A change that moves no folder: the working folder stays, and every folder stays a folder. -/
structure KeepsFolders (before after : Disk) : Prop where
  home : after.home = before.home
  folder : ∀ location, before.entry? location = some .folder →
    after.entry? location = some .folder

namespace KeepsFolders

/-- Doing nothing moves no folder. -/
theorem refl (disk : Disk) : KeepsFolders disk disk :=
  ⟨rfl, fun _ found => found⟩

/-- Two changes that move no folder move none together. -/
theorem trans {first second third : Disk} (left : KeepsFolders first second)
    (right : KeepsFolders second third) : KeepsFolders first third :=
  ⟨right.home.trans left.home, fun location found =>
    right.folder location (left.folder location found)⟩

/-- Putting an entry where no folder is moves no folder. -/
theorem putEntry {disk : Disk} {location : Location} (below : location ≠ [])
    (free : disk.entry? location ≠ some .folder) (entry : Entry) :
    KeepsFolders disk (disk.putEntry location entry) := by
  -- The place that is taken was no folder, so every folder is elsewhere.
  refine ⟨rfl, fun other found => ?_⟩
  have apart : other ≠ location := by
    rintro rfl
    exact free found
  rw [entry?_putEntry disk below, if_neg apart]
  exact found

/-- Removing what is no folder moves no folder. -/
theorem eraseEntry {disk : Disk} {location : Location} (below : location ≠ [])
    (free : disk.entry? location ≠ some .folder) :
    KeepsFolders disk (disk.eraseEntry location) := by
  -- The place that is given up was no folder, so every folder is elsewhere.
  refine ⟨rfl, fun other found => ?_⟩
  have apart : other ≠ location := by
    rintro rfl
    exact free found
  rw [entry?_eraseEntry disk below, if_neg apart]
  exact found

end KeepsFolders

/-- Where a name leads from a folder. -/
def enter (location : Location) (name : Text) : Location :=
  if name == ['.'] then location
  else if name == ['.', '.'] then location.dropLast
  else location ++ [name]

/-- A name that is no dots leads below the folder. -/
theorem enter_of_not_isDots (location : Location) {name : Text} (solid : isDots name = false) :
    enter location name = location ++ [name] := by
  obtain ⟨here, up⟩ := Bool.or_eq_false_iff.mp solid
  simp [enter, here, up]

/-- Where a path points by its names alone, whether or not anything is there. -/
def target (disk : Disk) (path : Text) : Location :=
  (namesIn path).foldl enter (disk.origin path)

/-- Paths point to the same places from the same working folder. -/
theorem target_congr {before after : Disk} (home : after.home = before.home) (path : Text) :
    after.target path = before.target path := by
  simp only [target, origin, home]

/-- The first step of a way that can be followed. -/
theorem follow_cons_eq_ok {disk : Disk} {start stop : Location} {name : Text} {rest : List Text} :
    disk.follow start (name :: rest) = .ok stop ↔
      disk.entry? start = some .folder ∧ isName name = true ∧
        (disk.entry? (enter start name)).isSome ∧
        disk.follow (enter start name) rest = .ok stop := by
  -- Each of the other cases of the walk is an error.
  rw [follow]
  split
  · rename_i found
    simp [found]
  · rename_i found
    simp [found]
  · rename_i found
    change (if !isName name then .error .unusable
      else if (disk.entry? (enter start name)).isSome then disk.follow (enter start name) rest
      else .error .missing) = _ ↔ _
    by_cases named : isName name = true
    · by_cases filled : (disk.entry? (enter start name)).isSome = true
      · simp [found, named, filled]
      · simp [named, filled]
    · simp [named]

/-- A way is followed name after name. -/
theorem follow_append_eq_ok {disk : Disk} {start stop : Location} {left right : List Text} :
    disk.follow start (left ++ right) = .ok stop ↔
      ∃ middle, disk.follow start left = .ok middle ∧ disk.follow middle right = .ok stop := by
  -- The first part of the way ends where the second part starts.
  induction left generalizing start with
  | nil => simp [follow]
  | cons name rest ih =>
    simp only [List.cons_append, follow_cons_eq_ok, ih]
    grind

/-- A way through folders stays open as long as there is something at its end. -/
theorem follow_mono {before after : Disk} (keeps : KeepsFolders before after)
    {start stop : Location} {names : List Text} (found : before.follow start names = .ok stop)
    (filled : (after.entry? stop).isSome) : after.follow start names = .ok stop := by
  -- Every place on the way but the last is passed through, so it is a folder.
  induction names generalizing start with
  | nil => exact found
  | cons name rest ih =>
    rw [follow_cons_eq_ok] at found ⊢
    obtain ⟨here, named, -, found⟩ := found
    refine ⟨keeps.folder start here, named, ?_, ih found⟩
    cases rest with
    | nil =>
      -- The last place is the end itself.
      rw [follow, Except.ok.injEq] at found
      rwa [found]
    | cons second rest =>
      rw [keeps.folder _ (follow_cons_eq_ok.mp found).1]
      rfl

/-- A way that can be followed ends where its names point. -/
theorem eq_foldl_of_follow {disk : Disk} {start stop : Location} {names : List Text}
    (found : disk.follow start names = .ok stop) : stop = names.foldl enter start := by
  induction names generalizing start with
  | nil => exact (Except.ok.inj found).symm
  | cons name rest ih => exact ih (follow_cons_eq_ok.mp found).2.2.2

/-- What it means that a path leads to an entry: the way to it is open, and a file does not stand
before a final slash. -/
theorem find_eq_ok {disk : Disk} {path : Text} {location : Location} {entry : Entry} :
    disk.find path = .ok (location, entry) ↔
      path ≠ [] ∧ isUsable path = true ∧
        disk.follow (disk.origin path) (namesIn path) = .ok location ∧
        disk.entry? location = some entry ∧ (entry = .folder ∨ wantsFolder path = false) := by
  -- Each check of the path that fails is an error; what is left is decided by the entry.
  unfold find
  simp only [throw, throwThe, MonadExceptOf.throw, bind, Except.bind, pure, Except.pure]
  by_cases nonempty : path = []
  · simp [nonempty]
  by_cases usable : isUsable path = true
  · cases followed : disk.follow (disk.origin path) (namesIn path) with
    | error fault => simp [nonempty, usable]
    | ok place =>
      simp only [usable, Except.ok.injEq]
      cases found : disk.entry? place with
      | none => grind
      | some held =>
        cases held with
        | folder => grind
        | file content executable => grind
  · simp [nonempty, usable]

/-- What it means that a path leads to a folder. -/
theorem find_eq_folder {disk : Disk} {path : Text} {location : Location} :
    disk.find path = .ok (location, .folder) ↔
      path ≠ [] ∧ isUsable path = true ∧
        disk.follow (disk.origin path) (namesIn path) = .ok location ∧
        disk.entry? location = some .folder := by
  simp [find_eq_ok]

/-- What it means that a path leads to a file. -/
theorem find_eq_file {disk : Disk} {path : Text} {location : Location} {content : Content}
    {executable : Bool} : disk.find path = .ok (location, .file content executable) ↔
      path ≠ [] ∧ isUsable path = true ∧ wantsFolder path = false ∧
        disk.follow (disk.origin path) (namesIn path) = .ok location ∧
        disk.entry? location = some (.file content executable) := by
  -- A file is no folder, so what is left is that the path may not end in a slash.
  rw [find_eq_ok]
  constructor
  · rintro ⟨nonempty, usable, followed, held, folder | plain⟩
    · exact nomatch folder
    · exact ⟨nonempty, usable, plain, followed, held⟩
  · rintro ⟨nonempty, usable, plain, followed, held⟩
    exact ⟨nonempty, usable, followed, held, .inr plain⟩

/-- A path leads to what its location holds after a change that moves no folder. -/
theorem find_mono {before after : Disk} (keeps : KeepsFolders before after) {path : Text}
    {location : Location} {content other : Content} {executable flag : Bool}
    (found : before.find path = .ok (location, .file content executable))
    (filled : after.entry? location = some (.file other flag)) :
    after.find path = .ok (location, .file other flag) := by
  -- The way stays open, and what is found at its end is what is there now.
  rw [find_eq_file] at found ⊢
  obtain ⟨nonempty, usable, plain, found, -⟩ := found
  refine ⟨nonempty, usable, plain, ?_, filled⟩
  have origin : after.origin path = before.origin path := by
    simp only [Disk.origin, keeps.home]
  rw [origin]
  exact follow_mono keeps found (by rw [filled]; rfl)

/-- A path leads to a folder after a change that moves none. -/
theorem find_mono_folder {before after : Disk} (keeps : KeepsFolders before after) {path : Text}
    {location : Location} (found : before.find path = .ok (location, .folder)) :
    after.find path = .ok (location, .folder) := by
  -- The way stays open, and the folder at its end is kept.
  rw [find_eq_folder] at found ⊢
  obtain ⟨nonempty, usable, found, held⟩ := found
  have still := keeps.folder location held
  refine ⟨nonempty, usable, ?_, still⟩
  have origin : after.origin path = before.origin path := by
    simp only [Disk.origin, keeps.home]
  rw [origin]
  exact follow_mono keeps found (by rw [still]; rfl)

/-- What it means that a path names a place in a folder. -/
theorem place_eq_ok {disk : Disk} {path : Text} {folder : Location} {last : Text}
    (placed : disk.place path = .ok (folder, last)) :
    isUsable path = true ∧ isName last = true ∧ disk.entry? folder = some .folder ∧
      ∃ front, namesIn path = front ++ [last] ∧
        disk.follow (disk.origin path) front = .ok folder := by
  -- The names before the last one lead to the folder, as in any other path.
  unfold place at placed
  simp only [throw, throwThe, MonadExceptOf.throw, bind, Except.bind, pure, Except.pure] at placed
  split at placed
  · rename_i usable
    split at placed
    · split at placed <;> exact absurd placed (by simp)
    · rename_i name front reversed
      split at placed
      · exact absurd placed (by simp)
      · rename_i place followed
        split at placed
        · exact absurd placed (by simp)
        · exact absurd placed (by simp)
        · rename_i found
          split at placed
          · -- Only here a place is given.
            rename_i named
            obtain ⟨rfl, rfl⟩ := Prod.mk.inj (Except.ok.inj placed)
            refine ⟨usable, named, found, front.reverse, ?_, followed⟩
            rw [← List.reverse_cons, ← reversed, List.reverse_reverse]
          · exact absurd placed (by simp)
  · exact absurd placed (by simp)

/-- The place that a path names is where it points. -/
theorem eq_target_of_place {disk : Disk} {path : Text} {folder : Location} {last : Text}
    (placed : disk.place path = .ok (folder, last)) (solid : isDots last = false) :
    folder ++ [last] = disk.target path := by
  obtain ⟨-, -, -, front, names, followed⟩ := place_eq_ok placed
  rw [target, names, List.foldl_append, ← eq_foldl_of_follow followed, List.foldl_cons,
    List.foldl_nil, enter_of_not_isDots folder solid]

/-- A file at the place that a path names is found there. -/
theorem find_of_place {before after : Disk} (keeps : KeepsFolders before after) {path : Text}
    {folder : Location} {last : Text} (placed : before.place path = .ok (folder, last))
    (solid : isDots last = false) (plain : wantsFolder path = false) {content : Content}
    {executable : Bool}
    (filled : after.entry? (folder ++ [last]) = some (.file content executable)) :
    after.find path = .ok (folder ++ [last], .file content executable) := by
  -- The way leads to the folder first, and from there to the last name.
  obtain ⟨usable, named, isFolder, front, names, followed⟩ := place_eq_ok placed
  have origin : after.origin path = before.origin path := by
    simp only [Disk.origin, keeps.home]
  have entered := enter_of_not_isDots folder solid
  refine find_eq_file.mpr ⟨?_, usable, plain, ?_, filled⟩
  · -- The empty path has no names, so it names no place.
    rintro rfl
    exact absurd names (by simp [namesIn, Path.pieces])
  · rw [names, follow_append_eq_ok, origin]
    refine ⟨folder, follow_mono keeps followed (by rw [keeps.folder folder isFolder]; rfl), ?_⟩
    rw [follow_cons_eq_ok, entered, filled]
    exact ⟨keeps.folder folder isFolder, named, rfl, rfl⟩

end Docket.Disk
