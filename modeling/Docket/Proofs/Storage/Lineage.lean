import Docket.Proofs.Storage.Tree

/-!
The folders above a path: which paths lead to them, and where they lie.

A replacement makes no other folder. So what it makes cannot lie where the path itself points,
unless the path steps back out of something that is missing.
-/

namespace Docket

namespace Path

/-- The pieces of a text, joined by slashes, are the text. -/
theorem join_pieces (text : Text) : Text.join ['/'] (pieces text) = text := by
  induction text with
  | nil => rfl
  | cons char rest ih =>
    obtain ⟨piece, others, parts⟩ := List.exists_cons_of_ne_nil (pieces_ne_nil rest)
    rw [parts] at ih
    by_cases slash : char = '/'
    · simp [pieces, slash, parts, Text.join_cons_cons, ih]
    · -- The character joins the first piece, with or without others behind it.
      rw [pieces, if_neg slash, parts, ← ih]
      cases others with
      | nil => rfl
      | cons second others => simp [Text.join_cons_cons]

/-- Texts without slashes, joined by slashes, are the pieces of what they make. -/
theorem pieces_join {parts : List Text} (filled : parts ≠ []) (whole : ∀ part ∈ parts, '/' ∉ part) :
    pieces (Text.join ['/'] parts) = parts := by
  induction parts with
  | nil => exact absurd rfl filled
  | cons first rest ih =>
    obtain ⟨single, whole⟩ := List.forall_mem_cons.mp whole
    -- The first part holds no slash, so the first slash is the one behind it.
    cases rest with
    | nil => exact pieces_of_noSlash single
    | cons second rest =>
      rw [Text.join_cons_cons, List.singleton_append, pieces_append_slash, pieces_of_noSlash single,
        ih (by simp) whole, List.singleton_append]

/-- Joining what lies on both sides of a slash puts the slash between them. -/
theorem join_append {left right : List Text} (filledLeft : left ≠ []) (filledRight : right ≠ []) :
    Text.join ['/'] (left ++ right) = Text.join ['/'] left ++ '/' :: Text.join ['/'] right := by
  induction left with
  | nil => exact absurd rfl filledLeft
  | cons first rest ih =>
    -- A single text on the left stands directly before the slash.
    cases rest with
    | nil =>
      obtain ⟨second, others, rfl⟩ := List.exists_cons_of_ne_nil filledRight
      rw [List.singleton_append, Text.join_cons_cons]
      rfl
    | cons second rest =>
      rw [List.cons_append, List.cons_append, Text.join_cons_cons, ← List.cons_append,
        ih (by simp), Text.join_cons_cons]
      simp

/-- Before its last piece that leads anywhere a text has some pieces, and behind them the others. -/
theorem pieces_eq_of_dropIdle {text last : Text} {before : List Text}
    (cut : dropIdle (pieces text).reverse = last :: before) : isIdle last = false ∧
      ∃ back, pieces text = (dropIdle before).reverse ++ back ∧ last ∈ back := by
  -- The pieces are taken from behind: idle ones, the last one, and idle ones once more.
  constructor
  · have first := List.head?_dropWhile_not isIdle (pieces text).reverse
    rw [← dropIdle, cut] at first
    simpa using first
  · obtain ⟨ends, outer⟩ : last :: before <:+ (pieces text).reverse :=
      cut ▸ List.dropWhile_suffix isIdle
    obtain ⟨between, inner⟩ : dropIdle before <:+ before := List.dropWhile_suffix isIdle
    refine ⟨between.reverse ++ last :: ends.reverse, ?_, by simp⟩
    have parts := congrArg List.reverse outer
    rw [List.reverse_reverse] at parts
    rw [← parts]
    nth_rewrite 1 [← inner]
    simp

/-- The pieces that are kept stand in front of a slash, and the last one that leads anywhere stands
behind it. -/
theorem eq_join_of_dropIdle {text last : Text} {before : List Text}
    (cut : dropIdle (pieces text).reverse = last :: before)
    (kept : (dropIdle before).reverse ≠ []) : ∃ rest,
      text = Text.join ['/'] (dropIdle before).reverse ++ '/' :: rest ∧
      ∃ piece ∈ pieces rest, isIdle piece = false := by
  -- The pieces are cut where those that are kept end.
  obtain ⟨solid, back, parts, inside⟩ := pieces_eq_of_dropIdle cut
  have filled : back ≠ [] := List.ne_nil_of_mem inside
  have whole : ∀ piece ∈ back, '/' ∉ piece := fun piece member =>
    slash_notMem_piece (by rw [parts]; exact List.mem_append_right _ member)
  refine ⟨Text.join ['/'] back, ?_, last, ?_, solid⟩
  · rw [← join_append kept filled, ← parts, join_pieces]
  · rwa [pieces_join filled whole]

/-- The forms that a path and its anchor can have. -/
theorem anchor_cases (path : Text) :
    (∃ rest, path = '/' :: rest ∧ anchor path = (['/'], rest)) ∨
      anchor path = (['.'], []) ∧ path = ['.'] ∨
      (∃ rest, path = '.' :: '/' :: rest ∧ anchor path = (['.'], '/' :: rest)) ∨
      anchor path = ([], path) := by
  unfold anchor
  split <;> simp

/-- A path goes on behind its parent, with a slash first and some name after it. -/
theorem parent?_eq_some {path parent : Text} (found : parent? path = some parent)
    (filled : parent ≠ []) : ∃ rest, (path = parent ++ '/' :: rest ∨
      parent = ['/'] ∧ path = '/' :: rest) ∧ ∃ piece ∈ pieces rest, isIdle piece = false := by
  unfold parent? at found
  dsimp only at found
  split at found
  · rename_i last before cut
    obtain rfl := Option.some.inj found
    by_cases kept : (dropIdle before).reverse = []
    · -- Nothing but the anchor is kept, and so it is not empty.
      obtain ⟨solid, back, parts, inside⟩ := pieces_eq_of_dropIdle cut
      rw [kept, List.nil_append] at parts
      rw [← parts] at inside
      rw [kept, Text.join, List.append_nil] at filled ⊢
      rcases anchor_cases path with ⟨rest, rfl, form⟩ | ⟨form, -⟩ | ⟨rest, rfl, form⟩ | form <;>
        rw [form] at inside filled ⊢
      · exact ⟨rest, .inr ⟨rfl, rfl⟩, last, inside, solid⟩
      · -- Behind a single dot alone there is nothing.
        rw [List.mem_singleton.mp inside] at solid
        exact absurd solid (by simp [isIdle])
      · -- The slash behind the dot is that of the path.
        refine ⟨rest, .inl rfl, last, (List.mem_cons.mp inside).resolve_left ?_, solid⟩
        rintro rfl
        exact absurd solid (by simp [isIdle])
      · exact absurd rfl filled
    · -- What is kept goes on behind the anchor.
      obtain ⟨rest, cut, piece⟩ := eq_join_of_dropIdle cut kept
      refine ⟨rest, .inl ?_, piece⟩
      rw [List.append_assoc, ← cut]
      rcases anchor_cases path with ⟨rest, rfl, form⟩ | ⟨form, rfl⟩ | ⟨rest, rfl, form⟩ | form <;>
        simp [form]
  · -- A path without a name has the empty parent or none.
    split at found
    · exact absurd (Option.some.inj found).symm filled
    · exact absurd found (by simp)

/-- The empty path has no parents. -/
theorem lineage_nil (fuel : Nat) : lineage fuel [] = [[]] := by
  cases fuel <;> rfl

end Path

namespace Disk

/-- A path leads through the place of another one, and further on by some name other than a dot. -/
structure IsAbove (folder path : Text) : Prop where
  anchored : Text.startsWith folder ['/'] = Text.startsWith path ['/']
  names : ∃ rest, namesIn path = namesIn folder ++ rest ∧ ∃ name ∈ rest, name ≠ ['.']

/-- What is above a path is above whatever the path is above. -/
theorem IsAbove.trans {outer folder path : Text} (left : IsAbove outer folder)
    (right : IsAbove folder path) : IsAbove outer path := by
  obtain ⟨near, nearNames, -⟩ := left.names
  obtain ⟨far, farNames, name, inside, solid⟩ := right.names
  refine ⟨left.anchored.trans right.anchored, near ++ far, ?_, name, ?_, solid⟩
  · rw [farNames, nearNames, List.append_assoc]
  · exact List.mem_append_right near inside

/-- The parent of a path is above it. -/
theorem isAbove_of_parent? {path parent : Text} (found : Path.parent? path = some parent)
    (filled : parent ≠ []) : IsAbove parent path := by
  obtain ⟨rest, front, piece, inside, solid⟩ := Path.parent?_eq_some found filled
  obtain ⟨nonempty, other⟩ := Bool.or_eq_false_iff.mp solid
  have member : piece ∈ namesIn rest := List.mem_filter.mpr ⟨inside, by rw [nonempty]; rfl⟩
  rcases front with rfl | ⟨rfl, rfl⟩
  · refine ⟨?_, namesIn rest, ?_, piece, member, by simpa using other⟩
    · -- The first character of the parent is that of the path.
      obtain ⟨first, others, rfl⟩ := List.exists_cons_of_ne_nil filled
      simp [Text.startsWith, List.isPrefixOf]
    · rw [namesIn, Path.pieces_append_slash, List.filter_append]
      rfl
  · refine ⟨rfl, namesIn rest, ?_, piece, member, by simpa using other⟩
    simp [namesIn, Path.pieces]

/-- The lineage of a path that is above another one is above it too, as far as it has names. -/
theorem isAbove_of_mem_lineage {fuel : Nat} {folder path other : Text} (above : IsAbove folder path)
    (inside : other ∈ Path.lineage fuel folder) (filled : other ≠ []) : IsAbove other path := by
  induction fuel generalizing folder with
  | zero =>
    obtain rfl := List.mem_singleton.mp inside
    exact above
  | succ fuel ih =>
    rcases List.mem_cons.mp inside with rfl | inside
    · exact above
    · split at inside
      · rename_i parent found
        by_cases empty : parent = []
        · -- The empty path has no parents.
          rw [empty, Path.lineage_nil] at inside
          exact absurd (List.mem_singleton.mp inside) filled
        · exact ih ((isAbove_of_parent? found empty).trans above) inside
      · exact absurd inside List.not_mem_nil

/-- A change makes folders only where nothing was, at places above a path. -/
def FoldersAbove (path : Text) (before after : Disk) : Prop :=
  ∀ location, after.entry? location = some .folder →
    before.entry? location = some .folder ∨
      before.entry? location = none ∧
        ∃ folder, IsAbove folder path ∧ location = before.target folder

/-- What is made above a path is made where nothing was. -/
theorem FoldersAbove.fresh {path : Text} {before after : Disk}
    (made : FoldersAbove path before after) : FoldersFresh before after :=
  fun location folder => (made location folder).imp_right And.left

/-- Making the folders above a path makes them there. -/
theorem foldersAbove_prepare (trouble : Trouble) (path : Text) (disk : Disk) :
    FoldersAbove path disk (prepare trouble path disk).2 := by
  -- What is made on the way takes a place that was empty from the start, for nothing goes away.
  suffices all : (KeepsFolders disk (prepare trouble path disk).2 ∧
      KeepsFiles (fun _ => False) disk (prepare trouble path disk).2) ∧
      FoldersAbove path disk (prepare trouble path disk).2 from all.2
  refine prepare_induction (fun after => (KeepsFolders disk after ∧
      KeepsFiles (fun _ => False) disk after) ∧ FoldersAbove path disk after)
    ⟨⟨.refl disk, .refl _ disk⟩, fun _ folder => .inl folder⟩
    (fun parent found filled folder inside named middle after holds made => ?_) trouble
  obtain ⟨⟨folders, files⟩, earlier⟩ := holds
  obtain ⟨place, last, placed, solid, free, rfl⟩ := makeFolder_eq_ok made
  -- One more folder is made, at the place of one of the lineage.
  have below : place ++ [last] ≠ [] := by simp
  refine ⟨⟨folders.trans (.putEntry below (by rw [free]; simp) .folder),
    files.trans (.putFolder below free _)⟩, fun other there => ?_⟩
  rw [entry?_putEntry middle below] at there
  split at there
  · rename_i here
    rw [here]
    refine .inr ⟨entry?_eq_none_of_keeps folders files free, folder, ?_, ?_⟩
    · exact isAbove_of_mem_lineage (isAbove_of_parent? found filled) inside named
    · rw [eq_target_of_place placed solid, target_congr folders.home]
  · exact earlier other there

/-- A replacement makes folders only above its path. -/
theorem foldersAbove_replace (path : Text) (content : Content) (disk : Disk) :
    FoldersAbove path disk (disk.replace path content).2 := by
  -- Once the folders above the path are made, no other is.
  have made := foldersAbove_prepare (disk.troubles.headD {}) path
    { disk with troubles := disk.troubles.tail }
  intro location folder
  refine made location ?_
  rcases replace_cases path content disk with ⟨-, same⟩ | ⟨name, outcome, -, wrote, -⟩
  · rwa [same] at folder
  · exact (folder_of_writeThrough wrote folder :)

/-- A way that never steps back leads further down by every name that is no dot. -/
theorem length_foldl_enter {names : List Text} (forward : ['.', '.'] ∉ names) (start : Location) :
    (names.foldl enter start).length = start.length + (names.filter (· != ['.'])).length := by
  induction names generalizing start with
  | nil => rfl
  | cons name rest ih =>
    obtain ⟨other, forward⟩ := List.ne_and_not_mem_of_not_mem_cons forward
    rw [List.foldl_cons, ih forward]
    -- A single dot leads nowhere and is not counted; any other name leads down.
    by_cases dot : name = ['.']
    · simp [dot, enter]
    · have solid : isDots name = false := by simp [isDots, dot, other.symm]
      rw [enter_of_not_isDots start solid]
      simp [dot]
      omega

/-- A way that can be followed from something leads to something. -/
theorem isSome_of_follow {disk : Disk} {start stop : Location} {names : List Text}
    (there : (disk.entry? start).isSome = true) (found : disk.follow start names = .ok stop) :
    (disk.entry? stop).isSome = true := by
  induction names generalizing start with
  | nil => rwa [← Except.ok.inj found]
  | cons name rest ih =>
    obtain ⟨-, -, next, found⟩ := follow_cons_eq_ok.mp found
    exact ih next found

/-- A folder that a path leads to after folders were made above it was there before, if the path
steps back only out of places that were there. -/
theorem find_back_folder {before after : Disk} (tree : before.IsTree)
    (home : after.home = before.home) {path : Text} (made : FoldersAbove path before after)
    (inside : before.StepsBackInside path) {location : Location}
    (found : after.find path = .ok (location, .folder)) :
    before.find path = .ok (location, .folder) := by
  obtain ⟨nonempty, usable, found, held⟩ := find_eq_folder.mp found
  have origin : after.origin path = before.origin path := by
    simp only [Disk.origin, home]
  rw [origin] at found
  rcases made location held with folder | ⟨missing, above, isAbove, place⟩
  · refine find_eq_folder.mpr ⟨nonempty, usable, ?_, folder⟩
    exact follow_back tree made.fresh (tree.isSome_origin path) (by rw [folder]; rfl)
      (fun front rest same => inside.follow same) found
  · -- A folder that was made lies on the way, so the way would lead from it to itself.
    obtain ⟨rest, names, name, member, solid⟩ := isAbove.names
    have start : before.origin above = before.origin path := by
      simp only [Disk.origin, isAbove.anchored]
    rw [target, start] at place
    have back : rest.foldl enter location = location := by
      have stop := eq_foldl_of_follow found
      rw [names, List.foldl_append, ← place] at stop
      exact stop.symm
    have forward : ['.', '.'] ∉ rest := by
      -- Before a step back the way could be followed, so the place was there.
      intro step
      obtain ⟨front, later, rfl⟩ := List.append_of_mem step
      have same : namesIn path = (namesIn above ++ front) ++ ['.', '.'] :: later := by
        rw [names, List.append_assoc]
      obtain ⟨stop, walked⟩ := inside.follow same
      obtain ⟨middle, walked, -⟩ := follow_append_eq_ok.mp walked
      have there := isSome_of_follow (tree.isSome_origin path) walked
      rw [eq_foldl_of_follow walked, ← place, missing] at there
      exact absurd there (by simp)
    have further := length_foldl_enter forward location
    have positive : 0 < (rest.filter (· != ['.'])).length :=
      List.length_pos_of_mem (List.mem_filter.mpr ⟨member, by simpa using solid⟩)
    rw [back] at further
    omega

end Disk

end Docket
