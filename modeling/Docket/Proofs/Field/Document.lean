import Docket.Field.Definition
import Docket.Proofs.Json.RoundTrip
import Docket.Proofs.Storage.Atomicity

/-! A document that is saved is loaded again, and one that cannot be saved leaves what was there. -/

namespace Docket.Document

open Disk

/-- The members that documents are written as are whole. -/
theorem membersWhole_entries (entries : List (Text × Text)) :
    Json.membersWhole (entries.map fun (name, value) => (name, .string value)) = true := by
  -- All values are strings.
  induction entries with
  | nil => rfl
  | cons entry rest ih => exact ih

/-- The written form of a document reads back as that document, in the same order. -/
theorem ofJson?_toJson (document : Document) : ofJson? document.toJson = some document := by
  -- Every entry is written as a member of its own, and putting them one by one keeps their order.
  have members : Json.membersOf? Json.text? document.toJson = some document.entries := by
    refine Json.mapM_map _ _ (fun entry => ?_) document.entries
    rfl
  rw [ofJson?, members, Option.map_some, Sheet.ofPairs_entries]

/-- The file text of a document reads back as that document. -/
theorem read?_render (document : Document) :
    (Json.read? document.toJson.render).bind ofJson? = some document := by
  have whole : Json.isWhole document.toJson = true := membersWhole_entries document.entries
  rw [Json.read?_render whole, Option.bind_some, ofJson?_toJson]

/-- What is loaded depends on the text of the file only. -/
theorem load_congr {path : Text} {before after : Disk}
    (same : ∀ text, after.readText path = .ok text ↔ before.readText path = .ok text) :
    load path after = load path before := by
  -- Why a file could not be read is not told.
  unfold load
  cases earlier : before.readText path with
  | ok text => rw [(same text).mpr earlier]
  | error fault =>
    cases later : after.readText path with
    | ok text => simp [(same text).mp later] at earlier
    | error other => rfl

/-- A document that could be saved is what is loaded. -/
theorem load_of_save_ok {document : Document} {path : Text} {disk after : Disk}
    (saved : document.save path disk = (.ok (), after)) : load path after = .ok document := by
  -- The path leads to the new file, and the text of that file reads back.
  unfold save at saved
  split at saved
  · rename_i replaced done
    obtain ⟨-, rfl⟩ := Prod.mk.inj saved
    obtain ⟨-, location, found, -⟩ := replace_ok done
    have read := readText_of_file? (file?_eq_some.mpr ⟨location, found⟩)
    simp only [Content.text?] at read
    rw [load, read]
    simp only [read?_render]
  · exact absurd (Prod.mk.inj saved).1 (by simp)

/-- A document could not be saved because its file could not be replaced. -/
theorem replace_of_save_error {document : Document} {path : Text} {disk after : Disk}
    {failure : DocumentFailure} (refused : document.save path disk = (.error failure, after)) :
    ∃ fault, disk.replace path (.text document.toJson.render) = (.error fault, after) := by
  -- Saving fails only where the replacement does.
  unfold save at refused
  split at refused
  · exact absurd (Prod.mk.inj refused).1 (by simp)
  · rename_i fault replaced failed
    obtain ⟨-, rfl⟩ := Prod.mk.inj refused
    exact ⟨fault, failed⟩

/-- Saving keeps a disk a tree, so that what holds of one save holds of the next. -/
theorem isTree_save (document : Document) (path : Text) {disk : Disk} (tree : disk.IsTree) :
    (document.save path disk).2.IsTree := by
  -- Saving is a replacement, and how it ends makes no difference to the disk.
  have replaced := isTree_replace path (.text document.toJson.render) tree
  unfold save
  split
  · rename_i done
    rwa [done] at replaced
  · rename_i failed
    rwa [failed] at replaced

/-- A document that is saved is loaded again, with the same names and values in the same order. If
it cannot be saved, every file is left as it was, temporary neighbours of the path aside, and what
is loaded is what was loaded before; only a path that led to no file, and that steps back out of a
place that was not there, may now lead to one. -/
theorem load_save (document : Document) (path : Text) (disk : Disk) :
    (∀ after, document.save path disk = (.ok (), after) → load path after = .ok document) ∧
    (∀ failure after, document.save path disk = (.error failure, after) →
      KeepsFiles (IsTemporary path) disk after ∧
        ((disk.file? path).isSome = true ∨ disk.IsTree ∧ disk.StepsBackInside path →
          load path after = load path disk)) := by
  refine ⟨fun after saved => load_of_save_ok saved, fun failure after saved => ?_⟩
  obtain ⟨fault, failed⟩ := replace_of_save_error saved
  refine ⟨(replace_error failed).2, ?_⟩
  rintro (there | ⟨tree, inside⟩)
  · -- The file is still there, and nothing else is read.
    obtain ⟨file, found⟩ := Option.isSome_iff_exists.mp there
    refine load_congr fun text => ?_
    rw [readText_of_file? found, readText_of_file? (file?_replace_error failed found)]
  · exact load_congr (readText_replace_error tree inside failed)

/-- The file of the working folder cannot be replaced, and it still holds the older document. -/
theorem load_save_refused :
    let text := "\x7b\"b\": \"2\", \"a\": \"\\n\"\x7d".toList
    let disk : Disk := {
      entries := .ofPairs [(["f".toList], .folder), (["d".toList], .file (.text text) false)]
      troubles := [{ renameFails := true }] }
    let older : Document := .ofPairs [("b".toList, "2".toList), ("a".toList, "\n".toList)]
    let saved := save (.ofPairs [("a".toList, "3".toList)]) "f/../d".toList disk
    (disk.IsTree ∧ disk.StepsBackInside "f/../d".toList) ∧
      saved.1 = .error (.inaccessible "f/../d".toList) ∧
      load "f/../d".toList saved.2 = .ok older := by
  intro text disk older saved
  -- The path steps back out of a folder that is there, so the general theorem keeps its file.
  have tree : disk.IsTree := by decide +kernel
  have inside : disk.StepsBackInside "f/../d".toList := by decide +kernel
  have refused : saved.1 = .error (.inaccessible "f/../d".toList) := by decide +kernel
  have before : load "f/../d".toList disk = .ok older := by decide +kernel
  have kept := ((load_save (.ofPairs [("a".toList, "3".toList)]) "f/../d".toList disk).2 _ _
    (Prod.ext refused rfl)).2
  exact ⟨⟨tree, inside⟩, refused, (kept (.inr ⟨tree, inside⟩)).trans before⟩

/-- A path that steps back out of a missing folder leads nowhere, but saving a document makes that
folder before it fails, here for a name that has no room for a temporary neighbour. The path then
leads to a file that was there all along. -/
theorem load_save_missing_folder :
    let name := List.replicate 250 'n'
    let path := "new/../".toList ++ name
    let text := "\x7b\"A\": \"old\"\x7d".toList
    let disk : Disk := { entries := .ofPairs [([name], .file (.text text) false)] }
    let saved := save (.ofPairs [("A".toList, "new".toList)]) path disk
    saved.1 = .error (.inaccessible path) ∧ load path disk = .error (.inaccessible path) ∧
      load path saved.2 = .ok (.ofPairs [("A".toList, "old".toList)]) := by
  -- The whole run is evaluated, on a disk with a single file.
  decide +kernel

end Docket.Document
