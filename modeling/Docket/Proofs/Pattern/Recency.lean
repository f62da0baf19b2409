import Mathlib.Data.List.Induction
import Docket.Pattern.Cache

/-!
A cache of patterns keeps the ones that it was asked for last.

What these are is said of the texts that were looked up, without the cache. Every step of a cache
keeps in line with it.
-/

namespace Docket.Pattern

/-- It does not matter whether texts are filtered before or after their repetitions are left out. -/
theorem eraseDups_filter (keeps : Text → Bool) :
    ∀ texts : List Text, (texts.filter keeps).eraseDups = texts.eraseDups.filter keeps
  | [] => rfl
  | text :: texts => by
    -- The induction is on the length: the repetitions of the first text are left out of the rest.
    have rest := eraseDups_filter keeps (texts.filter (!· == text))
    rw [List.eraseDups_cons, List.filter_cons, List.filter_cons]
    split
    · rw [List.eraseDups_cons, ← rest, List.filter_filter, List.filter_filter]
      simp only [Bool.and_comm]
    · -- Where the first text is filtered out, so are its repetitions.
      rename_i dropped
      rw [← rest, List.filter_filter]
      congr 1
      refine List.filter_congr fun other _ => ?_
      by_cases same : other = text <;> simp_all
termination_by texts => texts.length
decreasing_by exact Nat.lt_succ_of_le (List.length_filter_le _ _)

/-- Once repetitions are left out there are none. -/
theorem nodup_eraseDups : ∀ texts : List Text, texts.eraseDups.Nodup
  | [] => List.nodup_nil
  | text :: texts => by
    rw [List.eraseDups_cons, List.nodup_cons]
    exact ⟨by simp, nodup_eraseDups _⟩
termination_by texts => texts.length
decreasing_by exact Nat.lt_succ_of_le (List.length_filter_le _ _)

/--
To leave one text out of others that do not repeat, one more than asked for is enough.

So whatever lies too far back for the room that there is will not be needed again.
-/
theorem take_filter_take {text : Text} {texts : List Text} (nodup : texts.Nodup) (room : Nat) :
    ((texts.take (room + 1)).filter (· != text)).take room =
      (texts.filter (· != text)).take room := by
  induction texts generalizing room with
  | nil => rfl
  | cons first texts ih =>
    obtain ⟨fresh, nodup⟩ := List.nodup_cons.mp nodup
    rw [List.take_succ_cons, List.filter_cons, List.filter_cons]
    split
    · -- The first text stays, and the rest has one place less.
      cases room with
      | zero => rfl
      | succ room => rw [List.take_succ_cons, List.take_succ_cons, ih nodup room]
    · -- The first text is the one left out, and it does not come again.
      rename_i left
      have same : first = text := by simpa using left
      subst same
      have others (some : List Text) (inside : some ⊆ texts) : some.filter (· != first) = some :=
        List.filter_eq_self.mpr fun other member => by
          have : other ≠ first := fun same => fresh (same ▸ inside member)
          simpa using this
      rw [others _ (List.take_subset room texts), others texts (List.Subset.refl _), List.take_take,
        Nat.min_self]

namespace Cache

/-- What can be done to a cache. -/
inductive Action where
  | lookUp (text : Text)
  | clear
deriving Repr, DecidableEq

/-- The text that an action looks up. -/
def Action.text? : Action → Option Text
  | .lookUp text => some text
  | .clear => none

/-- A cache after one action. -/
def step (cache : Cache) : Action → Cache
  | .lookUp text => (cache.lookUp text).2
  | .clear => cache.clear

/-- A new cache after actions, the earliest of them first. -/
def run (capacity : Nat) (actions : List Action) : Cache :=
  actions.foldl step (ofCapacity capacity)

/-- The texts that were looked up since the cache was last cleared, the last one first. -/
def lookedUp (actions : List Action) : List Text :=
  (actions.reverse.takeWhile (· != .clear)).filterMap Action.text?

@[simp] theorem lookedUp_nil : lookedUp [] = [] :=
  rfl

@[simp] theorem lookedUp_append_lookUp (actions : List Action) (text : Text) :
    lookedUp (actions ++ [.lookUp text]) = text :: lookedUp actions := by
  simp [lookedUp, Action.text?]

@[simp] theorem lookedUp_append_clear (actions : List Action) :
    lookedUp (actions ++ [.clear]) = [] := by
  simp [lookedUp]

/-- The texts of patterns that come first among others, each of them once, as far as there is
room. -/
def recent (room : Nat) (texts : List Text) : List Text :=
  ((texts.filter (Pattern.read? · |>.isSome)).eraseDups).take room

/-- A text that is a pattern comes first, before those that were there. -/
theorem recent_cons_of_pattern {text : Text} {pattern : Pattern}
    (read : Pattern.read? text = some pattern) (room : Nat) (texts : List Text) :
    recent room (text :: texts) = (text :: (recent room texts).filter (· != text)).take room := by
  -- The text is taken out of those that were there, and the last of these may have to go.
  cases room with
  | zero => rfl
  | succ room =>
    simp only [recent, List.filter_cons, read, Option.isSome_some, if_true, List.eraseDups_cons,
      List.take_succ_cons]
    rw [eraseDups_filter, take_filter_take (nodup_eraseDups _)]
    rfl

/-- A text that is no pattern changes nothing. -/
theorem recent_cons_of_none {text : Text} (read : Pattern.read? text = none) (room : Nat)
    (texts : List Text) : recent room (text :: texts) = recent room texts := by
  simp [recent, read]

/-- What is among the recent texts is a pattern. -/
theorem isSome_of_mem_recent {room : Nat} {text : Text} {texts : List Text}
    (kept : text ∈ recent room texts) : (Pattern.read? text).isSome := by
  simpa using (List.mem_filter.mp (List.mem_eraseDups.mp (List.mem_of_mem_take kept))).2

/-- What a cache holds once texts were looked up, the last one first. -/
structure Recalls (cache : Cache) (texts : List Text) : Prop where
  /-- The texts kept are the last ones that are patterns. -/
  keys : cache.entries.map Prod.fst = recent cache.capacity texts
  /-- Every text is kept with the pattern it reads as. -/
  reads : ∀ entry ∈ cache.entries, Pattern.read? entry.1 = some entry.2
  /-- Every look-up was counted once. -/
  counted : cache.hits + cache.misses = texts.length

/-- A new cache holds nothing. -/
theorem recalls_ofCapacity (capacity : Nat) : (ofCapacity capacity).Recalls [] where
  keys := by simp [ofCapacity, recent]
  reads := by simp [ofCapacity]
  counted := rfl

/-- The keys of a cache that puts a text first. -/
theorem map_fst_promote (cache : Cache) (text : Text) (pattern : Pattern) :
    (cache.promote text pattern).map Prod.fst =
      (text :: (cache.entries.map Prod.fst).filter (· != text)).take cache.capacity := by
  rw [promote, List.map_take, List.map_cons, List.filter_map]
  rfl

namespace Recalls

variable {cache : Cache} {texts : List Text}

/-- A text is found exactly if it is among the recent ones, and then with its pattern. -/
theorem lookup_eq (holds : cache.Recalls texts) (text : Text) :
    cache.entries.lookup text =
      if text ∈ recent cache.capacity texts then Pattern.read? text else none := by
  -- The recent texts are the keys, and under each of them there is what it reads as.
  rw [← holds.keys]
  split
  · rename_i kept
    cases found : cache.entries.lookup text with
    | none =>
      obtain ⟨entry, member, rfl⟩ := List.mem_map.mp kept
      simpa using List.lookup_eq_none_iff.mp found entry member
    | some pattern =>
      obtain ⟨before, after, entries, -⟩ := List.lookup_eq_some_iff.mp found
      exact (holds.reads (text, pattern) (by simp [entries])).symm
  · rename_i missing
    refine List.lookup_eq_none_iff.mpr fun entry member => ?_
    have : text ≠ entry.1 := fun same => missing (same ▸ List.mem_map_of_mem member)
    simpa using this

/-- Once a pattern is put first, the cache holds what was looked up, with that pattern as the
last. -/
theorem promote (holds : cache.Recalls texts) {text : Text} {pattern : Pattern}
    (read : Pattern.read? text = some pattern) {hits misses : Nat}
    (counted : hits + misses = texts.length + 1) :
    Recalls ⟨cache.capacity, cache.promote text pattern, hits, misses⟩ (text :: texts) where
  -- The text is put first and taken out further back, and the last entry falls out if there is no
  -- room.
  keys := by
    rw [map_fst_promote, holds.keys, recent_cons_of_pattern read]
  reads entry member := by
    rcases List.mem_cons.mp (List.mem_of_mem_take member) with rfl | member
    · exact read
    · exact holds.reads entry (List.mem_filter.mp member).1
  counted := counted

/-- A look-up answers with what the text reads as, and is a hit if the text was kept. Either way the
cache then holds what was looked up with that text as the last. -/
theorem lookUp (holds : cache.Recalls texts) (text : Text) :
    (cache.lookUp text).1 = Pattern.read? text ∧
    (cache.lookUp text).2.Recalls (text :: texts) ∧
    (cache.lookUp text).2.capacity = cache.capacity ∧
    (cache.lookUp text).2.hits =
      cache.hits + (if text ∈ recent cache.capacity texts then 1 else 0) ∧
    (cache.lookUp text).2.misses =
      cache.misses + (if text ∈ recent cache.capacity texts then 0 else 1) := by
  have counted := holds.counted
  have found := holds.lookup_eq text
  by_cases kept : text ∈ recent cache.capacity texts
  · -- A text that is kept is a pattern, and the cache answers with it.
    obtain ⟨pattern, read⟩ := Option.isSome_iff_exists.mp (isSome_of_mem_recent kept)
    rw [if_pos kept, read] at found
    rw [Cache.lookUp, found, if_pos kept, if_pos kept, read]
    exact ⟨rfl, holds.promote read (by omega), rfl, rfl, rfl⟩
  · -- Anything else is read anew, and kept if it is a pattern.
    rw [if_neg kept] at found
    rw [Cache.lookUp, found, if_neg kept, if_neg kept]
    cases read : Pattern.read? text with
    | some pattern => exact ⟨rfl, holds.promote read (by omega), rfl, rfl, rfl⟩
    | none =>
      refine ⟨rfl, ⟨?_, holds.reads, ?_⟩, rfl, rfl, rfl⟩
      · rw [recent_cons_of_none read]
        exact holds.keys
      · simp only [List.length_cons]
        omega

end Recalls

/-- A step keeps the room of a cache, and what it holds is told by one action more. -/
theorem step_recalls {capacity : Nat} {cache : Cache} {actions : List Action}
    (room : cache.capacity = max capacity 1) (holds : cache.Recalls (lookedUp actions))
    (action : Action) :
    (cache.step action).capacity = max capacity 1 ∧
      (cache.step action).Recalls (lookedUp (actions ++ [action])) := by
  cases action with
  | lookUp text =>
    obtain ⟨-, after, same, -⟩ := holds.lookUp text
    rw [lookedUp_append_lookUp]
    exact ⟨same.trans room, after⟩
  | clear =>
    -- A cache that was cleared is a new one, and its room was one at least already.
    have new : cache.step .clear = ofCapacity capacity := by
      simp [step, clear, ofCapacity, room]
    rw [lookedUp_append_clear, new]
    exact ⟨rfl, recalls_ofCapacity capacity⟩

/-- Along a run the room stays, and the cache holds what was looked up last. -/
theorem run_recalls (capacity : Nat) (actions : List Action) :
    (run capacity actions).capacity = max capacity 1 ∧
      (run capacity actions).Recalls (lookedUp actions) := by
  -- The induction takes the actions from the end, since the last one acts on what the others left.
  induction actions using List.reverseRecOn with
  | nil => exact ⟨rfl, recalls_ofCapacity capacity⟩
  | append_singleton actions action ih =>
    have last : run capacity (actions ++ [action]) = (run capacity actions).step action := by
      simp [run]
    rw [last]
    exact step_recalls ih.1 ih.2 action

/--
A cache answers as if there were none, and keeps what was looked up last.

Whatever was looked up and cleared before, in a cache of any capacity:

- the patterns kept are those of the texts looked up last, each text once and the last one first,
  as many of them as there is room for, and each with the pattern it reads as,
- so there are never more than the capacity, or than one if the capacity is nothing,
- every look-up since the cache was last cleared was counted as a hit or as a miss,
- and the next look-up answers with what the text reads as, be it a pattern or none, and is a hit
  exactly if the text was kept.
-/
theorem run_lookUp_exact (capacity : Nat) (actions : List Action) :
    let cache := run capacity actions
    let kept := recent (max capacity 1) (lookedUp actions)
    cache.entries.map (fun entry => (entry.1, some entry.2)) =
        kept.map (fun text => (text, Pattern.read? text)) ∧
      cache.size = kept.length ∧ cache.size ≤ max capacity 1 ∧
      cache.hits + cache.misses = (lookedUp actions).length ∧
      ∀ text, (cache.lookUp text).1 = Pattern.read? text ∧
        (cache.lookUp text).2.hits = cache.hits + (if text ∈ kept then 1 else 0) ∧
        (cache.lookUp text).2.misses = cache.misses + (if text ∈ kept then 0 else 1) := by
  intro cache kept
  -- What a run preserves is all that is asked for, but for the next look-up.
  obtain ⟨room, holds⟩ := run_recalls capacity actions
  have keys : cache.entries.map Prod.fst = kept := by
    rw [holds.keys, room]
  have size : cache.size = kept.length := by
    rw [← keys, List.length_map, size]
  refine ⟨?_, size, ?_, holds.counted, fun text => ?_⟩
  · rw [← keys, List.map_map]
    exact List.map_congr_left fun entry member => by simp [holds.reads entry member]
  · rw [size]
    exact List.length_take_le _ _
  · -- The next look-up is one more step from a state of which the same holds.
    obtain ⟨answer, -, -, hits, misses⟩ := holds.lookUp text
    rw [room] at hits misses
    exact ⟨answer, hits, misses⟩

end Cache

end Docket.Pattern
