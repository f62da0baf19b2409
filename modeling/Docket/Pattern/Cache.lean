import Docket.Pattern.Basic

/-! A cache of patterns: the ones that were looked up last are kept. -/

namespace Docket.Pattern

/-- A cache keeps patterns by their texts, the one looked up last first. -/
structure Cache where
  capacity : Nat
  entries : List (Text × Pattern) := []
  hits : Nat := 0
  misses : Nat := 0
deriving Inhabited

namespace Cache

/-- A cache without patterns. It has room for one at least. -/
def ofCapacity (capacity : Nat) : Cache :=
  { capacity := max capacity 1 }

/-- The number of patterns in a cache. -/
def size (cache : Cache) : Nat :=
  cache.entries.length

/-- Puts a pattern first and forgets what there is no room for. -/
def promote (cache : Cache) (text : Text) (pattern : Pattern) : List (Text × Pattern) :=
  ((text, pattern) :: cache.entries.filter (·.1 != text)).take cache.capacity

/-- The pattern of a text. What is not in the cache is read, and kept if it is a pattern. -/
def lookUp (cache : Cache) (text : Text) : Option Pattern × Cache :=
  match cache.entries.lookup text with
  | some pattern =>
    (some pattern, { cache with entries := cache.promote text pattern, hits := cache.hits + 1 })
  | none =>
    match Pattern.read? text with
    | some pattern =>
      (some pattern,
        { cache with entries := cache.promote text pattern, misses := cache.misses + 1 })
    -- What is no pattern is read anew, and missed, every time.
    | none => (none, { cache with misses := cache.misses + 1 })

/-- Forgets all patterns and starts counting again. -/
def clear (cache : Cache) : Cache :=
  ofCapacity cache.capacity

end Cache

end Docket.Pattern
