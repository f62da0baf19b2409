import Docket.Shell.Awk.Value
import Docket.Table.Sheet
import Std.Data.HashMap

/-! Arrays of scripts. Their keys are visited in the order of buckets, and what was used last comes
first in its bucket. -/

namespace Docket.Shell.Awk

/-- A key: whole numbers are kept apart from texts until a text is looked up. -/
inductive Key where
  | number (number : Int)
  | text (text : Text)
deriving DecidableEq

/-- The text of a key. -/
def Key.toText : Key → Text
  | .number value => Text.ofInt value
  | .text found => found

/-- An array. -/
structure Table where
  values : Std.HashMap Text Value := {}
  /-- The texts of keys in their buckets; there are none as long as all keys are numbers. -/
  texts : Array (List Text) := #[]
  /-- The numbers of keys in their buckets. -/
  numbers : Array (List Int) := #[]
  hasTexts : Bool := false
  /-- How many values there are, if they are just numbered and no other key has been used. -/
  row : Option Nat := none

namespace Table

/-- How many buckets there are at first. -/
def firstBuckets : Nat := 64

/-- How many keys a bucket has on average before there are twice as many buckets. -/
def crowd : Nat := 12

/-- The number that says in which bucket a text belongs. -/
def hash (text : Text) : Nat :=
  text.foldl (fun hash char => (hash ^^^ char.toNat) * 16777619 % 4294967296) 2166136261

/-- The bucket of a number. -/
def bucketOf (count : Nat) (number : Int) : Nat :=
  (number % (count : Int)).toNat

/-- How many keys there are. -/
def size (table : Table) : Nat :=
  table.values.size

/-- The number of buckets. -/
def buckets (table : Table) : Nat :=
  table.numbers.size

/-- A table without keys. -/
def fresh : Table :=
  { texts := Array.replicate firstBuckets [], numbers := Array.replicate firstBuckets [] }

/-- Puts an item in front of a bucket. -/
def inFront {α : Type} (buckets : Array (List α)) (bucket : Nat) (item : α) : Array (List α) :=
  buckets.modify bucket (item :: ·)

/-- Takes an item out of a bucket. -/
def without {α : Type} [BEq α] (buckets : Array (List α)) (bucket : Nat) (item : α) :
    Array (List α) :=
  buckets.modify bucket (·.erase item)

/-- The buckets that hold so many keys, at first. -/
def bucketsFor (fuel count size : Nat) : Nat :=
  match fuel with
  | 0 => count
  | fuel + 1 => if count * crowd < size then bucketsFor fuel (2 * count) size else count

/-- A table whose keys lie in buckets. -/
def settled (table : Table) : Table :=
  match table.row with
  | some count =>
    let buckets := bucketsFor 40 firstBuckets count
    let numbers := (List.range count).foldl
      (fun numbers index => inFront numbers ((index + 1) % buckets) (Int.ofNat index + 1))
      (Array.replicate buckets [])
    { table with numbers, texts := Array.replicate buckets [], hasTexts := false, row := none }
  | none => if table.buckets = 0 then { fresh with values := table.values } else table

/-- A table that knows the texts of its keys. -/
def spelled (table : Table) : Table :=
  let table := table.settled
  if table.hasTexts then table
  else
    let texts := table.numbers.foldl
      (fun texts bucket => bucket.foldl
        (fun texts number =>
          let text := Text.ofInt number
          inFront texts (hash text % table.buckets) text) texts) table.texts
    { table with texts, hasTexts := true }

/-- A table with twice as many buckets; those that stay keep their order, and so do the others. -/
def doubled (table : Table) : Table :=
  let count := table.buckets
  let halves {α : Type} (buckets : Array (List α)) (place : α → Nat) : Array (List α) :=
    let lower := buckets.mapIdx fun index bucket =>
      bucket.filter fun item => place item % (2 * count) = index
    let upper := buckets.mapIdx fun index bucket =>
      bucket.filter fun item => place item % (2 * count) != index
    lower ++ upper
  { table with
    texts := halves table.texts hash
    numbers := halves table.numbers (bucketOf (2 * count)) }

/-- A table in which a text was used. -/
def useText (table : Table) (text : Text) : Table :=
  let table := table.spelled
  let bucket := hash text % table.buckets
  { table with texts := inFront (without table.texts bucket text) bucket text }

/-- A table in which a number was used. -/
def useNumber (table : Table) (number : Int) : Table :=
  let table := table.settled
  let bucket := bucketOf table.buckets number
  let known := (table.numbers.getD bucket []).contains number
  let table := if !known && table.hasTexts then table.useText (Text.ofInt number) else table
  { table with numbers := inFront (without table.numbers bucket number) bucket number }

/-- A table in which a key was used. -/
def use (table : Table) : Key → Table
  | .number value =>
    match table.row with
    | some count => if 1 ≤ value && value ≤ count then table else table.useNumber value
    | none => table.useNumber value
  | .text found => table.useText found

/-- Whether there is a key; to look for it is to use it. -/
def find? (table : Table) (key : Key) : Option Value × Table :=
  match table.values.get? key.toText with
  | some value => (some value, table.use key)
  | none =>
    -- Looking for a text makes the table know the texts of its keys.
    match key with
    | .text _ => (none, if table.values.isEmpty then table else table.spelled)
    | .number _ => (none, table)

/-- Sets a value. -/
def put (table : Table) (key : Key) (value : Value) : Table :=
  let isNew := !table.values.contains key.toText
  let table := if table.values.isEmpty then fresh else table
  let table := table.use key
  let table := { table with values := table.values.insert key.toText value }
  if isNew && table.row.isNone && table.buckets * crowd < table.size then table.doubled else table

/-- Takes a key away. -/
def erase (table : Table) (key : Key) : Table :=
  let text := key.toText
  if !table.values.contains text then (table.find? key).2
  else
    let table := (table.use key).settled
    let values := table.values.erase text
    if values.isEmpty then {}
    else
      let texts := if table.hasTexts then without table.texts (hash text % table.buckets) text
        else table.texts
      let numbers := match Text.integer? text with
        | some number =>
          if Text.ofInt number.toInt = text then
            without table.numbers (bucketOf table.buckets number.toInt) number.toInt
          else table.numbers
        | none => table.numbers
      { table with values, texts, numbers }

/-- The keys in the order in which they are visited; visiting them makes their texts known. -/
def keys (table : Table) : List Text × Table :=
  if table.values.isEmpty then ([], table)
  else
    let table := table.spelled
    (table.texts.toList.flatten, table)

/-- The table of a row of values, which are numbered from one on. -/
def ofRow (values : List Value) : Table :=
  if values.isEmpty then {}
  else
    { values := values.zipIdx.foldl
        (fun known (value, index) => known.insert (Text.ofNat (index + 1)) value) {}
      row := some values.length }

end Table

end Docket.Shell.Awk
