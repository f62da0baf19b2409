import Docket.Shell.Usage

/-! Dumps: the bytes of files as numbers or characters, in lines with positions in front. -/

namespace Docket.Shell.Dump

/-- How bytes are shown. -/
inductive Kind where
  | named
  | char
  | signed
  | unsigned
  | octal
  | hexadecimal
deriving DecidableEq

/-- A way to show bytes: of which kind, how many together, and whether their text follows. -/
structure Column where
  kind : Kind
  size : Nat
  withText : Bool := false

/-- The width of a column. -/
def Column.width (column : Column) : Nat :=
  let ofSize (one two four eight : Nat) : Nat :=
    match column.size with
    | 1 => one
    | 2 => two
    | 4 => four
    | _ => eight
  match column.kind with
  | .named | .char => 3
  | .octal => ofSize 3 6 11 22
  | .signed => ofSize 4 6 11 20
  | .unsigned => ofSize 3 5 10 20
  | .hexadecimal => ofSize 2 4 8 16

/-- The names of the first characters. -/
def names : List String :=
  ["nul", "soh", "stx", "etx", "eot", "enq", "ack", "bel", "bs", "ht", "nl", "vt", "ff", "cr", "so",
    "si", "dle", "dc1", "dc2", "dc3", "dc4", "nak", "syn", "etb", "can", "em", "sub", "esc", "fs",
    "gs", "rs", "us", "sp"]

/-- The digits of a value in a base, as many as are asked for. -/
def digits (base : Nat) (value : Nat) : Nat → Text
  | 0 => []
  | count + 1 => digits base (value / base) count ++ [Nat.digitChar (value % base)]

/-- A character as it is shown. -/
def charText (byte : Nat) : Text :=
  let known : List (Nat × String) :=
    [(0, "\\0"), (7, "\\a"), (8, "\\b"), (9, "\\t"), (10, "\\n"), (11, "\\v"), (12, "\\f"),
      (13, "\\r")]
  match known.lookup byte with
  | some text => text.toList
  | none => if 32 ≤ byte && byte < 127 then [Char.ofNat byte] else digits 8 byte 3

/-- The text of bytes in a column. -/
def Column.show_ (column : Column) (bigFirst : Bool) (bytes : Text) : Text :=
  let ordered := if bigFirst then bytes else bytes.reverse
  let value := ordered.foldl (fun value byte => value * 256 + byte.toNat) 0
  match column.kind with
  | .named =>
    let byte := value % 128
    if byte = 127 then "del".toList
    else ((names[byte]?).map String.toList).getD [Char.ofNat byte]
  | .char => charText value
  | .octal => digits 8 value column.width
  | .hexadecimal => digits 16 value column.width
  | .unsigned => Text.ofNat value
  | .signed =>
    let count := 1 <<< (8 * column.size)
    Text.ofInt (if count ≤ 2 * value then (value : Int) - (count : Int) else (value : Int))

/-- A text with blanks in front. -/
def padded (width : Nat) (text : Text) : Text :=
  List.replicate (width - text.length) ' ' ++ text

/-- How many of the spare blanks stand in front of a field of a line with so many fields. -/
def gap (spare fields index : Nat) : Nat :=
  spare * (fields - index) / fields - spare * (fields - index - 1) / fields

/-- A character that takes one place. -/
def visible (char : Char) : Char :=
  if ' ' ≤ char && char ≤ '~' then char else '.'

/-- A text cut into pieces of a size. Each piece costs one of `fuel`. -/
def pieces (fuel size : Nat) (text : Text) : List Text :=
  match fuel, text with
  | _, [] => []
  | 0, text => [text]
  | fuel + 1, text => text.take size :: pieces fuel size (text.drop size)

/-- How a dump is laid out. -/
structure Layout where
  columns : List Column
  /-- The bytes of a line. -/
  size : Nat
  /-- The base of positions and their digits; without a base there are none. -/
  base? : Option Nat := some 8
  bigFirst : Bool := false
  /-- Whether lines are shown that repeat the one before. -/
  all : Bool := false

/-- The digits of a position. -/
def Layout.position (layout : Layout) (position : Nat) : Text :=
  match layout.base? with
  | none => []
  | some base =>
    let least := if base = 16 then 6 else 7
    Text.padZeros least (Nat.toDigits base position)

/-- The width that a column needs for a full line. -/
def Layout.needed (layout : Layout) (column : Column) : Nat :=
  (column.width + 1) * (layout.size / column.size)

/-- A line in one of the columns. -/
def Layout.column (layout : Layout) (bytes : Text) (column : Column) : Text :=
  let fields := layout.size / column.size
  let widest := (layout.columns.map layout.needed).foldl max 0
  let spare := widest - layout.needed column
  let parts := (pieces bytes.length column.size bytes).map fun part =>
    part ++ List.replicate (column.size - part.length) '\x00'
  let shown := parts.zipIdx.flatMap fun (part, index) =>
    padded (column.width + 1 + gap spare fields index) (column.show_ layout.bigFirst part)
  let empty := fields - parts.length
  let text := if column.withText then
      List.replicate (empty * (column.width + 1) + spare * empty / fields) ' ' ++
        "  >".toList ++ bytes.map visible ++ ['<']
    else []
  shown ++ text

/-- A line of the dump with its position. -/
def Layout.line (layout : Layout) (position : Nat) (bytes : Text) : Text :=
  let lead := layout.position position
  layout.columns.zipIdx.flatMap fun (column, index) =>
    (if index = 0 then lead else List.replicate lead.length ' ') ++
      layout.column bytes column ++ ['\n']

/-- The lines of a dump. `before` is the full line before, and `repeated` tells that a star stands
for lines like it. -/
def Layout.lines (layout : Layout) (before : Option Text) (repeated : Bool) :
    List (Text × Nat) → Text
  | [] => []
  | (bytes, position) :: rest =>
    if !layout.all && some bytes = before && bytes.length = layout.size then
      (if repeated then [] else ['*', '\n']) ++ layout.lines before true rest
    else layout.line position bytes ++ layout.lines (some bytes) false rest

/-- The dump of a text from a position on. -/
def Layout.dump (layout : Layout) (start : Nat) (text : Text) : Text :=
  let lines := (pieces text.length layout.size text).zipIdx.map fun (bytes, index) =>
    (bytes, start + index * layout.size)
  let last := layout.position (start + text.length)
  layout.lines none false lines ++ (if last.isEmpty then [] else last ++ ['\n'])

/-- The size that the letters behind a kind ask for, and what follows them. -/
def size (default : Nat) (text : Text) : Nat × Text :=
  match text with
  | 'C' :: rest => (1, rest)
  | 'S' :: rest => (2, rest)
  | 'I' :: rest => (4, rest)
  | 'L' :: rest => (8, rest)
  | text =>
    let digits := text.takeWhile Char.isDigit
    ((Text.natural? digits).getD default, text.drop digits.length)

/-- The columns that letters ask for, or the letter that asks for none. Each column costs one of
`fuel`. -/
def columns? (fuel : Nat) (text : Text) : Except Char (List Column) :=
  match fuel, text with
  | fuel + 1, letter :: rest =>
    let counted (kind : Kind) : Except Char (List Column) :=
      let (size, rest) := size 4 rest
      let (withText, rest) := marked rest
      (columns? fuel rest).map (⟨kind, size, withText⟩ :: ·)
    let plain (kind : Kind) : Except Char (List Column) :=
      let (withText, rest) := marked rest
      (columns? fuel rest).map (⟨kind, 1, withText⟩ :: ·)
    match letter with
    | 'a' => plain .named
    | 'c' => plain .char
    | 'd' => counted .signed
    | 'u' => counted .unsigned
    | 'o' => counted .octal
    | 'x' => counted .hexadecimal
    | letter => .error letter
  | _, _ => .ok []
where
  /-- Whether text is asked for, and what follows. -/
  marked : Text → Bool × Text
    | 'z' :: rest => (true, rest)
    | rest => (false, rest)

/-- The usage of the program. -/
def usage : Usage :=
  { name := "od", plain := "abcdhilosvxB", valued := "AjNtε", optional := "w", long := [
      ("skip-bytes", 'j'), ("address-radix", 'A'), ("read-bytes", 'N'), ("format", 't'),
      ("output-duplicates", 'v'), ("width", 'w'), ("endian", 'ε')] }

/-- The columns that an option asks for. -/
def optionColumns? (option : Char × Text) : Except Text (List Column) :=
  let one (kind : Kind) (size : Nat) : Except Text (List Column) := .ok [⟨kind, size, false⟩]
  match option.1 with
  | 'a' => one .named 1
  | 'b' => one .octal 1
  | 'c' => one .char 1
  | 'd' => one .unsigned 2
  | 'i' => one .signed 4
  | 'l' => one .signed 8
  | 'o' | 'B' => one .octal 2
  | 's' => one .signed 2
  | 'x' | 'h' => one .hexadecimal 2
  | 't' => (columns? (option.2.length + 1) option.2).mapError fun letter =>
      "invalid character '".toList ++ letter :: "' in type string '".toList ++ option.2 ++ ['\'']
  | _ => .ok []

/-- A number of bytes, which may have a unit. -/
def amount? (text : Text) : Option Nat :=
  let known : List (Char × Nat) := [('b', 512), ('k', 1024), ('K', 1024), ('m', 1048576),
    ('M', 1048576)]
  let (digits, unit) := match text.getLast?.bind (List.lookup · known) with
    | some unit => (text.dropLast, unit)
    | none => (text, 1)
  let value? := match digits with
    | '0' :: 'x' :: rest => hexadecimal? rest
    | digits => Text.natural? digits
  value?.map (· * unit)
where
  /-- The value of hexadecimal digits. -/
  hexadecimal? (digits : Text) : Option Nat :=
    digits.foldl (fun value digit => do
      let place := "0123456789abcdef".toList.idxOf digit.toLower
      if place < 16 then return (← value) * 16 + place else none) (some 0)

/-- The least common multiple of the sizes of columns. -/
def commonSize (columns : List Column) : Nat :=
  columns.foldl (fun common column => Nat.lcm common column.size) 1

/-- The base of positions that an option asks for. -/
def base? : Text → Except Text (Option Nat)
  | ['o'] => .ok (some 8)
  | ['d'] => .ok (some 10)
  | ['x'] => .ok (some 16)
  | ['n'] => .ok none
  | word => .error ("invalid output address radix '".toList ++ word ++
      "'; it must be one character from [doxn]".toList)

/-- The layout that options ask for, or what is wrong with them; and a warning. -/
def layout? (given : Given) : Except Text (Layout × Option Text) := do
  let base? ← base? ((given.value? 'A').getD ['o'])
  let found := (← given.options.mapM optionColumns?).flatten
  let columns := if found.isEmpty then [⟨.octal, 2, false⟩] else found
  let common := commonSize columns
  let usual := if common ≤ 16 then 16 / common * common else common
  let (size, warning) := match given.value? 'w' with
    | none => (usual, none)
    | some word =>
      let wanted := if word.isEmpty then 32 else (Text.natural? word).getD 0
      if wanted != 0 && wanted % common = 0 then (wanted, none)
      else (common, some ("warning: invalid width ".toList ++ Text.ofNat wanted ++
        "; using ".toList ++ Text.ofNat common ++ " instead".toList))
  return ({
    columns, size, base?
    bigFirst := given.value? 'ε' = some "big".toList
    all := given.has 'v' }, warning)

/-- Reads the bytes of all files, as far as there are such files; the status tells whether one was
missing. -/
def gathered : List Text → Work (Option Text × Nat)
  | [] => return (none, 0)
  | path :: rest => do
    match ← Filter.read path with
    | .ok text =>
      let (others, status) ← gathered rest
      return (some (text ++ others.getD []), status)
    | .error fault =>
      Filter.complain "od" (path ++ ": ".toList ++ Filter.wording fault)
      let (others, _) ← gathered rest
      return (others, 1)

/-- Prints the dump of files. -/
def program : Utility :=
  usage.program fun given => do
    match layout? given with
    | .error message =>
      Filter.complain "od" message
      return 1
    | .ok (layout, warning) =>
      if let some message := warning then Filter.complain "od" message
      let (found, status) ←
        gathered (if given.operands.isEmpty then [['-']] else given.operands)
      let some text := found | return status
      let start := ((given.value? 'j').bind amount?).getD 0
      if text.length < start then
        Filter.complain "od" "cannot skip past end of combined input".toList
        return 1
      let rest := text.drop start
      let part := match (given.value? 'N').bind amount? with
        | some count => rest.take count
        | none => rest
      State.print (layout.dump start part)
      return status

end Docket.Shell.Dump
