import Docket.Shell.Permission

/-! Lists of files and of the names in folders. -/

namespace Docket.Shell.Listing

open Docket.Shell.Housekeeping (quote)

/-- The options of the program. -/
def usage : Usage where
  name := "ls"
  plain := "1aAbBcCdfFgGhHiklLmnNopqQrRsStuUvxXZγ"
  valued := "IwTσ"
  optional := "φ"
  status := 2
  long := [("all", 'a'), ("almost-all", 'A'), ("directory", 'd'), ("classify", 'F'),
    ("recursive", 'R'), ("reverse", 'r'), ("ignore", 'I'), ("ignore-backups", 'B'),
    ("group-directories-first", 'γ'), ("sort", 'σ'), ("quote-name", 'Q'), ("width", 'w'),
    ("color", 'φ'), ("literal", 'N'), ("escape", 'b'), ("human-readable", 'h'), ("inode", 'i'),
    ("size", 's'), ("no-group", 'G'), ("numeric-uid-gid", 'n')]

/-- A thing to list: its name as it was given, and what it is. -/
structure Item where
  name : Text
  entry : Entry

namespace Item

/-- Whether an item is a folder. -/
def isFolder (item : Item) : Bool :=
  item.entry matches .folder

/-- The number of bytes; every folder has as many. -/
def size (item : Item) : Nat :=
  match item.entry with
  | .folder => 4096
  | .file content _ => content.size

/-- The ending of the name, with its point. -/
def ending (item : Item) : Text :=
  if List.elem '.' item.name then
    '.' :: (item.name.reverse.takeWhile (· != '.')).reverse else []

/-- The mark behind the name of an item. -/
def mark (given : Given) (item : Item) : Text :=
  match item.entry with
  | .folder => if (given.has 'F' || given.has 'p') && item.name.getLast? != some '/' then ['/']
    else []
  | .file _ executable => if given.has 'F' && executable then ['*'] else []

/-- The name of an item as it is shown. -/
def shown (given : Given) (item : Item) : Text :=
  let name := if given.has 'Q' then
      '"' :: (item.name.flatMap fun char =>
        if char = '"' || char = '\\' then ['\\', char] else [char]) ++ ['"']
    else item.name
  name ++ item.mark given

end Item

/-- Items in order. -/
def ordered (given : Given) (items : List Item) : List Item :=
  let byName (left right : Item) : Bool := !Text.before right.name left.name
  let named := if given.has 'U' || given.has 'f' then items else items.mergeSort byName
  let method := String.ofList ((given.value? 'σ').getD [])
  let sorted := if given.has 'S' || method = "size" then
      named.mergeSort fun left right => right.size ≤ left.size
    else if given.has 'X' || method = "extension" then
      named.mergeSort fun left right => !Text.before right.ending left.ending
    else named
  let turned := if given.has 'r' then sorted.reverse else sorted
  if given.has 'γ' then turned.filter Item.isFolder ++ turned.filter (!·.isFolder) else turned

/-- Blanks and tabs from one column to another. -/
def indent (fuel start stop : Nat) : Text :=
  match fuel with
  | 0 => []
  | fuel + 1 =>
    if stop ≤ start then []
    else if (start + 1) / 8 < stop / 8 then '\t' :: indent fuel (start + 8 - start % 8) stop
    else ' ' :: indent fuel (start + 1) stop

/-- The widths of columns if there are so many, with names down the columns or along the rows. -/
def widths (down : Bool) (count : Nat) (names : List Text) : List Nat :=
  let rows := (names.length + count - 1) / count
  let columnOf (index : Nat) : Nat := if down then index / rows else index % count
  (List.range count).map fun column =>
    let own := names.zipIdx.filterMap fun (name, index) =>
      if columnOf index = column then
        some (name.length + if column = count - 1 then 0 else 2) else none
    own.foldl max 3

/-- Names in columns of a page. -/
def inColumns (down : Bool) (page : Nat) (names : List Text) : Text :=
  let most := min names.length (max 1 ((page + 2) / 3))
  let fits (count : Nat) : Bool := (widths down count names).foldl (· + ·) 0 < page
  let count := (((List.range most).reverse.map (· + 1)).find? fits).getD 1
  let found := widths down count names
  let rows := (names.length + count - 1) / count
  let place (row column : Nat) : Nat := if down then row + column * rows else row * count + column
  (List.range rows).flatMap fun row =>
    let cells := (List.range count).filterMap fun column =>
      (names[place row column]?).map fun name => (name, (found.take column).foldl (· + ·) 0)
    let (text, _) := cells.foldl (fun ((text, column) : Text × Nat) (name, start) =>
      (text ++ indent page column start ++ name, start + name.length)) ([], 0)
    text ++ ['\n']

/-- Names with commas between them, on lines of a page. -/
def withCommas (page : Nat) (names : List Text) : Text :=
  let (text, _) := names.zipIdx.foldl
    (fun ((text, column) : Text × Nat) (name, index) =>
      let isLast := index + 1 = names.length
      let size := name.length + if isLast then 0 else 2
      if index = 0 then (name, name.length)
      else if column + 2 + name.length < page && column + size < page then
        (text ++ ", ".toList ++ name, column + 2 + name.length)
      else (text ++ ",\n".toList ++ name, name.length)) ([], 0)
  if names.isEmpty then [] else text ++ ['\n']

/-- The number of kilobytes that an item takes. -/
def blocks (item : Item) : Nat :=
  (item.size + 4095) / 4096 * 4

/-- Items with all that is known of them. -/
def long (given : Given) (items : List Item) : Text :=
  let rows := items.map fun item =>
    let links := if item.isFolder then ['2'] else ['1']
    (item, links, Text.ofNat item.size)
  let width (part : Item × Text × Text → Text) : Nat :=
    (rows.map fun row => (part row).length).foldl max 0
  let right (size : Nat) (text : Text) : Text := List.replicate (size - text.length) ' ' ++ text
  rows.flatMap fun (item, links, size) =>
    (if item.isFolder then 'd' else '-') :: Permission.letters (Permission.ofEntry item.entry) ++
      ' ' :: right (width (·.2.1)) links ++ " root root ".toList ++
      right (width (·.2.2)) size ++ " Jan  1 00:00 ".toList ++ item.shown given ++ ['\n']

/-- Items as they are listed. -/
def listed (given : Given) (items : List Item) : Text :=
  let names := items.map (Item.shown given)
  let page := (((given.value? 'w').bind Text.natural?).map fun width =>
    if width = 0 then 100000 else width).getD 80
  let form := (given.options.map Prod.fst).reverse.find? fun letter =>
    "1Cxmlngo".toList.elem letter
  match form with
  | some 'C' => inColumns true page names
  | some 'x' => inColumns false page names
  | some 'm' => withCommas page names
  | some 'l' | some 'n' | some 'g' | some 'o' => long given items
  | _ => names.flatMap (· ++ ['\n'])

/-- The items in a folder that are to be listed. -/
def itemsIn (given : Given) (disk : Disk) (path : Text) : List Item :=
  let names := Glob.namesIn disk path
  let hidden (name : Text) : Bool := name.head? = some '.'
  let ignored (name : Text) : Bool :=
    (given.has 'B' && name.getLast? = some '~') ||
      (given.values 'I').any fun pattern => Glob.fits (Glob.ofSigns (Glob.signs pattern)) name
  let names := (if given.has 'a' || given.has 'f' then [['.'], ['.', '.']] ++ names
    else if given.has 'A' then names
    else names.filter (!hidden ·)).filter (!ignored ·)
  let lead := if path.getLast? = some '/' then path else path ++ ['/']
  ordered given (names.filterMap fun name =>
    match disk.find (Bytes.decode (lead ++ name)) with
    | .ok (_, entry) => some ⟨name, entry⟩
    | .error _ => none)

/-- Lists a folder and, if that is wanted, all folders in it. Each level costs one of `fuel`. -/
def listFolder (given : Given) (disk : Disk) (heading : Bool) (fuel : Nat) (path : Text) :
    List Text :=
  match fuel with
  | 0 => []
  | fuel + 1 =>
    let items := itemsIn given disk path
    let isLong := "lngos".toList.any given.has
    let total := if isLong then
        "total ".toList ++ Text.ofNat ((items.map blocks).foldl (· + ·) 0) ++ ['\n'] else []
    let head := if heading then path ++ ":\n".toList else []
    (head ++ total ++ listed given items) ::
      if given.has 'R' then
        let lead := if path.getLast? = some '/' then path else path ++ ['/']
        (items.filter fun item => item.isFolder && !Disk.isDots item.name).flatMap fun item =>
          listFolder given disk heading fuel (lead ++ item.name)
      else []

/-- Lists files and the names in folders. -/
def program : Utility := usage.program fun given => do
  let disk := (← get).disk
  let paths := if given.operands.isEmpty then [['.']] else given.operands
  let mut status := 0
  let mut found := []
  for path in paths do
    match disk.find (Bytes.decode path) with
    | .ok (_, entry) => found := found ++ [Item.mk path entry]
    | .error fault =>
      Filter.complain "ls" ("cannot access ".toList ++ quote path ++ ": ".toList ++
        Filter.wording fault)
      status := 2
  let isFolder (item : Item) : Bool := item.isFolder && !given.has 'd'
  let files := ordered given (found.filter (!isFolder ·))
  let folders := ordered given (found.filter isFolder)
  let heading := 1 < paths.length || given.has 'R'
  let parts := (if files.isEmpty then [] else [listed given files]) ++
    folders.flatMap fun item => listFolder given disk heading 100 item.name
  State.print (Text.join ['\n'] parts)
  return status

end Docket.Shell.Listing
