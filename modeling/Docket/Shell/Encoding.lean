import Docket.Shell.Usage

/-! Writing bytes with few different characters, and reading them back. -/

namespace Docket.Shell

/-- How bytes are written as characters. -/
structure Encoding where
  name : String
  /-- The characters for the values of a digit. -/
  digits : Text
  /-- The bits of a digit. -/
  bits : Nat
  /-- The bytes of a group, which is written with digits that hold all of its bits. -/
  bytes : Nat

namespace Encoding

/-- The digits of a group. -/
def groupLength (encoding : Encoding) : Nat :=
  8 * encoding.bytes / encoding.bits

/-- The characters of a range. -/
def range (low : Char) (count : Nat) : Text :=
  (List.range count).map fun index => Char.ofNat (low.toNat + index)

/-- Four digits for three bytes. -/
def base64 : Encoding :=
  { name := "base64", bits := 6, bytes := 3
    digits := range 'A' 26 ++ range 'a' 26 ++ range '0' 10 ++ ['+', '/'] }

/-- The digits of a value, the highest one first. -/
def digitsOf (encoding : Encoding) (value : Nat) : Nat → Text
  | 0 => []
  | count + 1 =>
    encoding.digitsOf (value >>> encoding.bits) count ++
      [(encoding.digits[value % (1 <<< encoding.bits)]?).getD '=']

/-- The value of bytes, the highest one first. -/
def valueOf (bytes : Text) : Nat :=
  bytes.foldl (fun value byte => value * 256 + byte.toNat) 0

/-- The characters of up to a group of bytes. -/
def group (encoding : Encoding) (bytes : Text) : Text :=
  let missing := encoding.bytes - bytes.length
  let all := encoding.digitsOf (valueOf bytes <<< (8 * missing)) encoding.groupLength
  let used := (8 * bytes.length + encoding.bits - 1) / encoding.bits
  all.take used ++ List.replicate (encoding.groupLength - used) '='

/-- A text cut into pieces of a size. Each piece costs one of `fuel`. -/
def pieces (fuel size : Nat) (text : Text) : List Text :=
  match fuel, text with
  | _, [] => []
  | 0, text => [text]
  | fuel + 1, text => text.take size :: pieces fuel size (text.drop size)

/-- The characters for bytes. -/
def encode (encoding : Encoding) (text : Text) : Text :=
  (pieces text.length encoding.bytes text).flatMap encoding.group

/-- The bytes of a value, the highest one first. -/
def bytesOf (value : Nat) : Nat → Text
  | 0 => []
  | count + 1 => bytesOf (value / 256) count ++ [Char.ofNat (value % 256)]

/-- The bytes of a group, and whether it is complete. What fills it up must fit the digits. -/
def ungroup (encoding : Encoding) (group : Text) : Text × Bool :=
  let used := group.takeWhile encoding.digits.elem
  let filler := group.drop used.length
  let count := used.length * encoding.bits / 8
  let needed := (8 * count + encoding.bits - 1) / encoding.bits
  let value := used.foldl
    (fun value digit => (value <<< encoding.bits) + encoding.digits.idxOf digit) 0
  let bytes := bytesOf (value >>> (used.length * encoding.bits - 8 * count)) count
  let complete := group.length = encoding.groupLength && filler.all (· == '=') &&
    used.length = needed && !used.isEmpty
  (bytes, complete)

/-- The bytes that characters stand for up to the first fault, and whether there was none. Each
group costs one of `fuel`. -/
def decode (encoding : Encoding) (fuel : Nat) (text : Text) : Text × Bool :=
  match fuel, text with
  | _, [] => ([], true)
  | 0, _ => ([], false)
  | fuel + 1, text =>
    match encoding.ungroup (text.take encoding.groupLength) with
    | (bytes, true) =>
      let (others, sound) := encoding.decode fuel (text.drop encoding.groupLength)
      (bytes ++ others, sound)
    | (bytes, false) => (bytes, false)

/-- The usage of the programs. -/
def usage (encoding : Encoding) : Usage :=
  { name := encoding.name, plain := "di", valued := "w"
    long := [("decode", 'd'), ("wrap", 'w'), ("ignore-garbage", 'i')] }

/-- Writes or reads back a text. -/
def convert (encoding : Encoding) (given : Given) (width : Nat) (text : Text) : Work Nat := do
  if given.has 'd' then
    let kept := text.filter fun char =>
      char != '\n' && (!given.has 'i' || encoding.digits.elem char || char == '=')
    let (bytes, sound) := encoding.decode (kept.length + 1) kept
    State.print bytes
    if sound then return 0
    Filter.complain encoding.name "invalid input".toList
    return 1
  else
    let written := encoding.encode text
    State.print (if width = 0 then written
      else Filter.unlines (pieces written.length width written))
    return 0

/-- The program. -/
def program (encoding : Encoding) : Utility :=
  encoding.usage.program fun given => do
    let wanted := (given.value? 'w').getD "76".toList
    match Text.natural? wanted, given.operands with
    | none, _ =>
      Filter.complain encoding.name ("invalid wrap size: '".toList ++ wanted ++ ['\''])
      return 1
    | some _, _ :: extra :: _ =>
      Filter.complainWithHint encoding.name ("extra operand '".toList ++ extra ++ ['\''])
    | some width, files =>
      let path := files.head?.getD ['-']
      match ← Filter.read path with
      | .ok text => encoding.convert given width text
      | .error .isFolder =>
        Filter.complain encoding.name "read error: Is a directory".toList
        return 1
      | .error fault =>
        Filter.complain encoding.name (path ++ ": ".toList ++ Filter.wording fault)
        return 1

end Encoding

end Docket.Shell
