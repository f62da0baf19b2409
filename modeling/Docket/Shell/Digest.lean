import Docket.Shell.Bytes
import Docket.Text.Integer

/-! Digests of texts: MD5, SHA-1 and SHA-256. They have words of 32 bits that wrap around and blocks
of sixteen words in common. The fixed numbers of SHA-256 are the first bits behind the point of
roots of prime numbers. -/

namespace Docket.Shell.Digest

/-- The number of different words. -/
def modulus : Nat :=
  0x100000000

/-- The sum of words. -/
def add (words : List Nat) : Nat :=
  words.foldl (· + ·) 0 % modulus

/-- A word turned to the left. -/
def turnLeft (count word : Nat) : Nat :=
  ((word <<< count) % modulus) ||| (word >>> (32 - count))

/-- A word turned to the right. -/
def turnRight (count word : Nat) : Nat :=
  turnLeft (32 - count) word

/-- A word with all bits changed. -/
def flip (word : Nat) : Nat :=
  modulus - 1 - word

/-- The word of some bytes, the highest one first. -/
def ofBytes (bytes : List Nat) : Nat :=
  bytes.foldl (fun word byte => word * 256 + byte) 0

/-- The bytes of a word, the highest one first. -/
def toBytes : Nat → Nat → List Nat
  | 0, _ => []
  | count + 1, word => toBytes count (word / 256) ++ [word % 256]

/-- A list cut into pieces of a size. Each piece costs one of `fuel`. -/
def piecesOf {α : Type} (fuel size : Nat) (items : List α) : List (List α) :=
  match fuel, items with
  | _, [] => []
  | 0, items => [items]
  | fuel + 1, items => items.take size :: piecesOf fuel size (items.drop size)

/-- The bytes of a word or of a length, the lowest one first if so demanded. -/
def wordBytes (lowFirst : Bool) (count word : Nat) : List Nat :=
  if lowFirst then (toBytes count word).reverse else toBytes count word

/-- The blocks of sixteen words of a message: behind it stand a one, zeros, and its length in
bits. -/
def blocks (lowFirst : Bool) (message : Text) : List (List Nat) :=
  let zeros := (119 - message.length % 64) % 64
  let padded := message.map Char.toNat ++ 0x80 :: List.replicate zeros 0 ++
    wordBytes lowFirst 8 (8 * message.length)
  (piecesOf padded.length 64 padded).map fun block =>
    (piecesOf 64 4 block).map fun bytes => ofBytes (if lowFirst then bytes.reverse else bytes)

/-- The digest in hexadecimal of the words that are left in the end. -/
def hex (lowFirst : Bool) (words : List Nat) : Text :=
  (words.flatMap (wordBytes lowFirst 4)).flatMap fun byte =>
    [Nat.digitChar (byte / 16), Nat.digitChar (byte % 16)]

/-- The fixed numbers of MD5: the leading bits of the sines of 1 to 64. -/
def md5Sines : List Nat := [
  0xd76aa478, 0xe8c7b756, 0x242070db, 0xc1bdceee, 0xf57c0faf, 0x4787c62a, 0xa8304613,
  0xfd469501, 0x698098d8, 0x8b44f7af, 0xffff5bb1, 0x895cd7be, 0x6b901122, 0xfd987193,
  0xa679438e, 0x49b40821, 0xf61e2562, 0xc040b340, 0x265e5a51, 0xe9b6c7aa, 0xd62f105d,
  0x02441453, 0xd8a1e681, 0xe7d3fbc8, 0x21e1cde6, 0xc33707d6, 0xf4d50d87, 0x455a14ed,
  0xa9e3e905, 0xfcefa3f8, 0x676f02d9, 0x8d2a4c8a, 0xfffa3942, 0x8771f681, 0x6d9d6122,
  0xfde5380c, 0xa4beea44, 0x4bdecfa9, 0xf6bb4b60, 0xbebfbc70, 0x289b7ec6, 0xeaa127fa,
  0xd4ef3085, 0x04881d05, 0xd9d4d039, 0xe6db99e5, 0x1fa27cf8, 0xc4ac5665, 0xf4292244,
  0x432aff97, 0xab9423a7, 0xfc93a039, 0x655b59c3, 0x8f0ccc92, 0xffeff47d, 0x85845dd1,
  0x6fa87e4f, 0xfe2ce6e0, 0xa3014314, 0x4e0811a1, 0xf7537e82, 0xbd3af235, 0x2ad7d2bb,
  0xeb86d391]

/-- By how much the words of MD5 are turned, in four steps of each of four rounds. -/
def md5Turns : List (List Nat) :=
  [[7, 12, 17, 22], [5, 9, 14, 20], [4, 11, 16, 23], [6, 10, 15, 21]]

/-- What MD5 makes of three words in a round, and which word of the block it takes. -/
def md5Mix (index b c d : Nat) : Nat × Nat :=
  if index < 16 then ((b &&& c) ||| (flip b &&& d), index)
  else if index < 32 then ((d &&& b) ||| (flip d &&& c), (5 * index + 1) % 16)
  else if index < 48 then ((b ^^^ c) ^^^ d, (3 * index + 5) % 16)
  else (c ^^^ (b ||| flip d), 7 * index % 16)

/-- What MD5 makes of its words with a block. -/
def md5Block (words block : List Nat) : List Nat :=
  let step (words : List Nat) (item : Nat × Nat) : List Nat :=
    match words with
    | [a, b, c, d] =>
      let (sine, index) := item
      let (mixed, place) := md5Mix index b c d
      let turn := ((md5Turns[index / 16]?).bind (·[index % 4]?)).getD 0
      let sum := add [a, mixed, sine, (block[place]?).getD 0]
      [d, add [b, turnLeft turn sum], b, c]
    | words => words
  let mixed := md5Sines.zipIdx.foldl step words
  (words.zip mixed).map fun (before, after) => add [before, after]

/-- The words that MD5 and SHA-1 begin with. -/
def firstWords : List Nat :=
  [0x67452301, 0xefcdab89, 0x98badcfe, 0x10325476]

/-- The MD5 digest of a text. -/
def md5 (text : Text) : Text :=
  hex true ((blocks true text).foldl md5Block firstWords)

/-- The words of a block and those that SHA-1 makes of them, the last one first. -/
def sha1Schedule (block : List Nat) : Nat → List Nat
  | 0 => block.reverse
  | count + 1 =>
    let words := sha1Schedule block count
    let word (back : Nat) : Nat := (words[back - 1]?).getD 0
    turnLeft 1 (word 3 ^^^ word 8 ^^^ word 14 ^^^ word 16) :: words

/-- What SHA-1 makes of three words in a round, and the fixed number of the round. -/
def sha1Mix (index b c d : Nat) : Nat × Nat :=
  if index < 20 then ((b &&& c) ||| (flip b &&& d), 0x5a827999)
  else if index < 40 then (b ^^^ c ^^^ d, 0x6ed9eba1)
  else if index < 60 then ((b &&& c) ||| (b &&& d) ||| (c &&& d), 0x8f1bbcdc)
  else (b ^^^ c ^^^ d, 0xca62c1d6)

/-- What SHA-1 makes of its words with a block. -/
def sha1Block (words block : List Nat) : List Nat :=
  let step (words : List Nat) (item : Nat × Nat) : List Nat :=
    match words with
    | [a, b, c, d, e] =>
      let (word, index) := item
      let (mixed, fixed) := sha1Mix index b c d
      [add [turnLeft 5 a, mixed, e, fixed, word], a, turnLeft 30 b, c, d]
    | words => words
  let mixed := (sha1Schedule block 64).reverse.zipIdx.foldl step words
  (words.zip mixed).map fun (before, after) => add [before, after]

/-- The SHA-1 digest of a text. -/
def sha1 (text : Text) : Text :=
  hex false ((blocks false text).foldl sha1Block (firstWords ++ [0xc3d2e1f0]))

/-- The largest number whose power is at most a value, if it begins like `found` and has `bits` more
bits: from the highest bit down, each one that fits is taken. -/
def root (power : Nat → Nat) (value found : Nat) : Nat → Nat
  | 0 => found
  | bits + 1 =>
    let next := found + (1 <<< bits)
    root power value (if power next ≤ value then next else found) bits

/-- The prime numbers below 312. -/
def primes : List Nat :=
  (List.range 312).filter fun number =>
    2 ≤ number && (List.range number).all fun other => other < 2 || number % other != 0

/-- The first bits behind the point of a square root. -/
def squareRootBits (number : Nat) : Nat :=
  root (fun value => value * value) (number <<< 64) 0 37 % modulus

/-- The first bits behind the point of a cube root. -/
def cubeRootBits (number : Nat) : Nat :=
  root (fun value => value * value * value) (number <<< 96) 0 36 % modulus

/-- Three turns of a word, mixed. -/
def turned (turns : Nat × Nat × Nat) (word : Nat) : Nat :=
  turnRight turns.1 word ^^^ turnRight turns.2.1 word ^^^ turnRight turns.2.2 word

/-- Two turns and a shift of a word, mixed. -/
def shifted (turns : Nat × Nat × Nat) (word : Nat) : Nat :=
  turnRight turns.1 word ^^^ turnRight turns.2.1 word ^^^ word >>> turns.2.2

/-- The words of a block and those that SHA-256 makes of them, the last one first. -/
def sha256Schedule (block : List Nat) : Nat → List Nat
  | 0 => block.reverse
  | count + 1 =>
    let words := sha256Schedule block count
    let word (back : Nat) : Nat := (words[back - 1]?).getD 0
    add [shifted (17, 19, 10) (word 2), word 7, shifted (7, 18, 3) (word 15), word 16] :: words

/-- What SHA-256 makes of its words with a block, where each round has its fixed number. -/
def sha256Block (fixed words block : List Nat) : List Nat :=
  let step (words : List Nat) (item : Nat × Nat) : List Nat :=
    match words with
    | [a, b, c, d, e, f, g, h] =>
      let (word, fixed) := item
      let chosen := (e &&& f) ^^^ (flip e &&& g)
      let sum := add [h, turned (6, 11, 25) e, chosen, fixed, word]
      let major := (a &&& b) ^^^ (a &&& c) ^^^ (b &&& c)
      [add [sum, turned (2, 13, 22) a, major], a, b, c, add [d, sum], e, f, g]
    | words => words
  let mixed := ((sha256Schedule block 48).reverse.zip fixed).foldl step words
  (words.zip mixed).map fun (before, after) => add [before, after]

/-- The SHA-256 digest of a text. -/
def sha256 (text : Text) : Text :=
  let fixed := (primes.take 64).map cubeRootBits
  hex false ((blocks false text).foldl (sha256Block fixed) ((primes.take 8).map squareRootBits))

end Docket.Shell.Digest
