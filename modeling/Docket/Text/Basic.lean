/-! Texts as lists of characters, with byte length, search and order, and their white space: the
Unicode property `White_Space`, and trimming. -/

namespace Docket

/-- A text is the list of its Unicode scalar values, so every cut falls between characters. -/
abbrev Text := List Char

namespace Text

/-- Texts are hashed character by character. -/
instance : Hashable Text :=
  @instHashableList Char instHashableChar

/-- The number of bytes of the UTF-8 form of a text. -/
def byteLength (text : Text) : Nat :=
  text.foldl (fun total char => total + char.utf8Size) 0

/-- Whether `needle` stands at the front of `text`. -/
def startsWith (text needle : Text) : Bool :=
  needle.isPrefixOf text

/-- Whether `needle` stands at the end of `text`. -/
def endsWith (text needle : Text) : Bool :=
  needle.reverse.isPrefixOf text.reverse

/-- The least offset at which `needle` occurs; the empty text occurs at every offset. -/
def indexOf? (needle : Text) : Text → Option Nat
  | [] => if needle.isEmpty then some 0 else none
  | char :: rest =>
    if needle.isPrefixOf (char :: rest) then some 0
    else (indexOf? needle rest).map (· + 1)

/-- Whether `needle` occurs somewhere in `text`. -/
def contains (text needle : Text) : Bool :=
  (indexOf? needle text).isSome

/-- The texts joined with `separator` between neighbours. -/
def join (separator : Text) : List Text → Text
  | [] => []
  | [last] => last
  | first :: rest => first ++ separator ++ join separator rest

/-- The part before the first `mark` and the part after it. -/
def splitOnce? (mark : Char) : Text → Option (Text × Text)
  | [] => none
  | char :: rest =>
    if char = mark then some ([], rest)
    else (splitOnce? mark rest).map fun (head, tail) => (char :: head, tail)

/-- The characters at the front that pass a test, if there are some and `mark` comes next, and the
part after that mark. -/
def runBefore? (test : Char → Bool) (mark : Char) (text : Text) : Option (Text × Text) :=
  match text.takeWhile test, text.dropWhile test with
  | first :: others, next :: rest => if next = mark then some (first :: others, rest) else none
  | _, _ => none

/-- ASCII capitals turn into small letters; every other character stays. -/
def asciiLower (text : Text) : Text :=
  text.map Char.toLower

/-- Equality up to the case of ASCII letters. -/
def sameIgnoringAsciiCase (left right : Text) : Bool :=
  asciiLower left == asciiLower right

/-- Counting bytes from the front or from a running total gives the same length. -/
theorem foldl_utf8Size (text : Text) (total : Nat) :
    text.foldl (fun total char => total + char.utf8Size) total = total + byteLength text := by
  -- The running total is only ever added to, so it can be taken out in front.
  induction text generalizing total with
  | nil => simp [byteLength]
  | cons char rest ih =>
    simp only [List.foldl_cons, byteLength]
    rw [ih, ih (0 + char.utf8Size)]
    omega

@[simp] theorem byteLength_nil : byteLength [] = 0 := rfl

@[simp] theorem byteLength_cons (char : Char) (rest : Text) :
    byteLength (char :: rest) = char.utf8Size + byteLength rest := by
  rw [byteLength, List.foldl_cons, foldl_utf8Size]
  omega

@[simp] theorem byteLength_append (left right : Text) :
    byteLength (left ++ right) = byteLength left + byteLength right := by
  induction left with
  | nil => simp
  | cons char rest ih => simp [ih, Nat.add_assoc]

/-- The two parts around the first mark make up the text. -/
theorem splitOnce?_source {mark : Char} {text head tail : Text}
    (found : splitOnce? mark text = some (head, tail)) : text = head ++ mark :: tail := by
  -- The first mark ends the induction.
  induction text generalizing head with
  | nil => simp [splitOnce?] at found
  | cons char rest ih =>
    simp only [splitOnce?] at found
    split at found
    · rename_i same
      obtain ⟨rfl, rfl⟩ := Prod.mk.inj (Option.some.inj found)
      rw [same]
      rfl
    · obtain ⟨⟨later, behind⟩, cut, equal⟩ := Option.map_eq_some_iff.mp found
      obtain ⟨rfl, rfl⟩ := Prod.mk.inj equal
      rw [ih cut]
      rfl

/-- A run, the mark behind it and the part after the mark make up the text. -/
theorem runBefore?_source {test : Char → Bool} {mark : Char} {text run rest : Text}
    (found : runBefore? test mark text = some (run, rest)) : text = run ++ mark :: rest := by
  -- The run and what follows it are a cut of the text.
  have cut := List.takeWhile_append_dropWhile (p := test) (l := text)
  unfold runBefore? at found
  split at found
  · rename_i taken dropped
    split at found
    · rename_i same
      obtain ⟨rfl, rfl⟩ := Prod.mk.inj (Option.some.inj found)
      rw [← cut, taken, dropped, same]
    · exact absurd found (by simp)
  · exact absurd found (by simp)

/-- The separator stands between the first text and the others. -/
theorem join_cons_cons (separator first second : Text) (rest : List Text) :
    join separator (first :: second :: rest) =
      first ++ (separator ++ join separator (second :: rest)) := by
  simp [join]

end Text

end Docket

namespace Docket.Text

/-- Characters with the property `White_Space`. -/
def isBlank (char : Char) : Bool :=
  let code := char.toNat
  (9 ≤ code && code ≤ 13) || code == 0x20 || code == 0x85 || code == 0xA0 || code == 0x1680 ||
    (0x2000 ≤ code && code ≤ 0x200A) || code == 0x2028 || code == 0x2029 || code == 0x202F ||
    code == 0x205F || code == 0x3000

/-- A text is blank when it holds nothing but white space. -/
def blank (text : Text) : Bool :=
  text.all isBlank

/-- A text without the white space at its front. -/
def trimStart (text : Text) : Text :=
  text.dropWhile isBlank

/-- A text without the white space at its end. -/
def trimEnd (text : Text) : Text :=
  (text.reverse.dropWhile isBlank).reverse

/-- A text without the white space at its two ends. -/
def trim (text : Text) : Text :=
  trimEnd (trimStart text)

end Docket.Text
