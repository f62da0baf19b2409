import Docket.Shell.Printing
import Docket.Shell.Usage

/-! Characters exchanged for others, taken away, or not repeated. -/

namespace Docket.Shell.Exchange

/-- A piece of a set of characters. -/
inductive Piece where
  | char (char : Char)
  | range (low high : Char)
  | named (name : Text)
  /-- A character so many times; zero times stands for as often as needed. -/
  | repeated (char : Char) (count : Nat)
deriving DecidableEq

/-- The characters of a name. -/
def named? (name : Text) : Option Text :=
  let all := (List.range 256).map Char.ofNat
  let isSpace (char : Char) : Bool := char == ' ' || '\t' ≤ char && char ≤ '\r'
  let isGraph (char : Char) : Bool := '!' ≤ char && char ≤ '~'
  match String.ofList name with
  | "alnum" => some (all.filter Char.isAlphanum)
  | "alpha" => some (all.filter Char.isAlpha)
  | "blank" => some (all.filter fun char => char == ' ' || char == '\t')
  | "cntrl" => some (all.filter fun char => char < ' ' || char == '\x7f')
  | "digit" => some (all.filter Char.isDigit)
  | "graph" => some (all.filter isGraph)
  | "lower" => some (all.filter Char.isLower)
  | "print" => some (all.filter fun char => isGraph char || char == ' ')
  | "punct" => some (all.filter fun char => isGraph char && !char.isAlphanum)
  | "space" => some (all.filter isSpace)
  | "upper" => some (all.filter Char.isUpper)
  | "xdigit" => some (all.filter fun char => "0123456789abcdefABCDEF".toList.elem char)
  | _ => none

/-- The characters of a text without their escapes; those with one are marked. Each character costs
one of `fuel`. -/
def plain (fuel : Nat) (text : Text) : List (Char × Bool) :=
  match fuel, text with
  | fuel + 1, '\\' :: rest =>
    let digits := Printing.octalDigits 3 rest
    let digits := if 255 < ((Sum.digits? 8 digits).getD 0) then digits.take 2 else digits
    if !digits.isEmpty then (Printing.octal digits, true) :: plain fuel (rest.drop digits.length)
    else match rest with
      | letter :: rest =>
        let char := if letter = 'e' then 'e' else (Printing.letters.lookup letter).getD letter
        (char, true) :: plain fuel rest
      | [] => [('\\', true)]
  | fuel + 1, char :: rest => (char, false) :: plain fuel rest
  | _, _ => []

/-- A character as messages show it. -/
def shown (char : Char) : Text :=
  if ' ' ≤ char && char ≤ '~' then [char]
  else match Printing.letters.find? fun (_, other) => other == char with
    | some (letter, _) => ['\\', letter]
    | none =>
      let digits := Nat.toDigits 8 char.toNat
      '\\' :: List.replicate (3 - digits.length) '0' ++ digits

/-- The text up to a mark in front of a bracket, and what follows the bracket. -/
def upTo? (mark : Char) : List (Char × Bool) → Option (Text × List (Char × Bool))
  | (first, false) :: (second, false) :: rest =>
    if first = mark && second = ']' then some ([], rest)
    else (upTo? mark ((second, false) :: rest)).map fun (text, after) => (first :: text, after)
  | (char, _) :: rest => (upTo? mark rest).map fun (text, after) => (char :: text, after)
  | [] => none

/-- A repeated character behind its bracket: the character, a star, and a number. -/
def repetition? : List (Char × Bool) → Except Text (Option (Piece × List (Char × Bool)))
  | (char, _) :: ('*', false) :: rest =>
    let digits := (rest.takeWhile fun (char, _) => char != ']').map Prod.fst
    match rest.drop digits.length with
    | (']', false) :: after =>
      let base := if digits.head? = some '0' then 8 else 10
      match if digits.isEmpty then some 0 else Sum.digits? base digits with
      | some count => .ok (some (.repeated char count, after))
      | none => .error ("invalid repeat count '".toList ++ digits ++
          "' in [c*n] construct".toList)
    | _ => .ok none
  | _ => .ok none

/-- The pieces of a set. Each character costs one of `fuel`. -/
def pieces? (fuel : Nat) (text : List (Char × Bool)) : Except Text (List Piece) :=
  match fuel, text with
  | fuel + 1, (first, isQuoted) :: rest => do
    let bracket : Option (Piece × List (Char × Bool)) ←
      if first != '[' || isQuoted then pure none
      else match rest with
        | (':', false) :: inner =>
          match upTo? ':' inner with
          | some (name, after) =>
            if (named? name).isSome then pure (some (Piece.named name, after))
            else if (upTo? '*' rest).isSome then pure none
            else throw (if name.isEmpty then "missing character class name '[::]'".toList
              else "invalid character class '".toList ++ name ++ ['\''])
          | none => repetition? rest
        | ('=', false) :: inner =>
          match upTo? '=' inner with
          | some ([char], after) => pure (some (Piece.char char, after))
          | some ([], _) =>
            throw "missing equivalence class character '[==]'".toList
          | some (name, _) =>
            throw (name ++ ": equivalence class operand must be a single character".toList)
          | none => repetition? rest
        | _ => repetition? rest
    match bracket with
    | some (piece, after) => return piece :: (← pieces? fuel after)
    | none =>
      match rest with
      | ('-', false) :: (last, _) :: after =>
        if last < first then
          throw ("range-endpoints of '".toList ++ shown first ++ '-' :: shown last ++
            "' are in reverse collating sequence order".toList)
        return .range first last :: (← pieces? fuel after)
      | rest => return .char first :: (← pieces? fuel rest)
  | _, _ => .ok []

/-- The pieces of a set that a text stands for. -/
def setOf? (text : Text) : Except Text (List Piece) :=
  pieces? (text.length + 1) (plain (text.length + 1) text)

/-- The characters of a piece; what is repeated as often as needed is there `needed` times. -/
def Piece.chars (needed : Nat) : Piece → Text
  | char found => [found]
  | range low high =>
    (List.range (high.toNat + 1 - low.toNat)).map fun index => Char.ofNat (low.toNat + index)
  | named name => (named? name).getD []
  | repeated found count => List.replicate (if count = 0 then needed else count) found

/-- The characters of a set that has to be so long, if it can. -/
def charsOf (pieces : List Piece) (wanted : Nat) : Text :=
  let sure := pieces.foldl (fun sure piece => sure + (piece.chars 0).length) 0
  pieces.flatMap (Piece.chars (wanted - sure))

/-- The characters that are not in a set. -/
def others (set : Text) : Text :=
  ((List.range 256).map Char.ofNat).filter fun char => !List.elem char set

/-- A text in which runs of characters of a set have become one. -/
def squeeze (set : Text) : Text → Text
  | first :: second :: rest =>
    if first = second && List.elem first set then squeeze set (second :: rest)
    else first :: squeeze set (second :: rest)
  | text => text

/-- The options of the program. -/
def usage : Usage where
  name := "tr"
  plain := "cCdst"
  long := [("complement", 'c'), ("delete", 'd'), ("squeeze-repeats", 's'),
    ("truncate-set1", 't')]
  strict := true

/-- What is wrong with the number of the sets. -/
def countFault? (given : Given) : Option (List String × Text) :=
  let deletes := given.has 'd'
  let squeezes := given.has 's'
  let last := (given.operands.getLast?).getD []
  let most := if deletes && !squeezes then 1 else 2
  let least := if deletes == squeezes then 2 else 1
  if given.operands.isEmpty then some ([], "missing operand".toList)
  else if given.operands.length < least then
    some ([if squeezes then "Two strings must be given when both deleting and squeezing repeats."
      else "Two strings must be given when translating."],
      "missing operand after '".toList ++ last ++ ['\''])
  else if most < given.operands.length then
    some (if most = 1 && given.operands.length = 2 then
        ["Only one string may be given when deleting without squeezing repeats."] else [],
      "extra operand '".toList ++ (given.operands[most]?).getD [] ++ ['\''])
  else none

/-- What is wrong with sets between which characters are exchanged. -/
def exchangeFault? (given : Given) (first second : List Piece) : Option Text :=
  let isCase : Piece → Bool
    | .named name => name = "upper".toList || name = "lower".toList
    | _ => false
  let isNamed : Piece → Bool
    | .named _ => true
    | _ => false
  let isOpen : Piece → Bool
    | .repeated _ 0 => true
    | _ => false
  if second.any fun piece => isNamed piece && !isCase piece then
    some ("when translating, the only character classes that may appear in\n" ++
      "string2 are 'upper' and 'lower'").toList
  else if second.countP isOpen > 1 then
    some "only one [c*] repeat construct may appear in string2".toList
  else if second.isEmpty && !given.has 't' then
    some "when not truncating set1, string2 must be non-empty".toList
  else if (given.has 'c' || given.has 'C') && first.any isNamed &&
      (charsOf second 256).eraseDups.length != 1 then
    some ("when translating with complemented character classes,\n" ++
      "string2 must map all characters in the domain to one").toList
  else if second.any isCase && !(given.has 'c' || given.has 'C') then
    let starts (pieces : List Piece) : List (Nat × Bool) :=
      (pieces.foldl (fun (place, found) piece =>
        (place + (piece.chars 0).length, (place, isCase piece) :: found)) (0, [])).2
    let placesOf (pieces : List Piece) : List Nat :=
      ((starts pieces).filter Prod.snd).map Prod.fst
    if (placesOf second).all (placesOf first).contains then none
    else some "misaligned [:upper:] and/or [:lower:] construct".toList
  else none

/-- Exchanges, deletes or squeezes characters of its input. -/
def work (given : Given) (first second : List Piece) : Work Nat := do
  let complements := given.has 'c' || given.has 'C'
  let from_ := if complements then others (charsOf first 0) else charsOf first 0
  let isAmong (set : Text) : Char → Bool :=
    let table := ((List.range 256).map fun index => List.elem (Char.ofNat index) set).toArray
    fun char => table.getD char.toNat false
  let text ← State.readAll State.inputDescriptor
  if given.has 'd' then
    let isGone := isAmong from_
    let kept := text.filter fun char => !isGone char
    State.print (if given.has 's' then squeeze (charsOf second 0) kept else kept)
  else if given.operands.length = 1 then
    State.print (squeeze from_ text)
  else
    let to_ := charsOf second from_.length
    let from_ := if given.has 't' then from_.take to_.length else from_
    let pairs := from_.zip (to_ ++ List.replicate (from_.length - to_.length)
      ((to_.getLast?).getD ' '))
    let table := pairs.foldl (fun (table : Array Char) (char, other) =>
      table.setIfInBounds char.toNat other) ((List.range 256).map Char.ofNat).toArray
    let replaced := text.map fun char => table.getD char.toNat char
    State.print (if given.has 's' then squeeze to_ replaced else replaced)
  return 0

/-- Exchanges, deletes or squeezes characters of its input. -/
def program : Utility := usage.program fun given => do
  match countFault? given with
  | some (notes, message) =>
    Filter.complain "tr" message
    for note in notes do State.complain note.toList
    State.complain "Try 'tr --help' for more information.".toList
    return 1
  | none =>
    let refuse (message : Text) : Work Nat := do
      Filter.complain "tr" message
      return 1
    match given.operands.mapM setOf? with
    | .error message => refuse message
    | .ok sets =>
      let first := sets.headD []
      let second := (sets[1]?).getD []
      let isRepeated : Piece → Bool
        | .repeated _ 0 => true
        | _ => false
      if first.any isRepeated then
        refuse "the [c*] repeat construct may not appear in string1".toList
      else match if sets.length = 2 && !given.has 'd' then exchangeFault? given first second
          else none with
        | some message => refuse message
        | none => work given first second

end Docket.Shell.Exchange
