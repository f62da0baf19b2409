import Docket.Pattern.Basic

/-! Replacements: texts that refer to the groups of a match. There are two ways to write them, with
backslashes and with dollar signs. -/

namespace Docket.Replacement

/-- A piece of a replacement that is written with backslashes. -/
inductive Piece where
  | char (char : Char)
  /-- A backslash before a character with which it means nothing. -/
  | unknown (char : Char)
  /-- What a group matched; the reference is a number or a name. -/
  | group (reference : Text)
deriving DecidableEq, Repr

/-- Decimal digits. -/
def isDigit (char : Char) : Bool :=
  '0' ≤ char && char ≤ '9'

/-- The text up to a closing bracket, and what follows it. -/
def named? (text : Text) : Option (Text × Text) :=
  Text.splitOnce? '>' text

/-- The character that a letter after a backslash stands for. -/
def control? (letter : Char) : Option Char :=
  match letter with
  | 'n' => some '\n'
  | 't' => some '\t'
  | 'r' => some '\r'
  | '\\' => some '\\'
  | _ => none

/-- The piece of a letter after a backslash. -/
def escaped (letter : Char) : Piece :=
  match control? letter with
  | some char => .char char
  | none => .unknown letter

/-- Behind a mark there is less than the whole text. -/
theorem splitOnce?_shorter {mark : Char} {text head tail : Text}
    (found : Text.splitOnce? mark text = some (head, tail)) : tail.length < text.length := by
  rw [Text.splitOnce?_source found, List.length_append, List.length_cons]
  omega

/-- The piece that a backslash begins, and what follows it. A backslash takes one or two digits, a
name in brackets after `g`, or one other character; at the end it stands for itself. -/
def command : Text → Piece × Text
  | [] => (.char '\\', [])
  | 'g' :: '<' :: rest =>
    match named? rest with
    | some (name, after) => (.group name, after)
    -- Without an end this is no name, and the bracket is read as any other character.
    | none => (.unknown 'g', '<' :: rest)
  | [last] => (if isDigit last then .group [last] else escaped last, [])
  | first :: second :: rest =>
    if !isDigit first then (escaped first, second :: rest)
    else if isDigit second then (.group [first, second], rest)
    else (.group [first], second :: rest)

theorem command_le (text : Text) : (command text).2.length ≤ text.length := by
  -- Only a name in brackets takes more than what is written in the pattern of the case.
  fun_cases command text with
  | case2 rest name after found =>
    have shorter := splitOnce?_shorter found
    simp only [List.length_cons]
    omega
  | case6 => simp only [List.length_cons]; omega
  | _ => simp

/-- The pieces of a replacement. -/
def pieces : Text → List Piece
  | [] => []
  | '\\' :: rest => (command rest).1 :: pieces (command rest).2
  | char :: rest => .char char :: pieces rest
termination_by text => text.length
decreasing_by
  · exact Nat.lt_succ_of_le (command_le rest)
  · exact Nat.lt_succ_self _

/-- A piece as it is written with dollar signs. -/
def Piece.dollarForm : Piece → Text
  | .char letter => if letter = '$' then ['$', '$'] else [letter]
  | .unknown letter => ['\\', letter]
  | .group reference => '$' :: '\x7b' :: (reference ++ ['\x7d'])

/-- The form with dollar signs of a replacement that is written with backslashes. -/
def translate (text : Text) : Text :=
  (pieces text).flatMap Piece.dollarForm

/-- What a match holds for a reference: what the group of that number or that name matched. -/
def referent (pattern : Pattern) (found : Pattern.Match) (reference : Text) : Text :=
  let group? := match Text.word? reference with
    -- Digits are always a number, never a name.
    | some number => some number
    | none => pattern.groupNamed? reference
  (group?.bind found.group?).getD []

/-- What a piece stands for in the place of a match. -/
def Piece.meaning (pattern : Pattern) (found : Pattern.Match) : Piece → Text
  | .char letter => [letter]
  | .unknown letter => ['\\', letter]
  | .group reference => referent pattern found reference

/-- Characters in references without braces. -/
def isReferenceChar (char : Char) : Bool :=
  char.isAlphanum || char == '_'

/-- The reference after a dollar sign, and what follows it. -/
def reference? (text : Text) : Option (Text × Text) :=
  match text with
  | '\x7b' :: rest => Text.splitOnce? '\x7d' rest
  | text =>
    match text.takeWhile isReferenceChar with
    | [] => none
    | name => some (name, text.dropWhile isReferenceChar)

/-- A part of a replacement that is written with dollar signs. -/
inductive Part where
  | char (char : Char)
  | group (reference : Text)
deriving DecidableEq, Repr

theorem reference?_shorter {text name rest : Text} (found : reference? text = some (name, rest)) :
    rest.length < text.length := by
  unfold reference? at found
  split at found
  · -- A reference in braces ends behind the brace that closes it.
    have shorter := splitOnce?_shorter found
    simp only [List.length_cons]
    omega
  · -- A reference without braces takes at least one character.
    have cut := congrArg List.length
      (List.takeWhile_append_dropWhile (p := isReferenceChar) (l := text))
    split at found
    · exact absurd found (by simp)
    · rename_i filled
      simp only [Option.some.injEq, Prod.mk.injEq] at found
      have longer : 0 < (text.takeWhile isReferenceChar).length :=
        List.length_pos_iff.mpr filled
      rw [← found.2]
      simp only [List.length_append] at cut
      omega

/-- The parts of a replacement. A doubled dollar sign stands for one, and one that begins no
reference stands for itself. -/
def parts (text : Text) : List Part :=
  match text with
  | [] => []
  | '$' :: '$' :: rest => .char '$' :: parts rest
  | '$' :: rest =>
    match _found : reference? rest with
    | some (name, after) => .group name :: parts after
    -- No reference begins here, so the dollar sign stands for itself.
    | none => .char '$' :: parts rest
  | char :: rest => .char char :: parts rest
termination_by text.length
decreasing_by
  all_goals try simp only [List.length_cons]
  all_goals try omega
  · have shorter := reference?_shorter _found
    omega

/-- What a part stands for in the place of a match. -/
def Part.meaning (pattern : Pattern) (found : Pattern.Match) : Part → Text
  | .char letter => [letter]
  | .group reference => referent pattern found reference

/-- What a replacement that is written with dollar signs makes of a match. -/
def expand (pattern : Pattern) (text : Text) (found : Pattern.Match) : Text :=
  (parts text).flatMap (Part.meaning pattern found)

end Docket.Replacement

/-- A text with each match of a pattern replaced by a replacement that is written with dollar
signs. -/
def Docket.Pattern.replace (pattern : Docket.Pattern) (text replacement : Docket.Text) :
    Docket.Text :=
  pattern.replaceAll text (Docket.Replacement.expand pattern replacement)
