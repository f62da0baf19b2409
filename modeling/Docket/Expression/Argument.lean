import Docket.Expression.Call
import Docket.Text.Basic

/-! The arguments of a call: its inner text cut at commas, trimmed and unquoted. -/

namespace Docket.Argument

/-- Puts a character in front of the first piece. -/
def extend (char : Char) : List Text → List Text
  | [] => [[char]]
  | piece :: pieces => (char :: piece) :: pieces

/-- A text cut at the commas that stand outside quotes and at parenthesis depth zero.

The depth has a sign, since a text need not balance its parentheses, and no limit. The inner text of
a call does balance them: there the depth is never below zero, and it is at most the number of bytes
read so far (`ByteCursor.Standing.depth_along_le`). So a counter of 32 bits with a sign counts the
same in texts of less than 2 ^ 31 bytes. -/
def pieces (depth : Int) (quote : Option Char) : Text → List Text
  | [] => [[]]
  | char :: rest =>
    match quote with
    | some mark => extend char (pieces depth (if char = mark then none else quote) rest)
    | none =>
      if Call.isQuote char then extend char (pieces depth (some char) rest)
      else if char = '(' then extend char (pieces (depth + 1) none rest)
      else if char = ')' then extend char (pieces (depth - 1) none rest)
      else if char = ',' ∧ depth = 0 then [] :: pieces depth none rest
      else extend char (pieces depth none rest)

/-- A text without the pair of equal quotation marks around it, if it has one. -/
def unquote (text : Text) : Text :=
  match text with
  | mark :: rest =>
    -- The rest has to end in the mark, so a mark that stands alone is no pair.
    if Call.isQuote mark && rest.getLast? == some mark then rest.dropLast else text
  | [] => text

/-- The argument that a piece stands for. -/
def ofPiece (piece : Text) : Text :=
  unquote (Text.trim piece)

/-- Drops a last piece that is blank. -/
def dropBlankLast (pieces : List Text) : List Text :=
  match pieces.getLast? with
  | some last => if Text.blank last then pieces.dropLast else pieces
  | none => []

/-- The arguments in an inner text; a blank text has none, and a blank last piece is none. -/
def split (inner : Text) : List Text :=
  if Text.blank inner then [] else (dropBlankLast (pieces 0 none inner)).map ofPiece

end Docket.Argument

/-- The arguments of a call. -/
def Docket.Call.arguments (call : Docket.Call) : List Docket.Text :=
  Docket.Argument.split call.inner
