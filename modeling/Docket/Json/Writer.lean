import Docket.Json.Value
import Docket.Text.Integer

/-! Writing JSON values over several lines, two blanks deeper at each level. -/

namespace Docket.Json

/-- A digit of a control character's escape. -/
def hexDigit (value : Nat) : Char :=
  (Nat.digitChar value)

/-- The written form of a character in a string. -/
def escape (char : Char) : Text :=
  match char with
  | '"' => ['\\', '"']
  | '\\' => ['\\', '\\']
  | '\x08' => ['\\', 'b']
  | '\x0c' => ['\\', 'f']
  | '\n' => ['\\', 'n']
  | '\r' => ['\\', 'r']
  | '\t' => ['\\', 't']
  | char =>
    -- The other control characters have no letter of their own.
    if char.toNat < 0x20 then
      ['\\', 'u', '0', '0', hexDigit (char.toNat / 16), hexDigit (char.toNat % 16)]
    else [char]

/-- The written form of a string. -/
def quote (text : Text) : Text :=
  '"' :: (text.flatMap escape ++ ['"'])

/-- A line break and the indentation of a level. -/
def newline (level : Nat) : Text :=
  '\n' :: List.replicate (2 * level) ' '

mutual

/-- The written form of a value whose brackets stand at a level. -/
def write (level : Nat) : Json → Text
  | null => "null".toList
  | bool true => "true".toList
  | bool false => "false".toList
  | integer value => Text.ofInt value
  | decimal => "null".toList
  | string text => quote text
  | array [] => "[]".toList
  | array (first :: rest) =>
    '[' :: (newline (level + 1) ++ write (level + 1) first ++ writeItems (level + 1) rest ++
      newline level ++ [']'])
  | object [] => ['{', '}']
  | object ((name, value) :: rest) =>
    '{' :: (newline (level + 1) ++ quote name ++ [':', ' '] ++ write (level + 1) value ++
      writeMembers (level + 1) rest ++ newline level ++ ['}'])
  | garbled => "null".toList

/-- The written form of the items after the first one. -/
def writeItems (level : Nat) : List Json → Text
  | [] => []
  | item :: rest => ',' :: (newline level ++ write level item ++ writeItems level rest)

/-- The written form of the members after the first one. -/
def writeMembers (level : Nat) : List (Text × Json) → Text
  | [] => []
  | (name, value) :: rest =>
    ',' :: (newline level ++ quote name ++ [':', ' '] ++ write level value ++
      writeMembers level rest)

end

/-- The written form of a value. -/
def render (json : Json) : Text :=
  write 0 json

end Docket.Json
