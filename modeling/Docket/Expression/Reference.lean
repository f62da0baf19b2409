import Docket.Expression.Segment
import Docket.Table.Sheet

/-! Variable references `<Name>`, and their replacement by values. -/

namespace Docket

/-- Variables by name. -/
abbrev Variables := Sheet Text Text

namespace Reference

/-- A text is read as plain characters and references. -/
inductive Piece where
  | plain (char : Char)
  | reference (name : Text)
deriving DecidableEq, Repr

/-- The text from which a piece was read. -/
def Piece.source : Piece → Text
  | .plain char => [char]
  | .reference name => '<' :: (name ++ ['>'])

/-- Characters that may stand in the name of a reference. -/
def isNameChar (char : Char) : Bool :=
  char != '<' && char != '>'

/-- The name that a text after `<` begins with, if a `>` closes it, and the text after that. -/
def name? (text : Text) : Option (Text × Text) :=
  text.runBefore? isNameChar '>'

/-- The pieces of a text, where each `<` opens a reference if it can. -/
def pieces (text : Text) : List Piece :=
  match text with
  | [] => []
  | char :: rest =>
    if char = '<' then
      match _found : name? rest with
      | some (name, after) => .reference name :: pieces after
      -- No `>` comes before the next `<` or the end, so this `<` is a plain character.
      | none => .plain char :: pieces rest
    else
      .plain char :: pieces rest
termination_by text.length
decreasing_by
  · -- A reference is longer than nothing, so what follows it is shorter.
    have parts := congrArg List.length (Text.runBefore?_source _found)
    simp only [List.length_append, List.length_cons] at parts ⊢
    omega
  · simp
  · simp

/-- The references among pieces that start at byte `position`, with their places. -/
def locate (position : Nat) : List Piece → List (Located Text)
  | [] => []
  | piece :: rest =>
    let stop := position + Text.byteLength piece.source
    match piece with
    | .plain _ => locate stop rest
    | .reference name => ⟨name, position, stop⟩ :: locate stop rest

/-- The names referred to in a text, with the places of the references. -/
def all (text : Text) : List (Located Text) :=
  locate 0 (pieces text)

/-- The names referred to in a text. -/
def names (text : Text) : List Text :=
  (all text).map Located.value

/-- What a piece stands for; a reference without a value stands for itself. -/
def Piece.value (bindings : Variables) : Piece → Text
  | .plain char => [char]
  | .reference name => (bindings.get? name).getD (reference name).source

end Reference

/-- A text with each reference to a variable replaced by the variable's value. -/
def Variables.substitute (bindings : Variables) (text : Text) : Text :=
  (Reference.pieces text).flatMap (Reference.Piece.value bindings)

end Docket
