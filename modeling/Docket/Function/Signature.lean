import Docket.Text.Integer

/-! Signatures of functions: their parameters and how many arguments they take. -/

namespace Docket

/-- A parameter. One with a default value is optional. -/
structure Parameter where
  name : Text
  optional : Bool := false
  default : Option Text := none
deriving DecidableEq, Repr

namespace Parameter

/-- A parameter that every call has an argument for. -/
def required (name : Text) : Parameter :=
  { name }

/-- A parameter that a call may leave out. -/
def left (name : Text) : Parameter :=
  { name, optional := true }

/-- A parameter that stands for a value when a call leaves it out. -/
def withDefault (name value : Text) : Parameter :=
  { name, optional := true, default := some value }

/-- How a parameter is written in the usage of a function. -/
def usage (parameter : Parameter) : Text :=
  if parameter.optional then '[' :: (parameter.name ++ [']']) else parameter.name

end Parameter

/-- A signature. The last parameter of an open one can be repeated without end. -/
structure Signature where
  name : Text
  parameters : List Parameter
  isOpen : Bool := false
deriving DecidableEq, Repr

namespace Signature

/-- The least number of arguments. -/
def least (signature : Signature) : Nat :=
  (signature.parameters.filter (!·.optional)).length

/-- The greatest number of arguments, if there is one. -/
def most (signature : Signature) : Option Nat :=
  if signature.isOpen then none else some signature.parameters.length

/-- Whether a call may have `count` arguments. -/
def accepts (signature : Signature) (count : Nat) : Bool :=
  signature.least ≤ count && signature.most.all (count ≤ ·)

/-- How a call is written. -/
def usage (signature : Signature) : Text :=
  let parameters := signature.parameters.map Parameter.usage
  let parameters := if signature.isOpen then parameters ++ ["...".toList] else parameters
  signature.name ++ '(' :: (Text.join ", ".toList parameters ++ [')'])

end Signature

end Docket
