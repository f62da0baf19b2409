import Docket.Counter.Category
import Docket.Script.Run

/-! Why a function gives no value. -/

namespace Docket

/-- Why a query to a database gave no rows. -/
inductive DatabaseFault where
  | unknownConnection (name : Text)
  | rejected (reason : Text)
deriving DecidableEq, Repr

/-- The wording of a fault. -/
def DatabaseFault.message : DatabaseFault → Text
  | unknownConnection name => "Unknown database connection '".toList ++ name ++ ['\'']
  | rejected reason => "Query failed: ".toList ++ reason

namespace Function

/-- What is wrong with an argument. -/
inductive ArgumentFault where
  | noInteger (value : Text)
  | invalidPattern
  | missingColumn (column : Text)
deriving DecidableEq, Repr

/-- The wording of a fault. -/
def ArgumentFault.message : ArgumentFault → Text
  | noInteger value => '\'' :: value ++ "' is not an integer".toList
  | invalidPattern => "invalid pattern".toList
  | missingColumn column => "column '".toList ++ column ++ "' not in result".toList

/-- Why a function gives no value. -/
inductive Cause where
  | arity (least : Nat) (most : Option Nat) (given : Nat)
  | argument (index : Nat) (fault : ArgumentFault)
  | evaluation (reason : Text)
  | counter (failure : Counter.Failure)
  | script (fault : Script.Fault)
  | scriptsDisabled
  | noDatabase
deriving DecidableEq, Repr

/-- A cause with the name of the function. -/
structure Failure where
  name : Text
  cause : Cause
deriving DecidableEq, Repr

/-- The wording of a cause, after the name of the function. -/
def Cause.message : Cause → Text
  | arity least most given =>
    let most := match most with
      | some most => Text.ofNat most
      | none => ['∞']
    " expects ".toList ++ Text.ofNat least ++ '-' :: most ++ " arguments, got ".toList ++
      Text.ofNat given
  | argument index fault =>
    " argument ".toList ++ Text.ofNat index ++ ": ".toList ++ fault.message
  | evaluation reason => " evaluation error: ".toList ++ reason
  | counter failure => " counter error: ".toList ++ failure.message
  | script fault => " script error: ".toList ++ fault.message
  | scriptsDisabled => " is unavailable: ".toList ++ Script.Fault.disabled.message
  | noDatabase => " is unavailable: no database executor configured".toList

/-- The wording of a failure. -/
def Failure.message (failure : Failure) : Text :=
  "Function '".toList ++ failure.name ++ '\'' :: failure.cause.message

end Function

end Docket
