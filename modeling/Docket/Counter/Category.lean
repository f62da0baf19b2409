import Docket.Text.Basic

/-! The three categories of counters. -/

namespace Docket.Counter

/-- Counters are grouped by who manages them, in storage order. -/
inductive Category where
  | auto
  | custom
  | system
deriving DecidableEq, Repr, Inhabited

namespace Category

/-- All categories in storage order. -/
def all : List Category :=
  [auto, custom, system]

/-- The name under which a category is stored. -/
def name : Category → Text
  | auto => "auto".toList
  | custom => "custom".toList
  | system => "system".toList

/-- The category stored under a name. -/
def ofName? (name : Text) : Option Category :=
  all.find? (·.name == name)

/-- The category that a user names; case and surrounding white space do not matter. -/
def parse? (text : Text) : Option Category :=
  ofName? (Text.asciiLower (Text.trim text))

end Category

/-- Why a counter operation failed. -/
inductive Failure where
  | inaccessible (path : Text)
  | corrupt (path : Text)
  | overflow (category : Category) (name : Text)
  | unknownCategory (name : Text)
deriving DecidableEq, Repr

/-- The wording of a failure. -/
def Failure.message : Failure → Text
  | inaccessible path => "Counter file ".toList ++ path ++ " could not be accessed".toList
  | corrupt path => "Counter file ".toList ++ path ++ " is not a valid counter table".toList
  | overflow category name =>
    "Counter ".toList ++ category.name ++ '/' :: name ++ " would overflow".toList
  | unknownCategory name => "Unknown counter category '".toList ++ name ++ ['\'']

end Docket.Counter
