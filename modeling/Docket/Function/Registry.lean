import Docket.Function.Basic

/-! Registries of functions by name, and their manual in Markdown. -/

namespace Docket

/-- The functions that expressions can call, by name. -/
abbrev Registry := Index Function

namespace Registry

/-- Adds a function; one of the same name is replaced. -/
def register (registry : Registry) (function : Function) : Registry :=
  registry.put function.name function

/-- The registry of the given functions. -/
def ofFunctions (functions : List Function) : Registry :=
  functions.foldl register .empty

/-- What is found after functions were registered is one of them, or it was there before. -/
theorem get?_foldl_register {functions : List Function} {registry : Registry} {name : Text}
    {function : Function} (found : (functions.foldl register registry).get? name = some function) :
    function ∈ functions ∨ registry.get? name = some function := by
  induction functions generalizing registry with
  | nil => exact .inr found
  | cons first rest ih =>
    rcases ih found with later | before
    · exact .inl (.tail _ later)
    · -- The first function may still be the one that was found.
      rw [register, Index.get?_put] at before
      split at before
      · exact .inl (Option.some.inj before ▸ .head _)
      · exact .inr before

/-- The functions of a registry are among those that it was made of. -/
theorem mem_of_get?_ofFunctions {functions : List Function} {name : Text} {function : Function}
    (found : (ofFunctions functions).get? name = some function) : function ∈ functions :=
  (get?_foldl_register found).resolve_right nofun

/-- Whether a name stands directly before an opening parenthesis. Occurrences that overlap an
earlier one do not count; `skipped` characters belong to the last one. -/
def isCalled (name : Text) (skipped : Nat) : Text → Bool
  | [] => false
  | char :: rest =>
    match skipped with
    | skipped + 1 => isCalled name skipped rest
    | 0 =>
      if Text.startsWith (char :: rest) name then
        ((char :: rest).drop name.length).head? == some '(' ||
          -- Another occurrence may still follow, but none that begins inside this one.
          isCalled name (name.length - 1) rest
      else isCalled name 0 rest

/-- Whether a text holds the name of a function directly before an opening parenthesis. -/
def isCalledIn (registry : Registry) (text : Text) : Bool :=
  registry.names.any (isCalled · 0 text)

end Registry

end Docket

namespace Docket.Registry

/-- The entry of a parameter. -/
def parameterEntry (parameter : Parameter) : Text :=
  let kind := match parameter.default, parameter.optional with
    | some value, _ => "optional, default `".toList ++ value ++ ['`']
    | none, true => "optional".toList
    | none, false => "required".toList
  "  - `".toList ++ parameter.name ++ "`: ".toList ++ kind ++ ['\n']

/-- The numbers of arguments that a signature accepts. -/
def arityEntry (signature : Signature) : Text :=
  let most := match signature.most with
    | some most => if most = signature.least then [] else '-' :: Text.ofNat most
    | none => ['+']
  "- **Arity:** ".toList ++ Text.ofNat signature.least ++ most ++ ['\n']

/-- The chapter of a function. -/
def chapter (function : Function) : Text :=
  let signature := function.signature
  "## ".toList ++ function.title ++ "\n\n".toList ++
    "**Syntax:** `".toList ++ signature.usage ++ "`\n\n".toList ++
    arityEntry signature ++ signature.parameters.flatMap parameterEntry ++
    "- **Pure:** ".toList ++ (if function.isPure then "yes" else "no").toList ++
    "\n\n".toList ++
    if function.documentation.isEmpty then [] else function.documentation ++ "\n\n".toList

/-- The manual: a chapter for each function, in the order of names. -/
def manual (registry : Registry) : Text :=
  "# Expression Function Reference\n\n".toList ++
    registry.entries.flatMap fun (_, function) => chapter function

end Docket.Registry
