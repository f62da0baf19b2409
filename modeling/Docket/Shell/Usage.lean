import Docket.Shell.Filter

/-! The usage of programs: which options they take, and how these stand in front of, behind and
between other words. -/

namespace Docket.Shell

/-- The options that a program takes, as letters. -/
structure Usage where
  name : String
  /-- Options without a value. -/
  plain : String := ""
  /-- Options with a value, in the same word or in the next one. -/
  valued : String := ""
  /-- Options whose value, if any, stands in the same word. -/
  optional : String := ""
  /-- Long names of options. -/
  long : List (String × Char) := []
  /-- Whether options end where another word stands. -/
  strict : Bool := false
  /-- The status of a program that was given wrong options. -/
  status : Nat := 1
  /-- What is said about the usage, or a hint if it is empty. -/
  notice : String := ""

/-- The options that a program was given, and the other words. -/
structure Given where
  options : List (Char × Text) := []
  operands : List Text := []

namespace Given

/-- Whether an option was given. -/
def has (given : Given) (letter : Char) : Bool :=
  given.options.any (·.1 == letter)

/-- The value of an option that was given; the last one counts. -/
def value? (given : Given) (letter : Char) : Option Text :=
  given.options.reverse.lookup letter

/-- The values of an option, in order. -/
def values (given : Given) (letter : Char) : List Text :=
  given.options.filterMap fun (other, value) => if other = letter then some value else none

/-- Adds an option in front. -/
def withOption (given : Given) (letter : Char) (value : Text) : Given :=
  { given with options := (letter, value) :: given.options }

/-- Adds another word in front. -/
def withOperand (given : Given) (word : Text) : Given :=
  { given with operands := word :: given.operands }

end Given

namespace Usage

/-- Whether a letter is one of some options. -/
def isAmong (letter : Char) (letters : String) : Bool :=
  letters.toList.elem letter

/-- The options in a word of letters, and whether the last one still wants a value. -/
def cluster? (usage : Usage) : Text → Except Text (List (Char × Text) × Option Char)
  | [] => .ok ([], none)
  | letter :: rest =>
    if isAmong letter usage.plain then
      (usage.cluster? rest).map fun (others, open_) => ((letter, []) :: others, open_)
    else if isAmong letter usage.valued then
      .ok (if rest.isEmpty then ([], some letter) else ([(letter, rest)], none))
    else if isAmong letter usage.optional then .ok ([(letter, rest)], none)
    else .error ("invalid option -- '".toList ++ letter :: ['\''])

/-- The option of a long name, which may be cut short if it stays unique, and the whole name.
`word` is how messages show it. -/
def longOption? (usage : Usage) (word name : Text) : Except Text (Text × Char) :=
  let found := usage.long.filter fun (long, _) => Text.startsWith long.toList name
  match usage.long.lookup (String.ofList name), found with
  | some letter, _ => .ok (name, letter)
  | none, (whole, letter) :: rest =>
    if rest.all (·.2 == letter) then .ok (whole.toList, letter)
    else
      let names := found.flatMap fun (long, _) => " '--".toList ++ long.toList ++ ['\'']
      .error ("option '--".toList ++ word ++ "' is ambiguous; possibilities:".toList ++ names)
  | none, [] => .error ("unrecognized option '--".toList ++ word ++ ['\''])

/-- What a program was given. -/
def read? (usage : Usage) : List Text → Except Text Given
  | [] => .ok {}
  | ['-', '-'] :: rest => .ok { operands := rest }
  | ('-' :: '-' :: word) :: rest =>
    let (name, value?) := match Text.splitOnce? '=' word with
      | some (name, value) => (name, some value)
      | none => (word, none)
    match usage.longOption? word name, value? with
    | .error fault, _ => .error fault
    | .ok (name, letter), some value =>
      if isAmong letter usage.plain then
        .error ("option '--".toList ++ name ++ "' doesn't allow an argument".toList)
      else (usage.read? rest).map (·.withOption letter value)
    | .ok (name, letter), none =>
      if isAmong letter usage.valued then
        match rest with
        | value :: rest => (usage.read? rest).map (·.withOption letter value)
        | [] => .error ("option '--".toList ++ name ++ "' requires an argument".toList)
      else (usage.read? rest).map (·.withOption letter [])
  | ('-' :: first :: letters) :: rest =>
    match usage.cluster? (first :: letters), rest with
    | .error fault, _ => .error fault
    | .ok (found, none), rest =>
      (usage.read? rest).map fun given => { given with options := found ++ given.options }
    | .ok (found, some letter), value :: rest =>
      (usage.read? rest).map fun given =>
        { given with options := found ++ (letter, value) :: given.options }
    | .ok (_, some letter), [] =>
      .error ("option requires an argument -- '".toList ++ letter :: ['\''])
  | word :: rest =>
    if usage.strict then .ok { operands := word :: rest }
    else (usage.read? rest).map (·.withOperand word)

/-- Complains about what a program was given. -/
def refuse (usage : Usage) (message : Text) : Work Nat := do
  Filter.complain usage.name message
  if usage.notice.isEmpty then
    State.complain
      ("Try '".toList ++ usage.name.toList ++ " --help' for more information.".toList)
  else State.complain usage.notice.toList
  return usage.status

/-- A program that works with what it was given. -/
def program (usage : Usage) (work : Given → Work Nat) : Utility := fun arguments => do
  match usage.read? arguments with
  | .ok given => work given
  | .error message => usage.refuse message

end Usage

end Docket.Shell
