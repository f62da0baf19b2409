import Docket.Shell.Awk.Record
import Docket.Shell.Awk.Stream

/-! Running scripts. -/

namespace Docket.Shell.Awk

/-- What can be assigned to. -/
inductive Target where
  | named (name : Text)
  | field (index : Nat)
  | element (table : Nat) (key : Key)

namespace Target

/-- The value of a target; to ask for an element is to make it. -/
def value (target : Target) : Play Value := do
  match target with
  | .named name => Machine.value name
  | .field index => Record.field index
  | .element number key =>
    Machine.workTable number fun table =>
      match table.find? key with
      | (some found, table) => (found, table)
      | (none, table) => (.unset, table.put key .unset)

/-- Sets a target. -/
def put (target : Target) (value : Value) : Play Unit := do
  match target with
  | .named name => Machine.assign name value
  | .field index => Record.putField index value
  | .element number key => Machine.workTable number fun table => ((), table.put key value)

end Target

namespace Run

/-- How many functions can wait for each other. -/
def depth : Nat := 400

/-- How a format is shown in messages. -/
def formatMessage (name : String) (format : Text) : FormatFault → Text
  | .tooFew => ("not enough arguments passed to " ++ name ++ "(\"").toList ++ format ++ "\")".toList
  | .improper index =>
    "improper conversion(number ".toList ++ Text.ofNat index ++
      (") in " ++ name ++ "(\"").toList ++ format ++ "\")".toList

/-- The text of a format and values, and what is wrong with them. -/
def formatOf (values : List Value) : Play (Text × Text × Option FormatFault) := do
  match values with
  | [] => return ([], [], none)
  | first :: values =>
    let format ← Machine.text first
    let conversions ← Machine.textOf "CONVFMT"
    return (format, formatted conversions (format.length + 1) 1 format values)

/-- Tells whether something stopped a loop; what just ends a round is forgotten. -/
def round (work : Play Unit) : Play Bool :=
  tryCatch (do work; return false) fun
    | .leave => return true
    | .goOn => return false
    | other => throw other

/-- What the result of a function is. -/
def result (work : Play Unit) : Play Value :=
  tryCatch (do work; return .unset) fun
    | .return value => return value
    | other => throw other

mutual

/-- The value of an expression. Each step costs one of `fuel`. -/
def value (fuel : Nat) (expression : Expression) : Play Value := do
  match fuel with
  | 0 => throw .late
  | fuel + 1 =>
    match expression with
    | .number found => return .number found
    | .text found => return .text found
    | .regex found =>
      return .ofBool (found.isIn {} (← Machine.text (← Record.field 0)))
    | .named name => Machine.value name
    | .field _ | .element .. => (← target fuel expression).value
    | .calculation operation left right =>
      let first ← value fuel left
      let second ← value fuel right
      return .number (operation.apply first.toNumber second.toNumber)
    | .comparison relation left right =>
      let first ← value fuel left
      let second ← value fuel right
      return .ofBool (relation.holdsFor (← first.compare second))
    | .joined left right =>
      let first ← Machine.text (← value fuel left)
      let second ← Machine.text (← value fuel right)
      return .text (first ++ second)
    | .matched wanted subject pattern =>
      let text ← Machine.text (← value fuel subject)
      let regex ← regexOf fuel pattern
      return .ofBool (regex.isIn {} text == wanted)
    | .member places name =>
      let key ← Machine.key (← values fuel places)
      let number ← Machine.tableOf name
      return .ofBool (← Machine.workTable number fun table =>
        let (found, table) := table.find? key
        (found.isSome, table))
    | .both left right =>
      if (← value fuel left).holds then return .ofBool (← value fuel right).holds
      else return .ofBool false
    | .either left right =>
      if (← value fuel left).holds then return .ofBool true
      else return .ofBool (← value fuel right).holds
    | .opposite operand => return .ofBool !(← value fuel operand).holds
    | .negative operand => return .number (-(← value fuel operand).toNumber)
    | .positive operand => return .number (← value fuel operand).toNumber
    | .choice condition first second =>
      if (← value fuel condition).holds then value fuel first else value fuel second
    | .assign operation place source =>
      let target ← target fuel place
      let found ← value fuel source
      let found ← match operation with
        | none => pure found
        | some operation => do
          pure (.number (operation.apply (← target.value).toNumber found.toNumber))
      target.put found
      return found
    | .step up isBefore place =>
      let target ← target fuel place
      let before := (← target.value).toNumber
      let after := if up then before + 1 else before - 1
      target.put (.number after)
      return .number (if isBefore then after else before)
    | .call name arguments => call fuel name arguments
    | .builtin name arguments => builtin fuel name arguments
    | .line origin source place =>
      let target? ← match place with
        | some place => some <$> target fuel place
        | none => pure none
      let record? ← match origin, source with
        | .records, _ | _, none => some <$> Argument.next? 100000
        | origin, some source => Stream.takeFrom? origin (← Machine.text (← value fuel source))
      match record? with
      | none => return .number (-1)
      | some none => return .number 0
      | some (some record) =>
        match target? with
        | none => Record.set record
        | some target => target.put (.ofInput record)
        return .number 1

/-- The values of expressions. -/
def values (fuel : Nat) (expressions : List Expression) : Play (List Value) := do
  match fuel with
  | 0 => throw .late
  | fuel + 1 =>
    match expressions with
    | [] => return []
    | first :: rest =>
      let found ← value fuel first
      return found :: (← values fuel rest)

/-- What an expression stands for if something is assigned to it. -/
def target (fuel : Nat) (expression : Expression) : Play Target := do
  match fuel with
  | 0 => throw .late
  | fuel + 1 =>
    match expression with
    | .named name => return .named name
    | .field place => return .field (← Record.index (← value fuel place).toNumber)
    | .element name places =>
      let key ← Machine.key (← values fuel places)
      return .element (← Machine.tableOf name) key
    | _ => Play.refuse "syntax error".toList

/-- The regular expression that an expression stands for. -/
def regexOf (fuel : Nat) (expression : Expression) : Play Regex := do
  match fuel with
  | 0 => throw .late
  | fuel + 1 =>
    match expression with
    | .regex found => return found
    | other => Machine.regex (← Machine.text (← value fuel other))

/-- Calls a function. -/
def call (fuel : Nat) (name : Text) (arguments : List Expression) : Play Value := do
  match fuel with
  | 0 => throw .late
  | fuel + 1 =>
    match (← get).functions.get? name with
    | none => Play.refuse ("function ".toList ++ name ++ " never defined".toList)
    | some function =>
      let slots ← slots fuel arguments
      let outer ← get
      if depth ≤ outer.depth then
        Play.refuse "program limit exceeded: eval stack size=1024".toList
      let locals := function.parameters.zipIdx.foldl
        (fun (locals : Std.HashMap Text Slot) (name, index) =>
          locals.insert name (slots.getD index (.value .unset))) {}
      set { outer with locals, depth := outer.depth + 1 }
      let found ← result (run fuel function.body)
      modify fun machine => { machine with locals := outer.locals, depth := outer.depth }
      return found

/-- What parameters stand for. -/
def slots (fuel : Nat) (arguments : List Expression) : Play (List Slot) := do
  match fuel with
  | 0 => throw .late
  | fuel + 1 =>
    match arguments with
    | [] => return []
    | .named name :: rest =>
      let slot ← if name = Machine.fieldCount then Slot.value <$> Machine.value name
        else Machine.lend name
      return slot :: (← slots fuel rest)
    | first :: rest =>
      let found ← value fuel first
      return .value found :: (← slots fuel rest)

/-- The value of a function that every script has. -/
def builtin (fuel : Nat) (name : String) (arguments : List Expression) : Play Value := do
  match fuel with
  | 0 => throw .late
  | fuel + 1 =>
    match name, arguments with
    | "length", [.named array] =>
      match (← get).slot? array with
      | some (.table number) => return .ofNat ((← get).table number).size
      | some (.vacant number) => return .ofNat ((← get).table number).size
      | _ => return .ofNat (← Machine.text (← Machine.value array)).length
    | "length", [] => return .ofNat (← Machine.text (← Record.field 0)).length
    | "split", subject :: .named array :: between =>
      let text ← Machine.text (← value fuel subject)
      let separator ← match between with
        | [] => Separator.ofText (← Machine.textOf "FS")
        | [.regex regex] => pure (Separator.regex regex)
        | other :: _ => Separator.ofText (← Machine.text (← value fuel other))
      let found := (separator.cut text).map Value.ofInput
      Machine.putTable (← Machine.tableOf array) (.ofRow found)
      return .ofNat found.length
    | "match", [subject, pattern] =>
      let text ← Machine.text (← value fuel subject)
      let found? := (← regexOf fuel pattern).search? {} (.start text)
      let start := found?.elim 0 (·.start + 1)
      let length : Float := found?.elim (-1) fun found => Float.ofNat found.text.length
      Machine.assign "RSTART".toList (.ofNat start)
      Machine.assign "RLENGTH".toList (.number length)
      return .ofNat start
    | "sub", pattern :: value :: place => substitute fuel false pattern value place.head?
    | "gsub", pattern :: value :: place => substitute fuel true pattern value place.head?
    | name, arguments => plain name (← values fuel arguments)

/-- Replaces matches, and tells how many. -/
def substitute (fuel : Nat) (all : Bool) (pattern replacement : Expression)
    (place : Option Expression) : Play Value := do
  match fuel with
  | 0 => throw .late
  | fuel + 1 =>
    let regex ← regexOf fuel pattern
    let parts := pieces (← Machine.text (← value fuel replacement))
    let place := place.getD (.field (.number 0))
    let target? ← match place with
      | .named _ | .field _ | .element .. => some <$> target fuel place
      | _ => pure none
    let before ← match target? with
      | some target => target.value
      | none => value fuel place
    let text ← Machine.text before
    let found := matchesIn regex all text
    unless found.isEmpty do
      if let some target := target? then target.put (.text (replaced parts text 0 found))
    return .ofNat found.length

/-- The value of a function of values. -/
def plain (name : String) (arguments : List Value) : Play Value := do
  let first := arguments.head?.getD .unset
  let second := arguments.getD 1 .unset
  match name with
  | "length" => return .ofNat (← Machine.text first).length
  | "substr" =>
    return .text (part (← Machine.text first) second.toNumber (arguments[2]?.map (·.toNumber)))
  | "index" => return .ofNat (position (← Machine.text first) (← Machine.text second))
  | "sprintf" =>
    let (format, text, fault?) ← formatOf arguments
    match fault? with
    | some fault => Play.complain (formatMessage name format fault)
    | none => return .text text
  | "atan2" => return .number (Float.atan2 first.toNumber second.toNumber)
  | "tolower" => return .text (Text.asciiLower (← Machine.text first))
  | "toupper" => return .text ((← Machine.text first).map Char.toUpper)
  | "system" =>
    let command ← Machine.text first
    Stream.flush
    return .ofNat (← Stream.launch "sh" command)
  | "close" => return .number (Float.ofInt (← Stream.close (← Machine.text first)))
  | "fflush" =>
    Stream.flush
    return .number 0
  | "systime" => return .ofNat 1700000000
  | "srand" =>
    let machine ← get
    set { machine with seed := if arguments.isEmpty then .number 1700000000 else first }
    return machine.seed
  | "rand" =>
    let machine ← get
    let next := ((whole machine.seed.toNumber).toNat * 1103515245 + 12345) % 2147483648
    set { machine with seed := .ofNat next }
    return .number (Float.ofNat next / 2147483648)
  | name => return .number ((function? name).elim 0 fun function => function first.toNumber)

/-- Runs statements one after the other. -/
def run (fuel : Nat) (statements : List Statement) : Play Unit := do
  match fuel with
  | 0 => throw .late
  | fuel + 1 =>
    match statements with
    | [] => return
    | first :: rest =>
      step fuel first
      run fuel rest

/-- Where output goes. -/
def destination (fuel : Nat) (route : Option (Direction × Expression)) :
    Play (Option (Direction × Text)) := do
  match fuel, route with
  | 0, _ => throw .late
  | _, none => return none
  | fuel + 1, some (direction, name) =>
    return some (direction, ← Machine.text (← value fuel name))

/-- Repeats a statement as long as a condition holds. -/
def repeated (fuel : Nat) (condition : Option Expression) (body : Statement)
    (after : Option Statement) : Play Unit := do
  match fuel with
  | 0 => throw .late
  | fuel + 1 =>
    let goesOn ← match condition with
      | some condition => (·.holds) <$> value fuel condition
      | none => pure true
    if goesOn then
      unless ← round (step fuel body) do
        if let some statement := after then step fuel statement
        repeated fuel condition body after

/-- Runs a statement for each of some keys. -/
def each (fuel : Nat) (name : Text) (body : Statement) (keys : List Text) : Play Unit := do
  match fuel with
  | 0 => throw .late
  | fuel + 1 =>
    match keys with
    | [] => return
    | key :: rest =>
      Machine.assign name (.text key)
      unless ← round (step fuel body) do each fuel name body rest

/-- Runs a statement. -/
def step (fuel : Nat) (statement : Statement) : Play Unit := do
  match fuel with
  | 0 => throw .late
  | fuel + 1 =>
    match statement with
    | .print expressions route =>
      let found ← values fuel expressions
      let found ← if expressions.isEmpty then List.singleton <$> Record.field 0 else pure found
      let texts ← found.mapM Machine.printedText
      let route ← destination fuel route
      let line := Text.join (← Machine.textOf "OFS") texts ++ (← Machine.textOf "ORS")
      Stream.print route line
    | .format expressions route =>
      let found ← values fuel expressions
      let route ← destination fuel route
      let (format, text, fault?) ← formatOf found
      Stream.print route text
      if let some fault := fault? then Play.complain (formatMessage "printf" format fault)
    | .evaluate expression =>
      let _ ← value fuel expression
    | .block statements => run fuel statements
    | .when condition first second =>
      if (← value fuel condition).holds then step fuel first
      else if let some statement := second then step fuel statement
    | .repeatWhile condition body => repeated fuel (some condition) body none
    | .repeatUntil body condition =>
      unless ← round (step fuel body) do repeated fuel (some condition) body none
    | .count start condition after body =>
      if let some statement := start then step fuel statement
      repeated fuel condition body after
    | .forEach name array body =>
      let keys ← Machine.workTable (← Machine.tableOf array) Table.keys
      each fuel name body keys
    | .next => throw .next
    | .nextFile => throw .nextFile
    | .exit status =>
      if let some expression := status then
        let found := whole (← value fuel expression).toNumber
        modify fun machine => { machine with status := (found % 256).toNat }
      throw .exit
    | .leave => throw .leave
    | .goOn => throw .goOn
    | .return expression =>
      match expression with
      | some expression => throw (.return (← value fuel expression))
      | none => throw (.return .unset)
    | .delete name places =>
      let number ← Machine.tableOf name
      match places with
      | none => Machine.putTable number {}
      | some places =>
        let key ← Machine.key (← values fuel places)
        Machine.workTable number fun table => ((), table.erase key)

end

/-- How many steps a script can take one after the other. -/
def fuel : Nat := 4000000

/-- Whether a rule holds for the record; `index` is its number. -/
def applies (index : Nat) (pattern : Pattern) : Play Bool := do
  match pattern with
  | .always => return true
  | .one condition => return (← value fuel condition).holds
  | .range first last =>
    let isOpen := (← get).open_.contains index
    let begins ← if isOpen then pure true else (·.holds) <$> value fuel first
    if begins then
      let ends := (← value fuel last).holds
      modify fun machine =>
        { machine with
          open_ := if ends then machine.open_.filter (· != index) else index :: machine.open_ }
    return begins

/-- Applies the rules to the record. -/
def rules (numbered : List ((Pattern × Option (List Statement)) × Nat)) : Play Unit := do
  for ((pattern, action), index) in numbered do
    if ← applies index pattern then
      match action with
      | some statements => run fuel statements
      | none => step fuel (.print [] none)

/-- Applies the rules to the records. Each record costs one of `count`. -/
def records (count : Nat) (numbered : List ((Pattern × Option (List Statement)) × Nat)) :
    Play Unit := do
  match count with
  | 0 => throw .late
  | count + 1 =>
    match ← Argument.next? 100000 with
    | none => return
    | some record =>
      Record.set record
      tryCatch (rules numbered) fun
        | .next => return
        | .nextFile => modify fun machine => { machine with current := none }
        | other => throw other
      records count numbered

/-- Runs something up to an exit; tells whether there was one. -/
def untilExit (work : Play Unit) : Play Bool :=
  tryCatch (do work; return false) fun
    | .exit => return true
    | .next | .nextFile => return false
    | other => throw other

/-- Runs a script. -/
def script (script : Script) : Play Unit := do
  let isOver ← untilExit (run fuel script.begins)
  unless isOver || script.rules.isEmpty && !script.hasEnd do
    let _ ← untilExit (records fuel script.rules.zipIdx)
  let _ ← untilExit (run fuel script.ends)
  Stream.closeAll

end Run

end Docket.Shell.Awk
