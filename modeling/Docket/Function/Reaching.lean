import Docket.Function.Editing

/-! Functions that reach beyond the expression: to counters, databases and scripts. -/

namespace Docket.Function

/-- The name of the counter that numbers are drawn from. -/
def counterName (name : Text) : Text :=
  "auto_".toList ++ name

/-- An integer, or one where there is none. -/
def integerOrOne (value : Option Text) : Int64 :=
  (value.bind fun value => Text.integer? (Text.trim value)).getD 1

/-- The next number of a sequence. -/
def autoIncrement : Function where
  signature := ⟨"AUTOINCREMENT".toList, [need "name", .withDefault "start".toList "1".toList,
    .withDefault "step".toList "1".toList], false⟩
  title := "Auto Increment".toList
  documentation :=
    ("Returns the current value of the persistent counter `auto_<name>` and advances " ++
      "it by `step`. `AUTOINCREMENT(\"Invoice\", 1000)` yields 1000, 1001, 1002, ... " ++
      "across documents and restarts.").toList
  fallback := fun arguments => (arguments[1]?).getD ['1']
  run := fun _ arguments resources =>
    -- Arguments that are no integers count as one, they do not fail.
    let start := integerOrOne arguments[1]?
    let step := integerOrOne arguments[2]?
    let name := counterName (firstArgument arguments)
    match resources.counters.advance .auto name start step resources.disk with
    | (.ok value, counters, disk) => (.ok (Text.ofInt64 value), { resources with counters, disk })
    | (.error failure, counters, disk) =>
      (.error (.counter failure), { resources with counters, disk })

/-- The value of a column; without an exact name, case does not matter. -/
def column? (row : Row) (name : Text) : Option Text :=
  -- An exact name comes first, wherever its column stands.
  (row.get? name).orElse fun _ =>
    (row.entries.find? fun (known, _) => Text.sameIgnoringAsciiCase known name).map Prod.snd

/-- The value that a query is asked for: a named column of the first row, or its first one. -/
def firstValue (rows : List Row) (column : Text) : Except Cause Text :=
  match rows with
  | [] => .ok []
  | row :: _ =>
    if column.isEmpty then .ok ((row.entries.head?.map Prod.snd).getD [])
    else match column? row column with
      | some value => .ok value
      | none => .error (.argument 2 (.missingColumn column))

/-- A value from a database. -/
def sql : Function where
  signature := ⟨"SQL".toList, [need "connection", need "query", .left "column".toList], false⟩
  title := "SQL Query".toList
  documentation :=
    ("Runs `query` on a configured database connection and returns `column` of the " ++
      "first row. Empty when no database is attached, the query fails or returns no rows.").toList
  run := fun environment arguments resources =>
    let value := match environment.database with
      | none => .error .noDatabase
      | some database =>
        match database (argument arguments 0) (argument arguments 1) with
        | .error fault => .error (.evaluation fault.message)
        | .ok rows => firstValue rows (argument arguments 2)
    (value, resources)

/-- The cause of a script's fault. -/
def Cause.ofScript : Script.Fault → Cause
  | .disabled => .scriptsDisabled
  | fault => .script fault

/-- What a script prints. -/
def scripting : Function where
  signature := ⟨"SCRIPTING".toList, [need "path", .left "args".toList], true⟩
  title := "Scripting".toList
  documentation :=
    ("Runs the script at `path` with the remaining arguments and returns its trimmed " ++
      "standard output. Failures, non-zero exit codes and timeouts yield an empty string.").toList
  run := fun environment arguments resources =>
    let script := firstArgument arguments
    match Script.prepare environment.scripting script arguments.tail resources.disk with
    | .error fault => (.error (.ofScript fault), resources)
    | .ok launch =>
      let limit := environment.scripting.timeout
      let (answer, disk) := Script.start environment.host limit script launch resources.disk
      -- The start is on record before the answer is known.
      let resources := { resources with disk, launched := launch :: resources.launched }
      (answer.mapError .ofScript, resources)

end Docket.Function
