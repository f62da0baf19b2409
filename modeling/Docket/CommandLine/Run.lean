import Docket.CommandLine.Request
import Docket.Context.Basic
import Docket.Field.Dependency
import Docket.Field.Pass
import Docket.Function.Registry
import Docket.Function.Standard

/-! Running command lines: from words to what is printed and written. -/

namespace Docket.CommandLine

/-- Why a request was not carried out. -/
inductive Failure where
  | config (path : Text) (cause : ConfigFailure)
  | store (path : Text) (cause : Counter.Failure)
  | counter (cause : Counter.Failure)
  | document (cause : DocumentFailure)
  | unreadable (path : Text)
  | noCounterFile
  | noCounter (category : Counter.Category) (name : Text)
deriving DecidableEq, Repr

/-- The wording of a failure. -/
def Failure.message : Failure → Text
  | config path cause => "loading configuration ".toList ++ path ++ ": ".toList ++ cause.message
  | store path cause => "opening counter file ".toList ++ path ++ ": ".toList ++ cause.message
  | counter cause => cause.message
  | document cause => cause.message
  | unreadable path => "reading recognized text ".toList ++ path
  | noCounterFile => "no counter file given; use --counters or the config".toList
  | noCounter category name =>
    "counter ".toList ++ category.name ++ '/' :: name ++ " does not exist".toList

/-- What a run prints, and its exit code. -/
structure Outcome where
  exit : Nat
  output : Text := []
  errors : Text := []
deriving DecidableEq, Repr

/-- What runs of the program depend on, apart from their words and the disk. -/
structure Setting where
  host : Host
  now : Instant

/-- An answer or a failure, and the disk afterwards. -/
abbrev Result (α : Type) := Except Failure α × Disk

/-- A line. -/
def line (text : Text) : Text :=
  text ++ ['\n']

/-- The configuration of a request. -/
def configuration (common : Common) (disk : Disk) : Except Failure Config :=
  match common.config with
  | none => .ok .standard
  | some path => (Config.load path disk).mapError (.config path)

/-- Opens the counter file, or counters in memory if there is none. -/
def openCounters (path : Option Text) (disk : Disk) : Result Counter.Store :=
  match path with
  | none => (.ok .inMemory, disk)
  | some path =>
    match Counter.Store.openFile path disk with
    | (.ok store, disk) => (.ok store, disk)
    | (.error cause, disk) => (.error (.store path cause), disk)

/-- The engine of a configuration. -/
def engine (setting : Setting) (config : Config) : Engine :=
  ⟨.standard, config, none, setting.host⟩

/-- The context that a description gives, with the values of a stored document. -/
def context (setting : Setting) (config : Config) (description : Description)
    (stored : Document) (disk : Disk) : Except Failure Context := do
  let start := Context.start setting.now config.hierarchyDepth
  let placed := match description.file, description.root with
    | some file, some root => (start.withFile file disk).withHierarchy file root disk
    | some file, none => start.withFile file disk
    | none, _ => start
  let read ← match description.text with
    | none => .ok placed
    | some path =>
      match disk.readText path with
      | .ok text => .ok (placed.withText text)
      | .error _ => .error (.unreadable path)
  return (read.setAll stored.entries).setAll description.bindings

/-- Evaluates one expression. -/
def evaluate (setting : Setting) (config : Config) (counters : Option Text) (expression : Text)
    (description : Description) (disk : Disk) : Result Outcome :=
  match openCounters counters disk with
  | (.error failure, disk) => (.error failure, disk)
  | (.ok store, disk) =>
    match context setting config description .empty disk with
    | .error failure => (.error failure, disk)
    | .ok context =>
      let engine := engine setting config
      let (value, resources) :=
        engine.evaluate setting.now context.bindings expression (engine.resources store disk)
      (.ok { exit := 0, output := line value }, resources.disk)

/-- Writes a document to a file, or prints it. -/
def deliver (document : Document) (output : Option Text) (disk : Disk) : Result Outcome :=
  match output with
  | none => (.ok { exit := 0, output := line document.toJson.render }, disk)
  | some path =>
    match document.save path disk with
    | (.ok (), disk) => (.ok { exit := 0 }, disk)
    | (.error cause, disk) => (.error (.document cause), disk)

/-- The fields in a file, and the document in another one. -/
def loadDesk (definitions : Text) (document : Option Text) (disk : Disk) :
    Except Failure (List Field × Document) := do
  let fields ← (Field.loadAll definitions disk).mapError .document
  let stored ← match document with
    | none => .ok .empty
    | some path => (Document.load path disk).mapError .document
  return (fields, stored)

/-- Evaluates fields in order. -/
def evaluateFields (setting : Setting) (config : Config) (counters : Option Text)
    (definitions : Text) (document output : Option Text) (description : Description)
    (disk : Disk) : Result Outcome :=
  match loadDesk definitions document disk with
  | .error failure => (.error failure, disk)
  | .ok (fields, stored) =>
    match openCounters counters disk with
    | (.error failure, disk) => (.error failure, disk)
    | (.ok store, disk) =>
      match context setting config description stored disk with
      | .error failure => (.error failure, disk)
      | .ok context =>
        let engine := engine setting config
        let desk := Desk.pass engine setting.now fields
          ⟨context.bindings, stored, engine.resources store disk⟩
        deliver desk.document output desk.resources.disk

/-- The line of a counter. -/
def counterLine (counter : Counter.Listed) : Text :=
  line (counter.category.name ++ '\t' :: counter.name ++ '\t' :: Text.ofInt64 counter.value)

/-- Turns the answer of a store into an outcome. -/
def concluded {α : Type} (outcome : α → Except Failure Outcome)
    (answer : Except Counter.Failure α × Counter.Store × Disk) : Result Outcome :=
  match answer with
  | (.ok value, _, disk) => (outcome value, disk)
  | (.error cause, _, disk) => (.error (.counter cause), disk)

/-- Works on the counters of a store. -/
def workOn (store : Counter.Store) (action : CounterAction) (disk : Disk) : Result Outcome :=
  match action with
  | .list category =>
    let shown := store.table.list.filter fun counter => category.all (· == counter.category)
    (.ok { exit := 0, output := shown.flatMap counterLine }, disk)
  | .get name category =>
    match store.get? category name with
    | some value => (.ok { exit := 0, output := line (Text.ofInt64 value) }, disk)
    | none => (.error (.noCounter category name), disk)
  | .set name category value =>
    concluded (fun () => .ok { exit := 0 }) (store.set category name value disk)
  | .delete name category =>
    concluded (fun found => if found then .ok { exit := 0 } else .error (.noCounter category name))
      (store.delete category name disk)

/-- Carries out an action with a configuration. -/
def perform (setting : Setting) (config : Config) (counters : Option Text) (action : Action)
    (disk : Disk) : Result Outcome :=
  match action with
  | .evaluate expression description =>
    evaluate setting config counters expression description disk
  | .fields definitions document output description =>
    evaluateFields setting config counters definitions document output description disk
  | .counters action =>
    if counters.isNone then (.error .noCounterFile, disk)
    else match openCounters counters disk with
      | (.error failure, disk) => (.error failure, disk)
      | (.ok store, disk) => workOn store action disk
  | .functions => (.ok { exit := 0, output := Registry.standard.manual }, disk)
  | .check definitions =>
    match Field.loadAll definitions disk with
    | .error cause => (.error (.document cause), disk)
    | .ok fields =>
      let report := DependencyReport.ofFields fields
      (.ok { exit := if report.isClean then 0 else 2, output := report.describe }, disk)

/-- Carries out a request. -/
def Request.run (request : Request) (setting : Setting) (disk : Disk) : Result Outcome :=
  match configuration request.common disk with
  | .error failure => (.error failure, disk)
  | .ok config =>
    perform setting config (request.common.counters.or config.countersPath) request.action disk

/-- The outcome when there is nothing to be done. -/
def Stop.outcome : Stop → Outcome
  | fault cause =>
    { exit := 2
      errors := "error: ".toList ++ cause.message ++
        "\n\nFor more information, try '--help'.\n".toList }
  | help commands => { exit := 0, output := Form.helpAt commands }
  | version => { exit := 0, output := line (programName ++ ' ' :: programVersion) }

/-- The outcome of a failure. -/
def Failure.outcome (failure : Failure) : Outcome :=
  { exit := 1, errors := line ("Error: ".toList ++ failure.message) }

/-- Runs the program with the words of a command line. -/
def run (setting : Setting) (words : List Text) (disk : Disk) : Outcome × Disk :=
  match Request.ofWords words with
  | .error stop => (stop.outcome, disk)
  | .ok request =>
    match request.run setting disk with
    | (.ok outcome, disk) => (outcome, disk)
    | (.error failure, disk) => (failure.outcome, disk)

end Docket.CommandLine
