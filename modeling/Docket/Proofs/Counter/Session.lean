import Docket.Counter.Store

/-! Sessions with a counter file: opening its store, again and again, and what is asked of it. -/

namespace Docket.Counter

/-- What can be asked of an open store. -/
inductive Request where
  | advance (category : Category) (name : Text) (start step : Int64)
  | set (category : Category) (name : Text) (value : Int64)
  | reset (category : Category) (name : Text) (value : Int64)
  | delete (category : Category) (name : Text)
  | clear (category : Category)
deriving DecidableEq, Repr

/-- What a request is answered with. -/
inductive Answer where
  | done
  | value (value : Int64)
  | deleted (found : Bool)
  | cleared (count : Nat)
deriving DecidableEq, Repr

/-- Carries out a request. A counter is reset by setting it. -/
def Store.serve (store : Store) (request : Request) (disk : Disk) :
    Except Failure Answer × Store × Disk :=
  match request with
  | .advance category name start step =>
    let (result, store, disk) := store.advance category name start step disk
    (result.map .value, store, disk)
  | .set category name value | .reset category name value =>
    let (result, store, disk) := store.set category name value disk
    (result.map fun () => .done, store, disk)
  | .delete category name =>
    let (result, store, disk) := store.delete category name disk
    (result.map .deleted, store, disk)
  | .clear category =>
    let (result, store, disk) := store.clear category disk
    (result.map .cleared, store, disk)

/-- A step of a session. -/
inductive Command where
  | openFile
  | request (request : Request)
deriving DecidableEq, Repr

/-- What a step comes to; without a store nothing can be requested. -/
inductive Outcome where
  | opened
  | answered (answer : Answer)
  | failed (failure : Failure)
  | notOpen
deriving DecidableEq, Repr

/-- The store that is open, if there is one, and the disk with its file. -/
structure Session where
  store : Option Store := none
  disk : Disk

namespace Session

/-- Carries out a step. A store that is open stays so when opening another one fails. -/
def perform (path : Text) (session : Session) (command : Command) : Outcome × Session :=
  match command with
  | .openFile =>
    match Store.openFile path session.disk with
    | (.ok store, disk) => (.opened, ⟨some store, disk⟩)
    | (.error failure, disk) => (.failed failure, ⟨session.store, disk⟩)
  | .request request =>
    match session.store with
    | none => (.notOpen, session)
    | some store =>
      match store.serve request session.disk with
      | (.ok answer, store, disk) => (.answered answer, ⟨some store, disk⟩)
      | (.error failure, store, disk) => (.failed failure, ⟨some store, disk⟩)

/-- The session after steps that are carried out in turn. -/
def run (path : Text) (session : Session) (commands : List Command) : Session :=
  commands.foldl (fun session command => (session.perform path command).2) session

end Session

end Docket.Counter
