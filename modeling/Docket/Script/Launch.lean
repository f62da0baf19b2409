import Docket.Storage.Disk
import Docket.Text.Integer

/-! Starting programs: what is asked of the host, and what comes of it. -/

namespace Docket

/-- A program with its arguments. -/
structure Launch where
  program : Text
  arguments : List Text
deriving DecidableEq, Repr, Inhabited

/-- How a program ended. -/
inductive ExitStatus where
  | code (value : Nat)
  | signal (number : Nat)
deriving DecidableEq, Repr, Inhabited

namespace ExitStatus

/-- The names of the signals that end a program. -/
def signalNames : List (Nat × String) := [
  (1, "SIGHUP"), (2, "SIGINT"), (3, "SIGQUIT"), (4, "SIGILL"), (5, "SIGTRAP"), (6, "SIGABRT"),
  (7, "SIGBUS"), (8, "SIGFPE"), (9, "SIGKILL"), (10, "SIGUSR1"), (11, "SIGSEGV"),
  (12, "SIGUSR2"), (13, "SIGPIPE"), (14, "SIGALRM"), (15, "SIGTERM"), (16, "SIGSTKFLT"),
  (24, "SIGXCPU"), (25, "SIGXFSZ"), (26, "SIGVTALRM"), (27, "SIGPROF"), (29, "SIGIO"),
  (30, "SIGPWR"), (31, "SIGSYS")]

/-- The wording of a status. -/
def describe : ExitStatus → Text
  | code value => "exit status: ".toList ++ Text.ofNat value
  | signal number =>
    let name := match signalNames.lookup number with
      | some name => " (".toList ++ name.toList ++ [')']
      | none => []
    "signal: ".toList ++ Text.ofNat number ++ name

/-- Whether a program ended well. -/
def isSuccess (status : ExitStatus) : Bool :=
  status == code 0

end ExitStatus

/-- What a program did. Times are in milliseconds since its start; what has not happened when its
time is up has none. -/
structure Completion where
  /-- When and how the program ended. -/
  ended : Option (Nat × ExitStatus)
  output : List UInt8
  errors : List UInt8
  /-- When the last process let go of the output and of the errors. -/
  closed : Option Nat
deriving Inhabited

/-- A host runs a program for a limited time. It may refuse to start it. -/
abbrev Host := Launch → Nat → Disk → Option Completion × Disk

/-- The host that starts nothing. -/
def Host.none : Host :=
  fun _ _ disk => (Option.none, disk)

end Docket
