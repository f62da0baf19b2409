import Docket.Script.Launch
import Docket.Setup.Config
import Docket.Text.Basic
import Docket.Text.Utf8

/-! Running scripts: a script is started by the words for its ending, and answers with what it
prints. -/

namespace Docket.Script

/-- Why a script gave no answer. -/
inductive Fault where
  | disabled
  | missing (script : Text)
  | unsupported (script : Text)
  | refused (script : Text)
  | timedOut (script : Text) (limit : Nat)
  | failed (script : Text) (status : ExitStatus) (errors : Text)
deriving DecidableEq, Repr

/-- The wording of a fault. -/
def Fault.message : Fault → Text
  | disabled => "script execution is disabled".toList
  | missing script => "script not found: ".toList ++ script
  | unsupported script => "unsupported script type: ".toList ++ script
  | refused script => "failed to start ".toList ++ script
  | timedOut script limit =>
    script ++ " timed out after ".toList ++ Text.ofNat limit ++ " ms".toList
  | failed script status errors =>
    script ++ " exited with ".toList ++ status.describe ++ ": ".toList ++ errors

/-- The program that a script needs. -/
def launch (words : List Text) (script : Text) (arguments : List Text) : Launch :=
  match words with
  | [] => ⟨script, arguments⟩
  | program :: options => ⟨program, options ++ script :: arguments⟩

/-- Whether something happened before the time was up. -/
def inTime (limit : Nat) (time : Option Nat) : Bool :=
  time.any (· < limit)

/-- The answer of a completed program. -/
def answer (script : Text) (limit : Nat) (completion : Completion) : Except Fault Text :=
  match completion.ended with
  | none => .error (.timedOut script limit)
  | some (time, status) =>
    -- A program that has ended in time may have left its output open to another one.
    if !(inTime limit (some time) && inTime limit completion.closed) then
      .error (.timedOut script limit)
    else if status.isSuccess then .ok (Text.trim (Text.ofUtf8Lossy completion.output))
    else .error (.failed script status (Text.trim (Text.ofUtf8Lossy completion.errors)))

/-- The program to start for a script, unless the settings or the disk are against it. -/
def prepare (scripting : Scripting) (script : Text) (arguments : List Text) (disk : Disk) :
    Except Fault Launch :=
  -- The switch comes first, so the disk is not even looked at.
  if !scripting.enabled then .error .disabled
  else if script.isEmpty || (disk.file? script).isNone then .error (.missing script)
  else match scripting.interpreterFor? script with
    | none => .error (.unsupported script)
    | some words => .ok (launch words script arguments)

/-- Starts a program for a script and takes its answer. -/
def start (host : Host) (limit : Nat) (script : Text) (launch : Launch) (disk : Disk) :
    Except Fault Text × Disk :=
  match host launch limit disk with
  | (none, disk) => (.error (.refused script), disk)
  | (some completion, disk) => (answer script limit completion, disk)

/-- Runs a script with arguments. -/
def run (host : Host) (scripting : Scripting) (script : Text) (arguments : List Text)
    (disk : Disk) : Except Fault Text × Disk :=
  match prepare scripting script arguments disk with
  | .error fault => (.error fault, disk)
  | .ok launch => start host scripting.timeout script launch disk

end Docket.Script
