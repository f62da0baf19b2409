import Docket.Shell.Arrangement
import Docket.Shell.Awk.Program
import Docket.Shell.Checking
import Docket.Shell.Counted
import Docket.Shell.Counting
import Docket.Shell.Cutting
import Docket.Shell.Dump
import Docket.Shell.Encoding
import Docket.Shell.Environment
import Docket.Shell.Exchange
import Docket.Shell.Extent
import Docket.Shell.Find
import Docket.Shell.Grep
import Docket.Shell.Housekeeping
import Docket.Shell.Listing
import Docket.Shell.Moving
import Docket.Shell.Numbering
import Docket.Shell.Permission
import Docket.Shell.Reckoning
import Docket.Shell.Sed.Run
import Docket.Shell.Sorting.Sort
import Docket.Shell.Xargs

/-! The programs that are found by their names alone: those with which a script reads, filters and
writes texts and files. A script that starts any other program finds none of that name. -/

namespace Docket.Shell.Utility

/-- The programs with their names. -/
def known : List (String × Utility) := [
  ("cat", Showing.program), ("head", Extent.head), ("tail", Extent.tail),
  ("wc", Counting.program), ("seq", Counted.program), ("tr", Exchange.program),
  ("sort", Sorting.program), ("uniq", Repetition.program), ("cut", Cutting.program),
  ("tac", Arrangement.tac), ("rev", Arrangement.rev), ("paste", Arrangement.paste),
  ("fold", Arrangement.fold), ("basename", PathParts.basename), ("dirname", PathParts.dirname),
  ("echo", Filter.echo), ("sleep", Filter.sleep), ("yes", Filter.yes),
  ("true", fun _ => return 0), ("false", fun _ => return 1),
  ("mkdir", Housekeeping.mkdir), ("rmdir", Housekeeping.rmdir), ("rm", Housekeeping.rm),
  ("touch", Housekeeping.touch), ("chmod", Permission.chmod), ("cp", Moving.cp),
  ("mv", Moving.mv), ("ls", Listing.program), ("tee", Housekeeping.tee),
  ("pwd", Housekeeping.pwd), ("sed", Sed.program), ("grep", Grep.program),
  ("egrep", Grep.programWith "-E"), ("fgrep", Grep.programWith "-F"),
  ("expr", Reckoning.program), ("nl", Numbering.program), ("od", Dump.program),
  ("base64", Encoding.base64.program), ("printenv", Environment.printenv)] ++
  Checking.methods.map fun (name, method) => (name, Checking.program name method)

/-- The program of a name. -/
def named? (name : Text) : Option Utility :=
  known.lookup (String.ofList name)

/-- The programs that start others, with their names. -/
def starters : List (String × (Launcher → Utility)) :=
  [("awk", Awk.program), ("find", Find.program), ("mawk", Awk.program), ("xargs", Xargs.program)]

/-- The program of a name that starts others. -/
def starter? (name : Text) : Option (Launcher → Utility) :=
  starters.lookup (String.ofList name)

end Docket.Shell.Utility
