import Docket.Function.Deciding
import Docket.Function.Matching
import Docket.Function.Reaching
import Docket.Function.Registry

/-! The functions that every expression can call unless told otherwise. -/

namespace Docket

/-- The standard functions. -/
def Function.standard : List Function :=
  [trim, left, right, mid, toUpper, toLower, length, format, indexOf, formatDate, choose,
    regexpMatch, regexpReplace, autoIncrement, scripting, sql]

/-- The registry of the standard functions. -/
def Registry.standard : Registry :=
  ofFunctions Function.standard

end Docket
