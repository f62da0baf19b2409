import Docket.CommandLine.Run
import Docket.Main
import Docket.Proofs.Calendar.Format
import Docket.Proofs.Context.Zones
import Docket.Proofs.Counter.Draw
import Docket.Proofs.Counter.Durability
import Docket.Proofs.Counter.Effect
import Docket.Proofs.Counter.Numbering
import Docket.Proofs.Counter.Refinement
import Docket.Proofs.Expression.Balance
import Docket.Proofs.Expression.Independence
import Docket.Proofs.Expression.Insertion
import Docket.Proofs.Expression.Kept
import Docket.Proofs.Expression.Ledger
import Docket.Proofs.Expression.Lossless
import Docket.Proofs.Expression.Nesting
import Docket.Proofs.Expression.Reference
import Docket.Proofs.Expression.Substitution
import Docket.Proofs.Expression.Surrounding
import Docket.Proofs.Expression.Unreached
import Docket.Proofs.Field.Convergence
import Docket.Proofs.Field.Cycle
import Docket.Proofs.Field.Document
import Docket.Proofs.Field.Formula
import Docket.Proofs.Field.Forward
import Docket.Proofs.Field.Graph
import Docket.Proofs.Field.Publication
import Docket.Proofs.Field.Redefinition
import Docket.Proofs.Field.Report
import Docket.Proofs.Field.Search
import Docket.Proofs.Function.Counters
import Docket.Proofs.Function.Padding
import Docket.Proofs.Function.Sandbox
import Docket.Proofs.Function.Searching
import Docket.Proofs.Pattern.Recency
import Docket.Proofs.Pattern.Translation
import Docket.Proofs.Shell.Subshell
import Docket.Proofs.Storage.Atomicity
import Docket.Shell.Execute
