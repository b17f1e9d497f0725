import Superstep.Json.Read
import Superstep.Main
import Superstep.Proofs.Acceptance
import Superstep.Proofs.Accounting
import Superstep.Proofs.Cleanup
import Superstep.Proofs.Fingerprint
import Superstep.Proofs.InputGraph
import Superstep.Proofs.Messages
import Superstep.Proofs.References
import Superstep.Proofs.Rendering
import Superstep.Proofs.Replay
import Superstep.Proofs.Scopes
import Superstep.Proofs.Senders
import Superstep.Proofs.Settings
import Superstep.Proofs.Statement.Printing
import Superstep.Proofs.Token.Printing
import Superstep.Proofs.Wire
import Superstep.Statement.Explain
import Superstep.Proofs.Text.Occurrence
import Superstep.Proofs.LineEdits
import Superstep.Proofs.Bindings
import Superstep.Proofs.Precedence
import Superstep.Proofs.Text.Replacing
import Superstep.Proofs.Statement.Parts
import Superstep.Proofs.Degrees
import Superstep.Proofs.Atomicity
import Superstep.Proofs.Intersection
import Superstep.Proofs.DistinctSources
import Superstep.Proofs.Text.Filling
import Superstep.Proofs.Token.Substitution
import Superstep.Proofs.Token.Splicing
import Superstep.Proofs.Bracketing
import Superstep.Proofs.Indentation
import Superstep.Proofs.FirstMessage
import Superstep.Proofs.Concatenation
import Superstep.Proofs.Countdown
import Superstep.Proofs.Directions
import Superstep.Proofs.Declarations
import Superstep.Proofs.Naming
import Superstep.Proofs.Identifiers
import Superstep.Proofs.Token.OrderedChoice
import Superstep.Proofs.Token.Cursor
