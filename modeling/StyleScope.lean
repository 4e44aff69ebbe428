import StyleScope.Value.Convert
import StyleScope.Value.Fingerprint
import StyleScope.Value.Text
import StyleScope.Failure.Report
import StyleScope.Proofs.Table.History
import StyleScope.Proofs.Table.Spelling
import StyleScope.Proofs.Table.Canonical
import StyleScope.Proofs.Table.Equality
import StyleScope.Proofs.Scope.NoShadowing
import StyleScope.Proofs.Scope.Bracket
import StyleScope.Proofs.Scope.Merged
import StyleScope.Proofs.Scope.Declaration
import StyleScope.Proofs.Scope.Depth
import StyleScope.Proofs.Scope.Refusals
import StyleScope.Proofs.Scope.Lenient
import StyleScope.Proofs.Scope.Resolution
import StyleScope.Proofs.Scope.Replay
import StyleScope.Proofs.Scope.Respelling
import StyleScope.Proofs.Scope.Simulation
import StyleScope.Proofs.Kind.Encoding
import StyleScope.Proofs.Failure.Interleaving
import StyleScope.Proofs.Failure.Propagation
import StyleScope.Proofs.Number.RoundTrip
import StyleScope.Proofs.Number.Integers
import StyleScope.Proofs.Value.Fingerprint
import StyleScope.Proofs.Value.Inspection
import StyleScope.Proofs.Value.Leaves
