import JsonShape.HostValue
import JsonShape.Main
import JsonShape.Node.Equality
import JsonShape.Number.Literal
import JsonShape.Session
import JsonShape.Proofs.CommandLine.Output
import JsonShape.Proofs.Description.RoundTrip
import JsonShape.Proofs.Go.Injectivity
import JsonShape.Proofs.Inference.LeastType
import JsonShape.Proofs.Inference.Rearrangement
import JsonShape.Proofs.Inference.Widening
import JsonShape.Proofs.Selection.Projection
import JsonShape.Proofs.Repetition
import JsonShape.Proofs.Documents
import JsonShape.Proofs.Selection.Validity
import JsonShape.Proofs.Selection.Content
import JsonShape.Proofs.Selection.Order
import JsonShape.Proofs.Description.Grammar
import JsonShape.Proofs.Inference.Context
import JsonShape.Proofs.Go.Import
import JsonShape.Proofs.Go.Exported
import JsonShape.Proofs.Go.Distinct
import JsonShape.Proofs.Config
import JsonShape.Proofs.Go.Boundaries
import JsonShape.Proofs.Go.Styles
import JsonShape.Proofs.Go.Stability
import JsonShape.Proofs.CanonicalForm
import JsonShape.Proofs.Selection.Containers
import JsonShape.Proofs.Inference.Growth
import JsonShape.Proofs.Recursion
