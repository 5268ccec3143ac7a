import BuildFleet.Json.Parser
import BuildFleet.Json.Pointer
import BuildFleet.Main
import BuildFleet.Operator.Simulation
import BuildFleet.Proofs.Dict.Fold
import BuildFleet.Proofs.Json.Members
import BuildFleet.Proofs.Kubernetes.Conform
import BuildFleet.Proofs.Merge.Keeping
import BuildFleet.Proofs.Blueprint.Conversion
import BuildFleet.Proofs.Quantity.Order
import BuildFleet.Proofs.Resources.Settling
import BuildFleet.Proofs.Resources.Consistency
import BuildFleet.Proofs.Resources.Reporting
import BuildFleet.Proofs.Blueprint.Daemon
import BuildFleet.Proofs.Blueprint.Ceiling
import BuildFleet.Proofs.Blueprint.Requests
import BuildFleet.Proofs.Blueprint.Warning
import BuildFleet.Proofs.Blueprint.Port
import BuildFleet.Proofs.Operator.Contract
import BuildFleet.Proofs.Operator.Cycle
import BuildFleet.Proofs.Operator.Account
import BuildFleet.Proofs.Operator.Resolution
import BuildFleet.Proofs.Operator.Endpoint
import BuildFleet.Proofs.Operator.Stability
import BuildFleet.Proofs.Status.Conditions
import BuildFleet.Proofs.Operator.Phases
import BuildFleet.Proofs.Operator.Coherence
import BuildFleet.Proofs.Operator.FailedCycle
import BuildFleet.Proofs.Blueprint.Isolation
import BuildFleet.Proofs.Pod.Layers
import BuildFleet.Proofs.Operator.Publication
import BuildFleet.Proofs.Operator.Shutdown
import BuildFleet.Proofs.Operator.Repetition
import BuildFleet.Proofs.Blueprint.Artifacts
import BuildFleet.Proofs.Kubernetes.Fields
import BuildFleet.Proofs.Pod.RoundTrip
import BuildFleet.Proofs.Pod.Decoding
import BuildFleet.Proofs.Quantity.Value
import BuildFleet.Proofs.Quantity.Range
import BuildFleet.Proofs.Quantity.Comparison
import BuildFleet.Proofs.Resources.Clamping
import BuildFleet.Proofs.Resources.Twice
import BuildFleet.Proofs.Pod.Conflicts
import BuildFleet.Proofs.Pod.Identity
import BuildFleet.Proofs.Pod.Maps
import BuildFleet.Proofs.Status.History
import BuildFleet.Proofs.Operator.Readiness
import BuildFleet.Proofs.Blueprint.Outcomes
import BuildFleet.Proofs.Blueprint.Rights
import BuildFleet.Proofs.Pod.Lists
import BuildFleet.Proofs.Template.Attributes
import BuildFleet.Proofs.Time.Calendar
import BuildFleet.Proofs.Time.Texts
import BuildFleet.Proofs.Json.MergePatch
import BuildFleet.Proofs.Status.Forms
import BuildFleet.Proofs.Operator.StatusPatch
import BuildFleet.Proofs.Network.Numbers
import BuildFleet.Proofs.Network.Texts
import BuildFleet.Proofs.Network.Authority
import BuildFleet.Proofs.Decimal.Shortest
import BuildFleet.Proofs.Json.Texts
import BuildFleet.Proofs.Quantity.Bare
