import KernelRollout.Cluster.Call
import KernelRollout.Cluster.Disturbed
import KernelRollout.Cluster.Edit
import KernelRollout.Cluster.Error
import KernelRollout.Cluster.Http
import KernelRollout.Cluster.Memory
import KernelRollout.Dict
import KernelRollout.Json.MergePatch
import KernelRollout.Json.Pointer
import KernelRollout.Json.Reader
import KernelRollout.Json.Record
import KernelRollout.Json.Value
import KernelRollout.Json.Writer
import KernelRollout.Json.Yaml
import KernelRollout.Main
import KernelRollout.Net.SocketAddress
import KernelRollout.Operator.Backoff
import KernelRollout.Operator.Error
import KernelRollout.Operator.Metrics
import KernelRollout.Operator.Probe
import KernelRollout.Operator.Settings
import KernelRollout.Operator.Watch
import KernelRollout.Query
import KernelRollout.Resource.DaemonSet
import KernelRollout.Resource.Definition
import KernelRollout.Resource.KernelModule
import KernelRollout.Resource.Metadata
import KernelRollout.Resource.Node
import KernelRollout.Resource.Onload
import KernelRollout.Resource.Pod
import KernelRollout.Resource.Schema
import KernelRollout.Rollout.Drain
import KernelRollout.Rollout.Marker
import KernelRollout.Rollout.Marking
import KernelRollout.Rollout.ModuleKind
import KernelRollout.Rollout.Operand
import KernelRollout.Rollout.Pass
import KernelRollout.Rollout.Provision
import KernelRollout.Rollout.Quantity
import KernelRollout.Rollout.Reconcile
import KernelRollout.Rollout.Renewal
import KernelRollout.Rollout.Sweep
import KernelRollout.Rollout.Target
import KernelRollout.Text.Blank
import KernelRollout.Text.Cut
import KernelRollout.Text.Numeral
import KernelRollout.Text.Quoted
import KernelRollout.Text.Scan
import KernelRollout.Text.Visible
import KernelRollout.Time.Duration
import KernelRollout.Time.Timestamp
import KernelRollout.Worker.ContainerId
import KernelRollout.Worker.Error
import KernelRollout.Worker.FileTree
import KernelRollout.Worker.KernelParameters
import KernelRollout.Worker.Settings
import KernelRollout.Worker.Wait
import KernelRollout.Proofs.Cluster.Keyed
import KernelRollout.Proofs.Cluster.Relabel
import KernelRollout.Proofs.Cluster.Names
import KernelRollout.Proofs.Cluster.Pointwise
import KernelRollout.Proofs.Cluster.Territory
import KernelRollout.Proofs.Cluster.OperandVersion
import KernelRollout.Proofs.Cluster.Log
import KernelRollout.Proofs.Cluster.Pods
import KernelRollout.Proofs.Cluster.Evictions
import KernelRollout.Proofs.Cluster.Lossy
import KernelRollout.Proofs.Cluster.History
import KernelRollout.Proofs.Cluster.Reaction
import KernelRollout.Proofs.Cluster.Selectors
import KernelRollout.Proofs.Rollout.Ensures
import KernelRollout.Proofs.Rollout.Routine
import KernelRollout.Proofs.Rollout.Relabelling
import KernelRollout.Proofs.Rollout.Progress
import KernelRollout.Proofs.Rollout.Sweep
import KernelRollout.Proofs.Rollout.Marking
import KernelRollout.Proofs.Rollout.Written
import KernelRollout.Proofs.Rollout.Operands
import KernelRollout.Proofs.Rollout.Drain
import KernelRollout.Proofs.Rollout.Effect
import KernelRollout.Proofs.Rollout.Run
import KernelRollout.Proofs.Rollout.InFlight
import KernelRollout.Proofs.Rollout.Order
import KernelRollout.Proofs.Rollout.OneByOne
import KernelRollout.Proofs.Rollout.Overtaking
import KernelRollout.Proofs.Rollout.Removal
import KernelRollout.Proofs.Rollout.Settled
import KernelRollout.Proofs.Rollout.Requesting
import KernelRollout.Proofs.Rollout.PartialRemoval
import KernelRollout.Proofs.Rollout.Remaining
import KernelRollout.Proofs.Rollout.Convergence
import KernelRollout.Proofs.Rollout.Remit
import KernelRollout.Proofs.Rollout.Answers
import KernelRollout.Proofs.Cluster.Abreast
import KernelRollout.Proofs.Rollout.Lockstep
import KernelRollout.Proofs.Cluster.Similar
import KernelRollout.Proofs.Rollout.Commutation
import KernelRollout.Proofs.Rollout.Fixpoint
import KernelRollout.Proofs.Rollout.Reporting
import KernelRollout.Proofs.Rollout.Eviction
import KernelRollout.Proofs.Rollout.Draining
import KernelRollout.Proofs.Rollout.Counting
import KernelRollout.Proofs.Rollout.AsBuilt
import KernelRollout.Proofs.Rollout.Identities
import KernelRollout.Proofs.Rollout.Quantity
import KernelRollout.Proofs.Rollout.Arguments
import KernelRollout.Proofs.Rollout.OnRecord
import KernelRollout.Proofs.Rollout.KernelMappings
import KernelRollout.Proofs.Text.Blank
import KernelRollout.Proofs.Text.Numeral
import KernelRollout.Proofs.Text.Occurrences
import KernelRollout.Proofs.Time.Timestamp
import KernelRollout.Proofs.Json.Fields
import KernelRollout.Proofs.Json.Labels
import KernelRollout.Proofs.Json.MergePatch
import KernelRollout.Proofs.Resource.RoundTrip
import KernelRollout.Proofs.Cluster.LabelPatch
import KernelRollout.Proofs.Operator.Deletions
import KernelRollout.Proofs.Operator.Backoff
import KernelRollout.Proofs.Operator.Retries
import KernelRollout.Proofs.Operator.Settings
import KernelRollout.Proofs.Worker.Wait
import KernelRollout.Proofs.Worker.ContainerId
