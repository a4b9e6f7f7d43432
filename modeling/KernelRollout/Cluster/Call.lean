import KernelRollout.Cluster.Error
import KernelRollout.Query
import KernelRollout.Resource.DaemonSet
import KernelRollout.Resource.Node
import KernelRollout.Resource.Onload

namespace KernelRollout

-- What the operator asks of a cluster, with the type of the answer.
inductive Call : Type → Type where
  | getOnload (id : Identity) : Call (Option Onload)
  | patchOnloadStatus (id : Identity) (status : OnloadStatus) : Call Unit
  | listNodes (query : LabelQuery) : Call (List Node)
  | patchNodeLabels (node : Node) (changes : Node.LabelChanges) : Call Node
  | listPods (query : PodQuery) : Call (List Pod)
  | evictPod (id : Identity) : Call Unit
  | getModule (id : Identity) : Call (Option KernelModule)
  | createModule (m : KernelModule) : Call KernelModule
  | replaceModule (m : KernelModule) : Call KernelModule
  | deleteModule (id : Identity) : Call Unit
  | getDaemonSet (id : Identity) : Call (Option DaemonSet)
  | createDaemonSet (d : DaemonSet) : Call DaemonSet
  | replaceDaemonSet (d : DaemonSet) : Call DaemonSet

-- Calls without their arguments.
inductive Method where
  | getOnload
  | patchOnloadStatus
  | listNodes
  | patchNodeLabels
  | listPods
  | evictPod
  | getModule
  | createModule
  | replaceModule
  | deleteModule
  | getDaemonSet
  | createDaemonSet
  | replaceDaemonSet
deriving DecidableEq

def Call.method : Call α → Method
  | getOnload _           => .getOnload
  | patchOnloadStatus _ _ => .patchOnloadStatus
  | listNodes _           => .listNodes
  | patchNodeLabels _ _   => .patchNodeLabels
  | listPods _            => .listPods
  | evictPod _            => .evictPod
  | getModule _           => .getModule
  | createModule _        => .createModule
  | replaceModule _       => .replaceModule
  | deleteModule _        => .deleteModule
  | getDaemonSet _        => .getDaemonSet
  | createDaemonSet _     => .createDaemonSet
  | replaceDaemonSet _    => .replaceDaemonSet

-- Answers calls, one after the other, over a state of its own.
structure Client (σ : Type) where
  answer : {α : Type} → Call α → σ → Except ClusterError α × σ

end KernelRollout
