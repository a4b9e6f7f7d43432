import KernelRollout.Cluster.Memory

namespace KernelRollout

-- What others do to a cluster: users edit resources, administrators label nodes, and pods come and
-- go.
inductive Edit where
  | putOnload (o : Onload)
  | putNode (n : Node)
  | putPod (p : Pod)
  | putModule (m : KernelModule)
  | putDaemonSet (d : DaemonSet)
  | removeOnload (id : Identity)
  | removePod (id : Identity)
  | setNodeLabels (name : String) (labels : Labels)
  | finishTerminations
  | failNodePatches (name : String)
  | blockEviction (id : Identity)
  | clearActions

namespace Edit

def apply : Edit → Cluster → Cluster
  | putOnload o, c               => c.putOnload o
  | putNode n, c                 => c.putNode n
  | putPod p, c                  => c.putPod p
  | putModule m, c               => c.putModule m
  | putDaemonSet d, c            => c.putDaemonSet d
  | removeOnload id, c           => c.removeOnload id
  | removePod id, c              => c.removePod id
  | setNodeLabels name labels, c => c.setNodeLabels name labels
  | finishTerminations, c        => c.finishTerminations
  | failNodePatches name, c      => c.failNodePatches name
  | blockEviction id, c          => c.blockEviction id
  | clearActions, c              => c.clearActions

-- What an edit reports.
inductive Report where
  | nothing
  | existed (b : Bool)
  | removed (n : Nat)
deriving DecidableEq

def report : Edit → Cluster → Report
  | removeOnload id, c    => .existed (c.onloads.contains id)
  | removePod id, c       => .existed (c.pods.contains id)
  | finishTerminations, c => .removed (c.pods.size - c.finishTerminations.pods.size)
  | _, _                  => .nothing

def applyAll (es : List Edit) (c : Cluster) : Cluster := es.foldl (fun c e => e.apply c) c

end Edit

end KernelRollout
