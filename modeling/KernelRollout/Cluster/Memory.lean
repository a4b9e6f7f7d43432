import KernelRollout.Cluster.Call
import KernelRollout.Text.Quoted

namespace KernelRollout

inductive OperandKind where
  | module
  | daemonSet
deriving DecidableEq

namespace OperandKind

def text : OperandKind → String
  | module    => "module"
  | daemonSet => "daemonset"

end OperandKind

-- A write, as the log keeps it.
inductive Action where
  | patchNode (name : String) (changes : Node.LabelChanges)
  | evictPod (id : Identity)
  | patchOnloadStatus (id : Identity)
  | create (kind : OperandKind) (id : Identity)
  | replace (kind : OperandKind) (id : Identity)
  | delete (kind : OperandKind) (id : Identity)
deriving DecidableEq

namespace Action

def changeText (key : String) : Option String → String
  | some v => key ++ "=" ++ v
  | none   => "-" ++ key

def text : Action → String
  | patchNode name changes =>
    "patch node/" ++ name ++ " " ++
      ",".intercalate (changes.toList.map fun c => changeText c.1 c.2)
  | evictPod id          => "evict pod/" ++ id.text
  | patchOnloadStatus id => "patch onload-status/" ++ id.text
  | create kind id       => "create " ++ kind.text ++ "/" ++ id.text
  | replace kind id      => "replace " ++ kind.text ++ "/" ++ id.text
  | delete kind id       => "delete " ++ kind.text ++ "/" ++ id.text

end Action

-- All objects carry versions from one counter, so that a write with the version of an object that
-- has changed since is refused. `version` is the last one that was given out.
structure Cluster where
  onloads          : Dict Identity Onload := .empty
  nodes            : Dict String Node := .empty
  pods             : Dict Identity Pod := .empty
  modules          : Dict Identity KernelModule := .empty
  daemonSets       : Dict Identity DaemonSet := .empty
  failingNodes     : List String := []
  blockedEvictions : List Identity := []
  actions          : List Action := []
  version          : Nat := 0
deriving Inhabited

namespace Cluster

variable {α : Type}

def versionText (n : Nat) : String := toString n

-- The identifier of a new object, from its version with blanks up to six places.
def uidText (n : Nat) : String :=
  let digits := versionText n
  "uid-" ++ digits.pushn ' ' (6 - digits.length)

def nextVersion (c : Cluster) : Cluster := { c with version := c.version + 1 }

def log (c : Cluster) (a : Action) : Cluster := { c with actions := c.actions ++ [a] }

def withVersion (m : Metadata) (n : Nat) : Metadata := { m with resourceVersion := some (versionText n) }

-- A new object gets a version, and an identifier unless it has one.
def admitted [Resource α] (a : α) (n : Nat) : α :=
  let m := Resource.metadata a
  Resource.withMetadata a (withVersion { m with uid := some (m.uid.getD (uidText n)) } n)

def idOf [Resource α] (a : α) : Identity := (Resource.metadata a).identity

-- Edits from outside are not logged.
def putOnload (c : Cluster) (o : Onload) : Cluster :=
  let c := c.nextVersion
  { c with onloads := c.onloads.insert (idOf o) (admitted o c.version) }

def putNode (c : Cluster) (n : Node) : Cluster :=
  let c := c.nextVersion
  { c with nodes := c.nodes.insert n.name (admitted n c.version) }

def putPod (c : Cluster) (p : Pod) : Cluster :=
  let c := c.nextVersion
  { c with pods := c.pods.insert (idOf p) (admitted p c.version) }

def putModule (c : Cluster) (m : KernelModule) : Cluster :=
  let c := c.nextVersion
  { c with modules := c.modules.insert (idOf m) (admitted m c.version) }

def putDaemonSet (c : Cluster) (d : DaemonSet) : Cluster :=
  let c := c.nextVersion
  { c with daemonSets := c.daemonSets.insert (idOf d) (admitted d c.version) }

def removeOnload (c : Cluster) (id : Identity) : Cluster := { c with onloads := c.onloads.erase id }

def removePod (c : Cluster) (id : Identity) : Cluster := { c with pods := c.pods.erase id }

-- A version is given out even when the node does not exist.
def setNodeLabels (c : Cluster) (name : String) (labels : Labels) : Cluster :=
  let c := c.nextVersion
  { c with
    nodes := c.nodes.modify name fun n =>
      { n with metadata := withVersion { n.metadata with labels := some labels } c.version } }

-- All pods that are terminating are gone.
def finishTerminations (c : Cluster) : Cluster :=
  { c with pods := c.pods.filter fun _ p => !p.metadata.terminating }

def failNodePatches (c : Cluster) (name : String) : Cluster :=
  { c with failingNodes := name :: c.failingNodes }

def blockEviction (c : Cluster) (id : Identity) : Cluster :=
  { c with blockedEvictions := id :: c.blockedEvictions }

def clearActions (c : Cluster) : Cluster := { c with actions := [] }

def patchOnloadStatus (c : Cluster) (id : Identity) (status : OnloadStatus) :
    Except ClusterError Unit × Cluster :=
  let c := c.nextVersion
  match c.onloads.get? id with
  | none => (.error (.notFound ("Onload " ++ id.text)), c)
  | some o =>
    let o := { o with status := some status, metadata := withVersion o.metadata c.version }
    (.ok (), { c with onloads := c.onloads.insert id o }.log (.patchOnloadStatus id))

def listNodes (c : Cluster) (q : LabelQuery) : List Node :=
  c.nodes.values.filter fun n => q.selects n.metadata.labels

-- The snapshot was read before somebody else wrote the object.
def stale (snapshot stored : Metadata) : Bool :=
  snapshot.resourceVersion.isSome && snapshot.resourceVersion ≠ stored.resourceVersion

def patchNodeLabels (c : Cluster) (node : Node) (changes : Node.LabelChanges) :
    Except ClusterError Node × Cluster :=
  let name := node.name
  if c.failingNodes.contains name then
    (.error (.api ("InternalError (500) on Node " ++ name ++ ": injected failure")), c)
  else
    match c.nodes.get? name with
    | none => (.error (.notFound ("Node " ++ name)), c)
    | some stored =>
      if stale node.metadata stored.metadata then
        (.error (.conflict ("Node " ++ name ++ ": resourceVersion " ++
          Text.quotedOption node.metadata.resourceVersion ++ " is stale, current is " ++
          Text.quotedOption stored.metadata.resourceVersion)), c)
      else
        let c := c.nextVersion.log (.patchNode name changes)
        let labels := Node.changeLabels (stored.metadata.labels.getD .empty) changes
        let updated : Node :=
          { stored with metadata := withVersion { stored.metadata with labels := some labels } c.version }
        (.ok updated, { c with nodes := c.nodes.insert name updated })

def listPods (c : Cluster) (q : PodQuery) : List Pod :=
  (c.pods.toList.filter fun (id, p) =>
    q.ns.all (· = id.ns) && q.labels.selects p.metadata.labels &&
      q.node.all (p.nodeName? = some ·)).map (·.2)

-- Evicted pods are marked as terminating since this point in time.
def evictionTime : Timestamp := ⟨⟨⟨2024, 1, 1⟩, 0, 0, 0, 0⟩, by decide⟩

def evictPod (c : Cluster) (id : Identity) : Except ClusterError Unit × Cluster :=
  if c.blockedEvictions.contains id then
    (.error (.evictionBlocked ("Pod " ++ id.text ++
      ": Cannot evict pod as it would violate the pod's disruption budget")), c)
  else
    match c.pods.get? id with
    | none => (.ok (), c)
    | some p =>
      if p.metadata.terminating then (.ok (), c)
      else
        let c := c.nextVersion.log (.evictPod id)
        let p := { p with
          metadata := withVersion { p.metadata with deletionTimestamp := some evictionTime } c.version }
        (.ok (), { c with pods := c.pods.insert id p })

-- Where operands of a kind are stored.
structure Store (α : Type) where
  kind : OperandKind
  get  : Cluster → Dict Identity α
  set  : Cluster → Dict Identity α → Cluster

def moduleStore : Store KernelModule :=
  ⟨.module, modules, fun c d => { c with modules := d }⟩

def daemonSetStore : Store DaemonSet :=
  ⟨.daemonSet, daemonSets, fun c d => { c with daemonSets := d }⟩

def create [Resource α] (s : Store α) (c : Cluster) (a : α) : Except ClusterError α × Cluster :=
  let id := idOf a
  if (s.get c).contains id then
    (.error (.conflict (s.kind.text ++ " " ++ id.text ++ " already exists")), c)
  else
    let c := c.nextVersion.log (.create s.kind id)
    let created := admitted a c.version
    (.ok created, s.set c ((s.get c).insert id created))

def replace [Resource α] (s : Store α) (c : Cluster) (a : α) : Except ClusterError α × Cluster :=
  let id := idOf a
  match (s.get c).get? id with
  | none => (.error (.notFound (s.kind.text ++ " " ++ id.text)), c)
  | some stored =>
    if stale (Resource.metadata a) (Resource.metadata stored) then
      (.error (.conflict (s.kind.text ++ " " ++ id.text ++ " was modified")), c)
    else
      let c := c.nextVersion.log (.replace s.kind id)
      let replaced := Resource.withMetadata a (withVersion (Resource.metadata a) c.version)
      (.ok replaced, s.set c ((s.get c).insert id replaced))

-- Deleting what is not there changes nothing.
def delete (s : Store α) (c : Cluster) (id : Identity) : Cluster :=
  if (s.get c).contains id then (s.set c ((s.get c).erase id)).log (.delete s.kind id) else c

def answer : {α : Type} → Call α → Cluster → Except ClusterError α × Cluster
  | _, .getOnload id, c                => (.ok (c.onloads.get? id), c)
  | _, .patchOnloadStatus id status, c => c.patchOnloadStatus id status
  | _, .listNodes q, c                 => (.ok (c.listNodes q), c)
  | _, .patchNodeLabels node ch, c     => c.patchNodeLabels node ch
  | _, .listPods q, c                  => (.ok (c.listPods q), c)
  | _, .evictPod id, c                 => c.evictPod id
  | _, .getModule id, c                => (.ok (c.modules.get? id), c)
  | _, .createModule m, c              => create moduleStore c m
  | _, .replaceModule m, c             => replace moduleStore c m
  | _, .deleteModule id, c             => (.ok (), delete moduleStore c id)
  | _, .getDaemonSet id, c             => (.ok (c.daemonSets.get? id), c)
  | _, .createDaemonSet d, c           => create daemonSetStore c d
  | _, .replaceDaemonSet d, c          => replace daemonSetStore c d

def client : Client Cluster := ⟨answer⟩

-- The operands of a kind in a namespace.
def operandsIn (s : Store α) (c : Cluster) (ns : String) : List α :=
  ((s.get c).filter fun id _ => id.ns = ns).values

end Cluster

end KernelRollout
