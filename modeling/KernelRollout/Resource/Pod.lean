import KernelRollout.Resource.Metadata

namespace KernelRollout

structure ResourceRequirements where
  requests : Option Labels := none
  limits   : Option Labels := none
deriving DecidableEq, Inhabited

structure VolumeMount where
  name      : String
  mountPath : String
deriving DecidableEq, Inhabited

structure Container where
  name            : String
  image           : Option String := none
  imagePullPolicy : Option String := none
  command         : Option (List String) := none
  args            : Option (List String) := none
  privileged      : Option (Option Bool) := none
  volumeMounts    : Option (List VolumeMount) := none
  resources       : Option ResourceRequirements := none
deriving DecidableEq, Inhabited

structure HostPath where
  path : String
  type : Option String
deriving DecidableEq, Inhabited

structure Volume where
  name     : String
  hostPath : Option HostPath := none
deriving DecidableEq, Inhabited

structure NodeRequirement where
  key      : String
  operator : String
  values   : Option (List String) := none
deriving DecidableEq, Inhabited

structure NodeSelectorTerm where
  matchExpressions : Option (List NodeRequirement) := none
deriving DecidableEq, Inhabited

structure NodeAffinity where
  required : Option (List NodeSelectorTerm) := none
deriving DecidableEq, Inhabited

structure Affinity where
  nodeAffinity : Option NodeAffinity := none
deriving DecidableEq, Inhabited

structure PodSpec where
  nodeName           : Option String := none
  serviceAccountName : Option String := none
  hostNetwork        : Option Bool := none
  affinity           : Option Affinity := none
  initContainers     : Option (List Container) := none
  containers         : List Container := []
  volumes            : Option (List Volume) := none
deriving DecidableEq, Inhabited

structure Running where
  startedAt : Option Timestamp := none
deriving DecidableEq, Inhabited

structure Waiting where
  message : Option String := none
  reason  : Option String := none
deriving DecidableEq, Inhabited

structure Terminated where
  exitCode   : Int32 := 0
  signal     : Option Int32 := none
  reason     : Option String := none
  message    : Option String := none
  startedAt  : Option Timestamp := none
  finishedAt : Option Timestamp := none
deriving DecidableEq, Inhabited

structure ContainerState where
  running    : Option Running := none
  waiting    : Option Waiting := none
  terminated : Option Terminated := none
deriving DecidableEq, Inhabited

structure ContainerStatus where
  name         : String := ""
  ready        : Bool := false
  started      : Option Bool := none
  restartCount : Int32 := 0
  image        : String := ""
  imageID      : String := ""
  containerID  : Option String := none
  state        : Option ContainerState := none
deriving DecidableEq, Inhabited

structure PodStatus where
  phase             : Option String := none
  containerStatuses : Option (List ContainerStatus) := none
deriving DecidableEq, Inhabited

structure Pod where
  metadata : Metadata := {}
  spec     : Option PodSpec := none
  status   : Option PodStatus := none
deriving DecidableEq, Inhabited

namespace Pod

instance : Resource Pod where
  apiVersion   := "v1"
  kind         := "Pod"
  metadata     := metadata
  withMetadata := fun p m => { p with metadata := m }

-- A pod on a node, with one container.
def onNode (id : Identity) (node : String) (labels : Labels) : Pod where
  metadata := { name := some id.name, ns := some id.ns, labels := some labels }
  spec     := some { nodeName := some node, containers := [{ name := "main", image := some "busybox" }] }

-- The first container asks for an amount of a resource, and gets no more than that.
def requesting (p : Pod) (resource amount : String) : Pod :=
  let amounts : Labels := Dict.empty.insert resource amount
  let request (c : Container) : Container :=
    { c with resources := some { requests := some amounts, limits := some amounts } }
  { p with spec := p.spec.map fun s => { s with containers := s.containers.modifyHead request } }

def nodeName? (p : Pod) : Option String := p.spec.bind (·.nodeName)

def phase? (p : Pod) : Option String := p.status.bind (·.phase)

-- A finished pod no longer holds its resources.
def finished (p : Pod) : Bool := p.phase? = some "Succeeded" || p.phase? = some "Failed"

end Pod

namespace Json

open Fields (always whenSet whenFilled)

def resourceRequirements? : Read ResourceRequirements := fun v => do
  let f ← object? v
  some {
    requests := ← f.optional "requests" labels?
    limits   := ← f.optional "limits" labels?
  }

def resourceRequirements (r : ResourceRequirements) : Json :=
  obj <| whenSet "limits" labels r.limits ++ whenSet "requests" labels r.requests

def volumeMount? : Read VolumeMount := fun v => do
  let f ← object? v
  some {
    name      := ← f.lenient "name" "" string?
    mountPath := ← f.lenient "mountPath" "" string?
  }

def volumeMount (m : VolumeMount) : Json :=
  obj <| always "mountPath" (str m.mountPath) ++ always "name" (str m.name)

-- The privilege is the one setting of a security context.
def securityContext? : Read (Option Bool) := fun v => do
  (← object? v).optional "privileged" bool?

def securityContext (privileged : Option Bool) : Json := obj <| whenSet "privileged" bool privileged

def container? : Read Container := fun v => do
  let f ← object? v
  some {
    name            := ← f.lenient "name" "" string?
    image           := ← f.optional "image" string?
    imagePullPolicy := ← f.optional "imagePullPolicy" string?
    command         := ← f.optional "command" (list? string?)
    args            := ← f.optional "args" (list? string?)
    privileged      := ← f.optional "securityContext" securityContext?
    volumeMounts    := ← f.optional "volumeMounts" (list? volumeMount?)
    resources       := ← f.optional "resources" resourceRequirements?
  }

def container (c : Container) : Json :=
  obj <|
    whenSet "args" strings c.args ++
    whenSet "command" strings c.command ++
    whenSet "image" str c.image ++
    whenSet "imagePullPolicy" str c.imagePullPolicy ++
    always "name" (str c.name) ++
    whenSet "resources" resourceRequirements c.resources ++
    whenSet "securityContext" securityContext c.privileged ++
    whenSet "volumeMounts" (fun ms => arr (ms.map volumeMount)) c.volumeMounts

def hostPath? : Read HostPath := fun v => do
  let f ← object? v
  some { path := ← f.lenient "path" "" string?, type := ← f.optional "type" string? }

def hostPath (h : HostPath) : Json :=
  obj <| always "path" (str h.path) ++ whenSet "type" str h.type

def volume? : Read Volume := fun v => do
  let f ← object? v
  some { name := ← f.lenient "name" "" string?, hostPath := ← f.optional "hostPath" hostPath? }

def volume (v : Volume) : Json :=
  obj <| whenSet "hostPath" hostPath v.hostPath ++ always "name" (str v.name)

def nodeRequirement? : Read NodeRequirement := fun v => do
  let f ← object? v
  some {
    key      := ← f.lenient "key" "" string?
    operator := ← f.lenient "operator" "" string?
    values   := ← f.optional "values" (list? string?)
  }

def nodeRequirement (r : NodeRequirement) : Json :=
  obj <|
    always "key" (str r.key) ++ always "operator" (str r.operator) ++
    whenSet "values" strings r.values

def nodeSelectorTerm? : Read NodeSelectorTerm := fun v => do
  let f ← object? v
  some { matchExpressions := ← f.optional "matchExpressions" (list? nodeRequirement?) }

def nodeSelectorTerm (t : NodeSelectorTerm) : Json :=
  obj <| whenSet "matchExpressions" (fun rs => arr (rs.map nodeRequirement)) t.matchExpressions

def nodeSelector? : Read (List NodeSelectorTerm) := fun v => do
  (← object? v).lenient "nodeSelectorTerms" [] (list? nodeSelectorTerm?)

def nodeSelector (ts : List NodeSelectorTerm) : Json :=
  obj <| always "nodeSelectorTerms" (arr (ts.map nodeSelectorTerm))

def nodeAffinity? : Read NodeAffinity := fun v => do
  let f ← object? v
  some { required := ← f.optional "requiredDuringSchedulingIgnoredDuringExecution" nodeSelector? }

def nodeAffinity (a : NodeAffinity) : Json :=
  obj <| whenSet "requiredDuringSchedulingIgnoredDuringExecution" nodeSelector a.required

def affinity? : Read Affinity := fun v => do
  let f ← object? v
  some { nodeAffinity := ← f.optional "nodeAffinity" nodeAffinity? }

def affinity (a : Affinity) : Json := obj <| whenSet "nodeAffinity" nodeAffinity a.nodeAffinity

def podSpec? : Read PodSpec := fun v => do
  let f ← object? v
  some {
    nodeName           := ← f.optional "nodeName" string?
    serviceAccountName := ← f.optional "serviceAccountName" string?
    hostNetwork        := ← f.optional "hostNetwork" bool?
    affinity           := ← f.optional "affinity" affinity?
    initContainers     := ← f.optional "initContainers" (list? container?)
    containers         := ← f.lenient "containers" [] (list? container?)
    volumes            := ← f.optional "volumes" (list? volume?)
  }

def podSpec (s : PodSpec) : Json :=
  obj <|
    whenSet "affinity" affinity s.affinity ++
    always "containers" (arr (s.containers.map container)) ++
    whenSet "hostNetwork" bool s.hostNetwork ++
    whenSet "initContainers" (fun cs => arr (cs.map container)) s.initContainers ++
    whenSet "nodeName" str s.nodeName ++
    whenSet "serviceAccountName" str s.serviceAccountName ++
    whenSet "volumes" (fun vs => arr (vs.map volume)) s.volumes

def running? : Read Running := fun v => do
  some { startedAt := ← (← object? v).optional "startedAt" timestamp? }

def wholeTimestamp (t : Timestamp) : Json := str t.wholeText

def running (r : Running) : Json := obj <| whenSet "startedAt" wholeTimestamp r.startedAt

def waiting? : Read Waiting := fun v => do
  let f ← object? v
  some { message := ← f.optional "message" string?, reason := ← f.optional "reason" string? }

def waiting (w : Waiting) : Json :=
  obj <| whenSet "message" str w.message ++ whenSet "reason" str w.reason

def terminated? : Read Terminated := fun v => do
  let f ← object? v
  some {
    exitCode   := ← f.lenient "exitCode" 0 int32?
    signal     := ← f.optional "signal" int32?
    reason     := ← f.optional "reason" string?
    message    := ← f.optional "message" string?
    startedAt  := ← f.optional "startedAt" timestamp?
    finishedAt := ← f.optional "finishedAt" timestamp?
  }

def terminated (t : Terminated) : Json :=
  obj <|
    always "exitCode" (int32 t.exitCode) ++
    whenSet "finishedAt" wholeTimestamp t.finishedAt ++
    whenSet "message" str t.message ++
    whenSet "reason" str t.reason ++
    whenSet "signal" int32 t.signal ++
    whenSet "startedAt" wholeTimestamp t.startedAt

def containerState? : Read ContainerState := fun v => do
  let f ← object? v
  some {
    running    := ← f.optional "running" running?
    waiting    := ← f.optional "waiting" waiting?
    terminated := ← f.optional "terminated" terminated?
  }

def containerState (s : ContainerState) : Json :=
  obj <|
    whenSet "running" running s.running ++
    whenSet "terminated" terminated s.terminated ++
    whenSet "waiting" waiting s.waiting

def containerStatus? : Read ContainerStatus := fun v => do
  let f ← object? v
  some {
    name         := ← f.lenient "name" "" string?
    ready        := ← f.lenient "ready" false bool?
    started      := ← f.optional "started" bool?
    restartCount := ← f.lenient "restartCount" 0 int32?
    image        := ← f.lenient "image" "" string?
    imageID      := ← f.lenient "imageID" "" string?
    containerID  := ← f.optional "containerID" string?
    state        := ← f.optional "state" containerState?
  }

def containerStatus (s : ContainerStatus) : Json :=
  obj <|
    whenSet "containerID" str s.containerID ++
    always "image" (str s.image) ++
    always "imageID" (str s.imageID) ++
    always "name" (str s.name) ++
    always "ready" (bool s.ready) ++
    always "restartCount" (int32 s.restartCount) ++
    whenSet "started" bool s.started ++
    whenSet "state" containerState s.state

def podStatus? : Read PodStatus := fun v => do
  let f ← object? v
  some {
    phase             := ← f.optional "phase" string?
    containerStatuses := ← f.optional "containerStatuses" (list? containerStatus?)
  }

def podStatus (s : PodStatus) : Json :=
  obj <|
    whenSet "containerStatuses" (fun ss => arr (ss.map containerStatus)) s.containerStatuses ++
    whenSet "phase" str s.phase

def pod? : Read Pod := fun v => do
  let f ← ofKind? Pod v
  some {
    metadata := ← f.lenient "metadata" {} metadata?
    spec     := ← f.optional "spec" podSpec?
    status   := ← f.optional "status" podStatus?
  }

def pod (p : Pod) : Json :=
  obj <|
    typeFields Pod ++
    always "metadata" (metadata p.metadata) ++
    whenSet "spec" podSpec p.spec ++
    whenSet "status" podStatus p.status

end Json

end KernelRollout
