import KernelRollout.Cluster.Call
import KernelRollout.Json.Reader
import KernelRollout.Text.Quoted

namespace KernelRollout.Http

structure Request where
  method      : String
  path        : String
  query       : List (String × String) := []
  contentType : Option String := none
  body        : Option Json := none

inductive Answer where
  | response (status : Nat) (body : String)
  -- The connection broke.
  | broken

def collection (group plural : String) : Option String → String
  | none    => group ++ "/" ++ plural
  | some ns => group ++ "/namespaces/" ++ ns ++ "/" ++ plural

def onloads (ns : String) : String := collection "/apis/onload.amd.com/v1alpha1" "onloads" ns

def modules (ns : String) : String := collection "/apis/kmm.sigs.x-k8s.io/v1beta1" "modules" ns

def daemonSets (ns : String) : String := collection "/apis/apps/v1" "daemonsets" ns

def pods (ns : Option String) : String := collection "/api/v1" "pods" ns

def nodes : String := collection "/api/v1" "nodes" none

-- An object of a collection. Without a name there is no request.
def item (collection name : String) (request : String → Request) : Except ClusterError Request :=
  if name = "" then .error .transport else .ok (request (collection ++ "/" ++ name))

def get (path : String) : Request := { method := "GET", path }

def withBody (method type path : String) (body : Json) : Request :=
  { method, path, contentType := some type, body := some body }

def mergePatch (body : Json) (path : String) : Request :=
  withBody "PATCH" "application/merge-patch+json" path body

def json (method : String) (body : Json) (path : String) : Request :=
  withBody method "application/json" path body

-- The selectors of a list, as far as there are any, by name.
def listQuery (labels : LabelQuery) (fields : Option String) : List (String × String) :=
  (fields.map fun f => [("fieldSelector", f)]).getD [] ++
  (if labels.text = "" then [] else [("labelSelector", labels.text)])

-- With the version of the snapshot the server refuses the patch if the node has changed since.
def labelPatch (node : Node) (changes : Node.LabelChanges) : Json :=
  .obj [("metadata", .obj (
    Fields.always "labels" (Json.ofDict (Json.option .str) changes) ++
    Fields.whenSet "resourceVersion" .str node.metadata.resourceVersion))]

def eviction (name : String) : Json :=
  .obj [("delete_options", .null), ("metadata", .obj [("name", .str name)])]

-- Objects are written into a namespace, which has to be known.
def namespaceOf (m : Metadata) : Except ClusterError String :=
  match m.ns with
  | some ns => .ok ns
  | none    => .error (.api (m.name.getD "<unnamed>" ++ " has no namespace"))

-- Every call is one request.
def request : {α : Type} → Call α → Except ClusterError Request
  | _, .getOnload id => item (onloads id.ns) id.name get
  | _, .patchOnloadStatus id status =>
    item (onloads id.ns) id.name fun path =>
      mergePatch (.obj [("status", Json.onloadStatus status)]) (path ++ "/status")
  | _, .listNodes q => .ok { get nodes with query := listQuery q none }
  | _, .patchNodeLabels node changes => item nodes node.name (mergePatch (labelPatch node changes))
  | _, .listPods q => .ok { get (pods q.ns) with query := listQuery q.labels q.fieldText }
  | _, .evictPod id =>
    item (pods id.ns) id.name fun path => json "POST" (eviction id.name) (path ++ "/eviction")
  | _, .getModule id => item (modules id.ns) id.name get
  | _, .createModule m => do
    return json "POST" (Json.kernelModule m) (modules (← namespaceOf m.metadata))
  | _, .replaceModule m => do
    item (modules (← namespaceOf m.metadata)) (m.metadata.name.getD "") (json "PUT" (Json.kernelModule m))
  | _, .deleteModule id => item (modules id.ns) id.name (json "DELETE" (.obj []))
  | _, .getDaemonSet id => item (daemonSets id.ns) id.name get
  | _, .createDaemonSet d => do
    return json "POST" (Json.daemonSet d) (daemonSets (← namespaceOf d.metadata))
  | _, .replaceDaemonSet d => do
    item (daemonSets (← namespaceOf d.metadata)) (d.metadata.name.getD "") (json "PUT" (Json.daemonSet d))

-- What a call does, and to which object, for the texts of errors.
def operation : {α : Type} → Call α → String × String
  | _, .getOnload id           => ("get", "Onload " ++ id.text)
  | _, .patchOnloadStatus id _ => ("patch status", "Onload " ++ id.text)
  | _, .listNodes _            => ("list", "nodes")
  | _, .patchNodeLabels node _ => ("patch labels", "Node " ++ node.name)
  | _, .listPods _             => ("list", "pods")
  | _, .evictPod id            => ("evict", "Pod " ++ id.text)
  | _, .getModule id           => ("get", "Module " ++ id.text)
  | _, .createModule m         => ("create", "Module " ++ m.metadata.identity.text)
  | _, .replaceModule m        => ("replace", "Module " ++ m.metadata.identity.text)
  | _, .deleteModule id        => ("delete", "Module " ++ id.text)
  | _, .getDaemonSet id        => ("get", "DaemonSet " ++ id.text)
  | _, .createDaemonSet d      => ("create", "DaemonSet " ++ d.metadata.identity.text)
  | _, .replaceDaemonSet d     => ("replace", "DaemonSet " ++ d.metadata.identity.text)

-- What a server says about a request that it did not answer with an object.
structure Status where
  code    : Nat
  reason  : String
  message : String

def code? : Json.Read Nat := fun v => (Json.intBetween? 0 65535 v).map Int.toNat

def summary? : Json.Read String := fun v =>
  (Json.string? v).filter fun s => s = "Success" || s = "Failure"

def status? : Json.Read Status := fun v => do
  let f ← Json.record? ["status", "code", "message", "metadata", "reason", "details"] v
  let _ ← f.optional "status" summary?
  let _ ← f.optional "metadata" Json.object?
  let _ ← f.optional "details" Json.object?
  some {
    code    := ← f.defaulted "code" 0 code?
    reason  := ← f.defaulted "reason" "" Json.string?
    message := ← f.defaulted "message" "" Json.string?
  }

-- A refusal has to say what became of the request, and its code.
def refusal? : Json.Read Status := fun v => do
  let f ← Json.record? ["status", "message", "reason", "code"] v
  let _ ← f.required "status" Json.string?
  some {
    code    := ← f.required "code" code?
    reason  := ← f.defaulted "reason" "" Json.string?
    message := ← f.defaulted "message" "" Json.string?
  }

-- The refusal in the body of an error, or one that quotes the body.
def failureStatus (status : Nat) (body : String) : Status :=
  match (Json.parse body).bind refusal? with
  | some s => s
  | none   => ⟨status, "Failed to parse error data", Text.quoted body⟩

def items? (read : Json.Read α) : Json.Read (List α) := fun v => do
  let f ← Json.object? v
  let _ ← f.defaulted "metadata" [] Json.object?
  let items ← f.required "items" (Json.nullable? (Json.list? read))
  return items.getD []

-- A status in place of the object.
def statusOr? (read : Json.Read α) : Json.Read Unit := fun v =>
  match v.get? "kind" with
  | some (.str "Status") => (status? v).map fun _ => ()
  | _                    => (read v).map fun _ => ()

def object? : {α : Type} → Call α → Json.Read α
  | _, .getOnload _           => fun v => some <$> Json.onload? v
  | _, .patchOnloadStatus _ _ => fun v => (Json.onload? v).map fun _ => ()
  | _, .listNodes _           => items? Json.node?
  | _, .patchNodeLabels _ _   => Json.node?
  | _, .listPods _            => items? Json.pod?
  | _, .evictPod _            => fun v => (status? v).map fun _ => ()
  | _, .getModule _           => fun v => some <$> Json.kernelModule? v
  | _, .createModule _        => Json.kernelModule?
  | _, .replaceModule _       => Json.kernelModule?
  | _, .deleteModule _        => statusOr? Json.kernelModule?
  | _, .getDaemonSet _        => fun v => some <$> Json.daemonSet? v
  | _, .createDaemonSet _     => Json.daemonSet?
  | _, .replaceDaemonSet _    => Json.daemonSet?

-- Reading gives nothing when the server names the reason, whatever the code.
def nothingFound (s : Status) : Bool := s.reason = "NotFound"

-- What is gone need not be removed. Here the code decides.
def alreadyGone (s : Status) : Bool := s.code = 404

-- The answer to a call for an object that does not exist, as far as the call has one.
def absent? : {α : Type} → Call α → Status → Option α
  | _, .getOnload _, s    => if nothingFound s then some none else none
  | _, .getModule _, s    => if nothingFound s then some none else none
  | _, .getDaemonSet _, s => if nothingFound s then some none else none
  | _, .evictPod _, s     => if alreadyGone s then some () else none
  | _, .deleteModule _, s => if alreadyGone s then some () else none
  | _, _, _               => none

def errorOf {α : Type} (call : Call α) (s : Status) : ClusterError :=
  match call with
  | .evictPod _ => .ofEvictionStatus s.code s.reason s.message (operation call).2
  | _           => .ofStatus s.code s.reason s.message (operation call).2

def failure {α : Type} (call : Call α) (s : Status) : Except ClusterError α :=
  match absent? call s with
  | some a => .ok a
  | none   => .error (errorOf call s)

def isFailure (status : Nat) : Bool := 400 ≤ status && status < 600

def answered {α : Type} (call : Call α) : Answer → Except ClusterError α
  | .broken => .error .transport
  | .response status body =>
    if isFailure status then failure call (failureStatus status body)
    else
      match (Json.parse body).bind (object? call) with
      | some a => .ok a
      | none   => .error .transport

-- Times are in milliseconds.
structure Exchange (α : Type) where
  result   : α
  requests : List Request
  elapsed  : Nat

-- An answer that comes by the end of the time allowed for the call is taken.
def perform {α : Type} (timeout : Nat) (answer : Option (Nat × Answer)) (call : Call α) :
    Exchange (Except ClusterError α) :=
  match request call with
  | .error e => ⟨.error e, [], 0⟩
  | .ok r =>
    let late : Exchange (Except ClusterError α) :=
      let (verb, object) := operation call
      ⟨.error (.timeout (verb ++ " " ++ object) (timeout / 1000)), [r], timeout⟩
    match answer with
    | none => late
    | some (delay, a) => if delay ≤ timeout then ⟨answered call a, [r], delay⟩ else late

-- A pod read without a bound on the time. All failures look alike.
def readPod (answer : Option (Nat × Answer)) (id : Identity) : Exchange (Option Pod) :=
  match item (pods id.ns) id.name get with
  | .error _ => ⟨none, [], 0⟩
  | .ok r =>
    match answer with
    | some (delay, .response status body) =>
      ⟨if isFailure status then none else (Json.parse body).bind Json.pod?, [r], delay⟩
    | some (delay, .broken) => ⟨none, [r], delay⟩
    | none => ⟨none, [r], 0⟩

end KernelRollout.Http
