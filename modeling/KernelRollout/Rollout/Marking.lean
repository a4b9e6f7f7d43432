import KernelRollout.Rollout.Sweep

namespace KernelRollout.Marking

variable {σ : Type}

-- Puts a node in front of all that do not come before it.
def insertByName (n : Node) : List Node → List Node
  | [] => [n]
  | m :: ms => if n.name ≤ m.name then n :: m :: ms else m :: insertByName n ms

-- Nodes of one name keep their order.
def sortByName : List Node → List Node
  | [] => []
  | n :: ns => insertByName n (sortByName ns)

-- The selected nodes by name.
def selectedNodes (s : Setup σ) (t : Target) : Pass σ (List Node) := do
  sortByName <$> Pass.call s (.listNodes t.selector)

def setLabel (s : Setup σ) (n : Node) (key value : String) : Pass σ Node :=
  Pass.call s (.patchNodeLabels n (Dict.empty.insert key (some value)))

def unsetLabel (s : Setup σ) (n : Node) (key : String) : Pass σ Node :=
  Pass.call s (.patchNodeLabels n (Sweep.unset key))

def loaderPods (t : Target) (kind : ModuleKind) (node : String) : PodQuery where
  ns     := some t.id.ns
  labels := .andEquals .everything loaderPodLabel (kind.resourceName t.id.name)
  node   := some node

-- Whether pods that load or unload the module are still on a node.
def loaderPodsLinger (s : Setup σ) (t : Target) (kind : ModuleKind) (node : String) : Pass σ Bool := do
  pure !(← Pass.call s (.listPods (loaderPods t kind node))).isEmpty

-- Sets the marker of a kind on a node, unless loader pods are in the way.
def request (s : Setup σ) (t : Target) (kind : ModuleKind) (n : Node) : Pass σ (Option Node) := do
  if ← loaderPodsLinger s t kind n.name then pure none
  else some <$> setLabel s n (t.key kind.marker) t.version

def needsSfc (t : Target) (n : Node) : Bool :=
  t.sfcWanted && (t.marker? .sfc n).isNone && t.marker? .loader n = some t.version

def requestSfc (s : Setup σ) (t : Target) (n : Node) : Pass σ (Option Bool) := do
  if needsSfc t n then pure ((← request s t .sfc n).map fun _ => true)
  else pure (some false)

-- Whether a node changed, or nothing if it has to wait.
def requestModules (s : Setup σ) (t : Target) (n : Node) : Pass σ (Option Bool) := do
  if (t.marker? .loader n).isSome then requestSfc s t n
  else
    match ← request s t .onload n with
    | none   => pure none
    | some n => pure ((← requestSfc s t n).map fun _ => true)

-- Whether any node changed, or nothing if one has to wait. The nodes after it are left alone.
def requestOnNodes (s : Setup σ) (t : Target) : List Node → Pass σ (Option Bool)
  | [] => pure (some false)
  | n :: ns => do
    match ← requestModules s t n with
    | none         => pure none
    | some changed => pure ((← requestOnNodes s t ns).map (changed || ·))

-- A node that has kept its ready marker keeps its modules.
def keepsModules (t : Target) (n : Node) : Bool := t.selects n || (t.marker? .ready n).isSome

-- Markers go in the reverse of the order in which they come.
def dropStale (s : Setup σ) (t : Target) : Pass σ Bool := do
  let ready ← Sweep.marker s t .ready t.selects
  let sfc ← Sweep.marker s t .sfc fun n => t.sfcWanted && keepsModules t n
  let loader ← Sweep.marker s t .loader (keepsModules t)
  pure (ready || sfc || loader)

-- The loader marker asks for the module on a selected node, and the SFC marker for the network
-- driver on top of a current module. Nodes that are no longer selected lose their markers.
def loaderMarkers : Step σ := fun s t => do
  match ← requestOnNodes s t (← selectedNodes s t) with
  | none       => pure (.requeueAfter s.requeueDelay)
  | some true  => pure .requeueNow
  | some false => StepOutcome.ofChanged <$> dropStale s t

def becomesReady (t : Target) (n : Node) : Bool :=
  t.marker? .loader n = some t.version && t.marker? .ready n ≠ some t.version

-- Sets the ready marker on nodes, each of which has to succeed.
def markReady (s : Setup σ) (t : Target) : List Node → Pass σ Unit
  | [] => pure ()
  | n :: ns => do
    let _ ← setLabel s n (t.key .ready) t.version
    markReady s t ns

-- The ready marker opens a node with a current module to the operands.
def readyMarkers : Step σ := fun s t => do
  match (← selectedNodes s t).filter (becomesReady t) with
  | [] => StepOutcome.ofChanged <$> Sweep.marker s t .ready t.selects
  | ns => do
    markReady s t ns
    pure .requeueNow

end KernelRollout.Marking
