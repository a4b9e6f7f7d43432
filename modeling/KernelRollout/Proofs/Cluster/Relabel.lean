import KernelRollout.Proofs.Cluster.Keyed
import KernelRollout.Rollout.Marker

namespace KernelRollout

namespace Marker

-- The loader and the SFC marker differ in length, and the ready marker starts with another letter.
theorem key_inj {id : Identity} {m₁ m₂ : Marker} : m₁.key id = m₂.key id ↔ m₁ = m₂ := by
  constructor
  case mpr => exact fun h => h ▸ rfl
  case mp =>
    intro h
    have hlen := congrArg String.length h
    have hhead := congrArg (·.toList.head?) h
    have hne : "-module".length ≠ "-sfcmodule".length := by decide
    cases m₁ <;> cases m₂ <;> simp [key, loaderLead, readyLead] at hlen hhead ⊢
    case loader.sfc => exact hne hlen
    case sfc.loader => exact hne hlen.symm

end Marker

namespace Node

variable {n : Node} {key k : String} {v : Option String} {version : Nat}

-- The only label change of a patch.
def change (key : String) (v : Option String) : LabelChanges := Dict.empty.insert key v

def relabelled (n : Node) (key : String) (v : Option String) (version : Nat) : Node where
  metadata := Cluster.withVersion
    { n.metadata with labels := some (changeLabel (n.metadata.labels.getD .empty) key v) } version

@[simp]
theorem name_relabelled : (n.relabelled key v version).name = n.name := rfl

theorem label?_eq (n : Node) (k : String) : n.label? k = (n.metadata.labels.getD .empty).get? k := by
  rw [label?, Metadata.label?]
  cases n.metadata.labels <;> simp

theorem label?_relabelled :
    (n.relabelled key v version).label? k = if k = key then v else n.label? k := by
  rw [label?_eq, label?_eq]
  exact get?_changeLabel ..

end Node

namespace Cluster

variable {c : Cluster} {n m : Node} {key name : String} {v : Option String} {q : LabelQuery}

-- The cluster has the node exactly as it is here.
def Stores (c : Cluster) (n : Node) : Prop := c.nodes.get? n.name = some n

theorem Stores.unique (hn : c.Stores n) (hm : c.Stores m) (h : n.name = m.name) : n = m := by
  have : some n = some m := hn.symm.trans (h ▸ hm)
  exact Option.some.inj this

theorem Keyed.stores (hk : c.Keyed) (h : c.nodes.get? name = some n) : c.Stores n := by
  rwa [Stores, hk.nodes name n h]

theorem mem_listNodes (hk : c.Keyed) :
    n ∈ c.listNodes q ↔ c.Stores n ∧ q.selects n.metadata.labels = true := by
  rw [listNodes, List.mem_filter]
  refine and_congr_left fun _ => ?_
  simp only [Dict.values, List.mem_map, Prod.exists, exists_eq_right]
  constructor
  case mp =>
    intro ⟨name, h⟩
    exact hk.stores (Dict.get?_eq_some_iff.mpr h)
  case mpr => exact fun h => ⟨n.name, Dict.get?_eq_some_iff.mp h⟩

-- Nodes are listed by name, each once.
theorem listNodes_pairwise (hk : c.Keyed) : (c.listNodes q).Pairwise (·.name < ·.name) := by
  refine List.Pairwise.filter _ ?_
  rw [Dict.values, List.pairwise_map]
  refine c.nodes.sorted.imp_of_mem fun {e₁ e₂} h₁ h₂ hlt => ?_
  rwa [hk.nodes _ _ (Dict.get?_eq_some_iff.mpr h₁), hk.nodes _ _ (Dict.get?_eq_some_iff.mpr h₂)]

theorem listPods_congr {c' : Cluster} (h : c'.pods = c.pods) (q : PodQuery) :
    c'.listPods q = c.listPods q := by
  rw [listPods, listPods, h]

def relabel (c : Cluster) (n : Node) (key : String) (v : Option String) : Cluster :=
  let c := c.nextVersion.log (.patchNode n.name (Node.change key v))
  { c with nodes := c.nodes.insert n.name (n.relabelled key v c.version) }

def refuses (c : Cluster) (name : String) : Bool := c.failingNodes.contains name

-- How nodes that refuse patches answer.
def refusal (name : String) : ClusterError :=
  .api ("InternalError (500) on Node " ++ name ++ ": injected failure")

-- A patch of a node as it is stored is refused, or it goes through.
theorem answer_patchNodeLabels (hs : c.Stores n) (key : String) (v : Option String) :
    (c.refuses n.name = true ∧
      c.answer (.patchNodeLabels n (Node.change key v)) = (.error (refusal n.name), c)) ∨
    (c.refuses n.name = false ∧
      c.answer (.patchNodeLabels n (Node.change key v)) =
        (.ok (n.relabelled key v (c.version + 1)), c.relabel n key v)) := by
  have hstale : stale n.metadata n.metadata = false := by simp [stale]
  rw [Stores] at hs
  simp only [answer, patchNodeLabels, refuses]
  cases hf : c.failingNodes.contains n.name with
  | true => exact .inl ⟨rfl, rfl⟩
  | false =>
    refine .inr ⟨rfl, ?_⟩
    simp only [hs, hstale, Bool.false_eq_true, if_false]
    rfl

@[simp] theorem onloads_relabel : (c.relabel n key v).onloads = c.onloads := rfl
@[simp] theorem pods_relabel : (c.relabel n key v).pods = c.pods := rfl
@[simp] theorem modules_relabel : (c.relabel n key v).modules = c.modules := rfl
@[simp] theorem daemonSets_relabel : (c.relabel n key v).daemonSets = c.daemonSets := rfl
@[simp] theorem actions_relabel :
    (c.relabel n key v).actions = c.actions ++ [.patchNode n.name (Node.change key v)] := rfl

-- The number of writes in the log.
def writes (c : Cluster) : Nat := c.actions.length

@[simp]
theorem writes_relabel : (c.relabel n key v).writes = c.writes + 1 := by
  simp [writes]

theorem nodes_relabel : (c.relabel n key v).nodes.get? name =
    if name = n.name then some (n.relabelled key v (c.version + 1)) else c.nodes.get? name :=
  Dict.get?_insert ..

theorem Keyed.relabel (hk : c.Keyed) (n : Node) : (c.relabel n key v).Keyed :=
  { hk with nodes := hk.nodes.insert rfl }

theorem stores_relabelled : (c.relabel n key v).Stores (n.relabelled key v (c.version + 1)) := by
  simp [Stores, nodes_relabel]

theorem Stores.relabel_other (hm : c.Stores m) (hne : m.name ≠ n.name) :
    (c.relabel n key v).Stores m := by
  rwa [Stores, nodes_relabel, if_neg hne]

theorem Stores.of_relabel (hm : (c.relabel n key v).Stores m) :
    m = n.relabelled key v (c.version + 1) ∨ (m.name ≠ n.name ∧ c.Stores m) := by
  rw [Stores, nodes_relabel] at hm
  split at hm
  case isTrue => exact .inl (Option.some.inj hm).symm
  case isFalse hne => exact .inr ⟨hne, hm⟩

-- What a node has as a marker of a resource. A node that is not there has none.
def marker? (c : Cluster) (id : Identity) (m : Marker) (name : String) : Option String :=
  (c.nodes.get? name).bind (·.label? (m.key id))

theorem Stores.marker? (hs : c.Stores n) (id : Identity) (m : Marker) :
    c.marker? id m n.name = n.label? (m.key id) := by
  rw [Cluster.marker?, hs]
  rfl

theorem marker?_congr {c' : Cluster} (h : c'.nodes = c.nodes) (id : Identity) (m : Marker) :
    c'.marker? id m name = c.marker? id m name := by
  rw [Cluster.marker?, Cluster.marker?, h]

theorem marker?_relabel (hs : c.Stores n) (id : Identity) (m m' : Marker) :
    (c.relabel n (m.key id) v).marker? id m' name =
      if name = n.name ∧ m' = m then v else c.marker? id m' name := by
  rw [marker?, nodes_relabel]
  by_cases h : name = n.name
  case neg => simp [h, marker?]
  case pos =>
    subst h
    simp only [if_true, Option.bind_some, Node.label?_relabelled, Marker.key_inj, true_and]
    rw [hs.marker?]

theorem marker?_relabel_other (hs : c.Stores n) (id : Identity) (m m' : Marker)
    (hne : name ≠ n.name) :
    (c.relabel n (m.key id) v).marker? id m' name = c.marker? id m' name := by
  rw [marker?_relabel hs, if_neg fun h => hne h.left]

end Cluster

end KernelRollout
