import KernelRollout.Proofs.Rollout.Run

namespace KernelRollout

open Cluster (Aside)

variable {id : Identity} {c c' : Cluster} {n : Node} {m : Marker} {v : Option String} {t : Target}

-- The ready and the SFC marker, as far as the node has them, are for the module that the loader
-- marker asks for.
structure Ordered (c : Cluster) (id : Identity) (name : String) : Prop where
  ready : ∀ v, c.marker? id .ready name = some v → c.marker? id .loader name = some v
  sfc   : ∀ v, c.marker? id .sfc name = some v → c.marker? id .loader name = some v

instance {name : String} : Decidable (Ordered c id name) :=
  decidable_of_iff
    ((∀ v, v ∈ c.marker? id .ready name → c.marker? id .loader name = some v) ∧
      ∀ v, v ∈ c.marker? id .sfc name → c.marker? id .loader name = some v)
    ⟨fun h => ⟨h.left, h.right⟩, fun h => ⟨h.ready, h.sfc⟩⟩

-- A node that is not there has no markers that could be out of order.
theorem ordered_of_absent {name : String} (h : c.nodes.get? name = none) : Ordered c id name := by
  have hnone : ∀ m, c.marker? id m name = none := fun m => by rw [Cluster.marker?, h]; rfl
  exact ⟨fun v hv => by simp [hnone] at hv, fun v hv => by simp [hnone] at hv⟩

instance : Decidable (∀ name, Ordered c id name) :=
  decidable_of_iff (∀ name ∈ c.nodes.keys, Ordered c id name) <| by
    constructor
    case mpr => exact fun h name _ => h name
    case mp =>
      intro h name
      cases hn : c.nodes.get? name with
      | none => exact ordered_of_absent hn
      | some n => exact h name (List.mem_map.mpr ⟨(name, n), Dict.get?_eq_some_iff.mp hn, rfl⟩)

-- All nodes of a cluster are in order.
structure InOrder (id : Identity) (c : Cluster) : Prop where
  keyed   : c.Keyed
  ordered : ∀ name, Ordered c id name

-- The ways to change one marker of a node and keep the node in order.
inductive Orderly (id : Identity) (n : Node) : Marker → Option String → Prop
  | load (v : String) (hl : n.label? (Marker.loader.key id) = none) : Orderly id n .loader (some v)
  | follow (m : Marker) (v : String) (hm : m ≠ .loader)
    (hl : n.label? (Marker.loader.key id) = some v) : Orderly id n m (some v)
  | leave (m : Marker) (hm : m ≠ .loader) : Orderly id n m none
  | unload (hr : n.label? (Marker.ready.key id) = none) (hs : n.label? (Marker.sfc.key id) = none) :
    Orderly id n .loader none

theorem Ordered.of_relabel_other {name : String} (ho : Ordered c id name) (hs : c.Stores n)
    (hne : name ≠ n.name) : Ordered (c.relabel n (m.key id) v) id name := by
  have hsame := fun m' => Cluster.marker?_relabel_other (v := v) hs id m m' hne
  constructor
  case ready =>
    intro v hv
    rw [hsame] at hv ⊢
    exact ho.ready v hv
  case sfc =>
    intro v hv
    rw [hsame] at hv ⊢
    exact ho.sfc v hv

theorem Ordered.of_relabel_self (ho : Ordered c id n.name) (hs : c.Stores n)
    (hr : Orderly id n m v) : Ordered (c.relabel n (m.key id) v) id n.name := by
  have hready : ∀ v, n.label? (Marker.ready.key id) = some v →
      n.label? (Marker.loader.key id) = some v := by simpa only [hs.marker?] using ho.ready
  have hsfc : ∀ v, n.label? (Marker.sfc.key id) = some v →
      n.label? (Marker.loader.key id) = some v := by simpa only [hs.marker?] using ho.sfc
  constructor
  all_goals
    intro v' hv
    simp only [Cluster.marker?_relabel hs, hs.marker?, true_and] at hv ⊢
    cases hr with
    | load v hl => simp_all
    | follow m v hm hl => cases m <;> simp_all
    | leave m hm => cases m <;> simp_all
    | unload hr hs => simp_all

theorem InOrder.relabel (h : InOrder id c) (hs : c.Stores n) (hr : Orderly id n m v) :
    InOrder id (c.relabel n (m.key id) v) := by
  refine ⟨h.keyed.relabel n, fun name => ?_⟩
  by_cases hname : name = n.name
  case pos => exact hname ▸ (hname ▸ h.ordered name).of_relabel_self hs hr
  case neg => exact (h.ordered name).of_relabel_other hs hname

-- Others write no markers. A node may go, and new nodes come without markers.
structure SparesMarkers (id : Identity) (c c' : Cluster) : Prop where
  keyed   : c'.Keyed
  markers : ∀ name, c'.nodes.get? name = none ∨ ∀ m, c'.marker? id m name = c.marker? id m name

-- New nodes come without markers, and other labels of a node may be set.
def Edit.Spares (id : Identity) (c : Cluster) : Edit → Prop
  | putNode n => c.nodes.get? n.name = none ∧ ∀ m : Marker, n.label? (m.key id) = none
  | setNodeLabels name labels => ∀ m : Marker, labels.get? (m.key id) = c.marker? id m name
  | _ => True

namespace SparesMarkers

theorem of_nodes (hk : c'.Keyed) (hn : c'.nodes = c.nodes) : SparesMarkers id c c' :=
  ⟨hk, fun _ => .inr fun m => Cluster.marker?_congr hn id m⟩

theorem putNode (hk : c.Keyed) (hnew : c.nodes.get? n.name = none)
    (hm : ∀ m : Marker, n.label? (m.key id) = none) : SparesMarkers id c (c.putNode n) := by
  refine ⟨hk.edit (.putNode n), fun name => .inr fun m => ?_⟩
  rw [Cluster.marker?, Cluster.marker?]
  by_cases hname : name = n.name
  case neg => simp [Cluster.putNode, Cluster.nextVersion, Dict.get?_insert, hname]
  case pos =>
    subst hname
    simp only [Cluster.putNode, Cluster.nextVersion, Dict.get?_insert_self, hnew, Option.bind_some,
      Option.bind_none]
    exact hm m

theorem setNodeLabels {name : String} {labels : Labels} (hk : c.Keyed)
    (hm : ∀ m : Marker, labels.get? (m.key id) = c.marker? id m name) :
    SparesMarkers id c (c.setNodeLabels name labels) := by
  refine ⟨hk.edit (.setNodeLabels name labels), fun x => ?_⟩
  simp only [Cluster.marker?, Cluster.setNodeLabels, Cluster.nextVersion, Dict.get?_modify] at hm ⊢
  by_cases hx : x = name
  case neg => simp [hx]
  case pos =>
    subst hx
    simp only [if_true]
    cases hn : c.nodes.get? x with
    | none => exact .inl rfl
    | some n =>
      rw [hn] at hm
      exact .inr hm

-- All edits that spare the markers do so whatever else they change.
theorem of_edit (hk : c.Keyed) {e : Edit} (h : e.Spares id c) : SparesMarkers id c (e.apply c) := by
  cases e with
  | putNode n => exact putNode hk h.left h.right
  | setNodeLabels name labels => exact setNodeLabels hk h
  | _ => exact of_nodes (hk.edit _) rfl

end SparesMarkers

namespace Orderly

theorem of_requests (hr : Marking.Requests t n m v) : Orderly t.id n m v := by
  cases hr with
  | loader _ hl => exact .load _ hl
  | sfc _ _ _ hl => exact .follow .sfc _ nofun hl

theorem of_opens (hr : Marking.Opens t n m v) : Orderly t.id n m v := by
  cases hr with
  | ready _ hl => exact .follow .ready _ nofun hl

theorem of_drops (hr : Marking.Drops t n m v) : Orderly t.id n m v := by
  cases hr with
  | ready => exact .leave .ready nofun
  | sfc => exact .leave .sfc nofun
  | loader hk hs => exact .unload (Marking.keepsModules_eq_false.mp hk).right hs

theorem of_clears (hr : Sweep.Clears id n m v) : Orderly id n m v := by
  cases hr with
  | ready => exact .leave .ready nofun
  | sfc => exact .leave .sfc nofun
  | loader hr hs => exact .unload hr hs

theorem of_removes (hr : Drain.Removes t c n m) : Orderly t.id n m none := by
  cases hr with
  | ready => exact .leave .ready nofun
  | sfc => exact .leave .sfc nofun
  | loader hr _ hs => exact .unload hr hs

end Orderly

namespace InOrder

theorem relabelling {rule : Node → Marker → Option String → Prop} (h : InOrder id c)
    (hrel : Relabelling id rule c c') (hrule : ∀ n m v, rule n m v → Orderly id n m v) :
    InOrder id c' :=
  hrel.preserves h fun _ _ _ _ h hs hr => h.relabel hs (hrule _ _ _ hr)

theorem spared (h : InOrder id c) (hs : SparesMarkers id c c') : InOrder id c' := by
  refine ⟨hs.keyed, fun name => ?_⟩
  cases hs.markers name
  case inl hgone => exact ordered_of_absent hgone
  case inr hsame =>
    have ho := h.ordered name
    exact ⟨fun v hv => hsame .loader ▸ ho.ready v (hsame .ready ▸ hv),
      fun v hv => hsame .loader ▸ ho.sfc v (hsame .sfc ▸ hv)⟩

theorem afterPass {w : World Cluster} (h : InOrder id w.cluster) (delay : Duration)
    (now : Timestamp) : InOrder id (w.afterPass id delay now).cluster := by
  have heffect := effect_afterPass id delay now h.keyed
  cases heffect with
  | gone _ hrel => exact h.relabelling hrel fun _ _ _ => .of_clears
  | aside ha => exact h.spared (.of_nodes (ha.keyed h.keyed) ha.nodes)
  | prepared t ht hp =>
    have hid := ht.id_eq h.keyed
    subst hid
    cases hp with
    | requested hrel => exact h.relabelling hrel fun _ _ _ => .of_requests
    | dropped hrel => exact h.relabelling hrel fun _ _ _ => .of_drops
    | opened hrel => exact h.relabelling hrel fun _ _ _ => .of_opens
    | operated ho => exact h.spared (.of_nodes (ho.aside.keyed h.keyed) ho.aside.nodes)
  | removed t n m ht _ hn hr _ hc =>
    have hid := ht.id_eq h.keyed
    subst hid
    exact hc ▸ h.relabel hn.stored (.of_removes hr)

end InOrder

-- However passes and others alternate, nodes are in order after every pass.
theorem ordered_after_passes {w w' : World Cluster} (hk : w.cluster.Keyed)
    (ho : ∀ name, Ordered w.cluster id name) (r : Run (SparesMarkers id) id w w') :
    r.AfterPasses fun c => ∀ name, Ordered c id name := by
  have h : InOrder id w.cluster := ⟨hk, ho⟩
  have ⟨_, hafter⟩ := r.invariant h (fun delay now _ h => h.afterPass delay now) fun _ _ h hs => h.spared hs
  exact hafter.mono fun _ h => h.ordered

-- The version is edited while a worker is drained.
theorem ordered_after_passes_edited :
    ∃ (w w' : World Cluster) (r : Run (SparesMarkers Sample.resource) Sample.resource w w'),
      w.cluster.Keyed ∧ (∀ name, Ordered w.cluster Sample.resource name) ∧
      w.cluster.marker? Sample.resource .ready "a" = some "1" ∧
      w'.cluster.marker? Sample.resource .loader "a" = some "3" ∧
      r.AfterPasses fun c => ∀ name, Ordered c Sample.resource name := by
  let w := Sample.world "2" "2" [Sample.openWorker "a" "1", Sample.openWorker "b" "1"]
  have hk : w.cluster.Keyed := Sample.keyed_world ..
  have ho : ∀ name, Ordered w.cluster Sample.resource name := by decide +kernel
  let w₂ := (w.afterPass Sample.resource .zero Sample.now).afterPass Sample.resource .zero Sample.now
  have hk₂ : w₂.cluster.Keyed := keyed_afterPass _ _ (keyed_afterPass _ _ hk)
  have hedit : SparesMarkers Sample.resource w₂.cluster _ :=
    .of_edit hk₂ (e := .putOnload (Sample.onload "3")) trivial
  let r := Run.start.pass .zero Sample.now |>.pass .zero Sample.now |>.step hedit |>.pass .zero Sample.now
  exact ⟨w, _, r, hk, ho, by decide +kernel, by decide +kernel, ordered_after_passes hk ho r⟩

end KernelRollout
