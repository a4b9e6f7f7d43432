import KernelRollout.Proofs.Rollout.InFlight

namespace KernelRollout

open Cluster (Aside)
open Reconcile (Effect Handles Prepared Prepares)

variable {id : Identity} {c c' : Cluster} {n : Node} {m : Marker} {t : Target} {name : String}
variable {rule : Node → Marker → Option String → Prop}

-- The marker of a node is as it was, or gone.
def Unreplaced (id : Identity) (m : Marker) (name : String) (c c' : Cluster) : Prop :=
  ∀ v, c.marker? id m name = some v → c'.marker? id m name = some v ∨ c'.marker? id m name = none

namespace Unreplaced

theorem of_nodes (hn : c'.nodes = c.nodes) : Unreplaced id m name c c' := by
  intro v hv
  rw [Cluster.marker?_congr hn]
  exact .inl hv

-- Markers are only set where there was none.
theorem of_filling (hrel : Relabelling id rule c c')
    (hrule : ∀ n m v, rule n m v → m ≠ .ready → n.label? (m.key id) = none) (hm : m ≠ .ready) :
    Unreplaced id m name c c' := by
  intro v hv
  refine .inl (hrel.preserves (P := fun c => c.marker? id m name = some v) hv ?_)
  intro c₁ n m' v' hv hs hr
  rw [Cluster.marker?_relabel hs, if_neg]
  · exact hv
  · intro ⟨hname, hm'⟩
    subst hname hm'
    rw [hs.marker?, hrule _ _ _ hr hm] at hv
    cases hv

-- Markers are only removed.
theorem of_stripping (hrel : Relabelling id rule c c')
    (hrule : ∀ n m v, rule n m v → m ≠ .ready → v = none) (hm : m ≠ .ready) :
    Unreplaced id m name c c' := by
  intro v hv
  refine hrel.preserves
    (P := fun c => c.marker? id m name = some v ∨ c.marker? id m name = none) (.inl hv) ?_
  intro c₁ n m' v' hv hs hr
  rw [Cluster.marker?_relabel hs]
  split
  case isTrue h =>
    have hv' := hrule _ _ _ hr (h.right ▸ hm)
    exact .inr hv'
  case isFalse => exact hv

theorem afterPass {w : World Cluster} (hk : w.cluster.Keyed) (delay : Duration) (now : Timestamp)
    (hm : m ≠ .ready) : Unreplaced id m name w.cluster (w.afterPass id delay now).cluster := by
  have heffect := effect_afterPass id delay now hk
  cases heffect with
  | gone _ hrel => exact of_stripping hrel (fun _ _ _ h _ => by cases h <;> rfl) hm
  | aside haside => exact of_nodes haside.nodes
  | prepared t ht hp =>
    have hid := ht.id_eq hk
    subst hid
    cases hp with
    | requested hrel =>
      refine of_filling hrel (fun n m v hr _ => ?_) hm
      cases hr with
      | loader _ hl => exact hl
      | sfc _ _ hn _ => exact hn
    | dropped hrel => exact of_stripping hrel (fun _ _ _ h _ => by cases h <;> rfl) hm
    | opened hrel =>
      refine of_stripping hrel (fun n m v hr hne => ?_) hm
      cases hr with
      | ready => exact absurd rfl hne
    | operated h => exact of_nodes h.aside.nodes
  | removed t n m' ht _ hn hr _ hc =>
    have hid := ht.id_eq hk
    subst hid
    have hrel : Relabelling t.id (fun _ _ v => v = none) w.cluster
        (w.cluster.relabel n (t.key m') none) := .single hn.stored rfl
    rw [hc]
    exact of_stripping hrel (fun _ _ _ h _ => h) hm

end Unreplaced

-- The node has an outdated module that nothing stands in the way of: it is closed, it has no SFC
-- module, and no pod on it belongs to the device plugin or may still use Onload.
structure Vacant (c : Cluster) (id : Identity) (name : String) : Prop where
  outdated : c.Outdated id name
  closed   : c.marker? id .ready name = none
  noSfc    : c.marker? id .sfc name = none
  noPlugin : ∀ j p, c.pods.get? j = some p → p.nodeName? = some name → j.ns = id.ns →
    p.metadata.label? operandNameLabel ≠ some (Operand.devicePluginName id.name)
  noUser   : ∀ j p, c.pods.get? j = some p → p.nodeName? = some name → p.finished = false →
    p.requestsOnload = false

theorem vacant_of_removes (hr : Drain.Removes t c n .loader) (hn : Drain.Next t c n)
    (ht : c.spec? t.id = some t.spec) : Vacant c t.id n.name := by
  cases hr with
  | loader hready hv hsfc =>
    have ⟨v, hl, hne⟩ := hn.outdated
    refine ⟨⟨t.spec, ht, v, (hn.stored.marker? ..).trans hl, hne⟩, (hn.stored.marker? ..).trans hready,
      (hn.stored.marker? ..).trans hsfc, ?plugin, ?user⟩
    case plugin => exact fun j p hp => Cluster.listPods_pluginPods_eq_nil hv.plugin hp
    case user =>
      intro j p hp hnode hfinished
      have hmem : p ∈ c.listPods (.onNode n.name) :=
        Cluster.mem_listPods.mpr ⟨j, hp, rfl, rfl, by simp [PodQuery.onNode, hnode]⟩
      have hunused : Drain.isUser p ≠ true := List.filter_eq_nil_iff.mp hv.users p hmem
      simpa [Drain.isUser, hfinished] using hunused

-- Whoever takes a marker from unselected nodes only leaves those of selected nodes alone.
theorem keeps_marker (ha : c.SelectsApart t.id) (ht : c.spec? t.id = some t.spec)
    (hrel : Relabelling t.id rule c c')
    (hrule : ∀ n v, rule n m v → v = none → t.selects n = false)
    (hsel : c.Selected t.id name) (hl : c.marker? t.id m name ≠ none) :
    c'.marker? t.id m name ≠ none := by
  have hall := hrel.preserves
    (P := fun c => c.spec? t.id = some t.spec ∧ c.Selected t.id name ∧
      c.marker? t.id m name ≠ none) ⟨ht, hsel, hl⟩ ?_
  · exact hall.right.right
  · intro c₁ n m' v ⟨ht', hsel, hl⟩ hs hr
    have ha' : c₁.SelectsApart t.id := ha.congr (ht'.trans ht.symm)
    refine ⟨ht', (Cluster.selected_relabel ha' hs).mpr hsel, ?_⟩
    rw [Cluster.marker?_relabel hs]
    split
    case isFalse => exact hl
    case isTrue h =>
      have ⟨hname, hm⟩ := h
      subst hname hm
      intro hv
      have hunselected := hrule _ _ hr hv
      rw [hs.selects ht' hsel] at hunselected
      cases hunselected

-- A pass takes a ready or loader marker from a selected node only where it drains the node.
theorem removes_of_taken {w : World Cluster} {delay : Duration} {now : Timestamp}
    (hk : w.cluster.Keyed) (ha : w.cluster.SelectsApart id) (hm : m ≠ .sfc)
    (hsel : w.cluster.Selected id name) (hl : w.cluster.marker? id m name ≠ none)
    (hgone : (w.afterPass id delay now).cluster.marker? id m name = none) :
    ∃ t n, Handles w.cluster id t ∧ Prepared (.inMemory delay now) t w ∧
      Drain.Next t w.cluster n ∧ Drain.Removes t w.cluster n m ∧ n.name = name ∧
      (w.afterPass id delay now).cluster = w.cluster.relabel n (m.key id) none := by
  have heffect := effect_afterPass id delay now hk
  generalize (w.afterPass id delay now).cluster = c' at heffect hgone
  have hkept : c'.nodes = w.cluster.nodes → c'.marker? id m name ≠ none := by
    intro hn
    rw [Cluster.marker?_congr hn]
    exact hl
  cases heffect with
  | gone ho =>
    obtain ⟨_, hspec, _⟩ := hsel
    rw [Cluster.spec?, ho] at hspec
    cases hspec
  | aside haside => exact absurd hgone (hkept haside.nodes)
  | prepared t ht hp =>
    have hid := ht.id_eq hk
    subst hid
    refine absurd hgone ?_
    cases hp with
    | requested hrel =>
      refine keeps_marker ha ht.spec? hrel (fun n v hr hv => ?_) hsel hl
      cases hr <;> cases hv
    | dropped hrel =>
      refine keeps_marker ha ht.spec? hrel (fun n v hr _ => ?_) hsel hl
      cases hr with
      | ready hs => exact hs
      | sfc => exact absurd rfl hm
      | loader hkeep => exact (Marking.keepsModules_eq_false.mp hkeep).left
    | opened hrel =>
      refine keeps_marker ha ht.spec? hrel (fun n v hr hv => ?_) hsel hl
      cases hr
      cases hv
    | operated h => exact hkept h.aside.nodes
  | removed t n m' ht hp hn hr _ hc =>
    have hid := ht.id_eq hk
    subst hid hc
    have htaken : name = n.name ∧ m = m' := by
      have hmarker := hgone
      simp only [Target.key, Cluster.marker?_relabel hn.stored] at hmarker
      split at hmarker
      case isTrue h => exact h
      case isFalse => exact absurd hmarker hl
    obtain ⟨hname, hm⟩ := htaken
    subst hname hm
    exact ⟨t, n, ht, hp, hn, hr, rfl, rfl⟩

theorem vacant_of_removed {w : World Cluster} {delay : Duration} {now : Timestamp}
    (hk : w.cluster.Keyed) (ha : w.cluster.SelectsApart id) (hsel : w.cluster.Selected id name)
    (hl : w.cluster.marker? id .loader name ≠ none)
    (hgone : (w.afterPass id delay now).cluster.marker? id .loader name = none) :
    Vacant w.cluster id name ∧ (w.afterPass id delay now).cluster.actions =
      w.cluster.actions ++ [.patchNode name (Node.change (Marker.loader.key id) none)] := by
  have ⟨t, n, ht, _, hn, hr, hname, hc⟩ := removes_of_taken hk ha (m := .loader) nofun hsel hl hgone
  have hid := ht.id_eq hk
  subst hid hname
  exact ⟨vacant_of_removes hr hn ht.spec?, hc ▸ Cluster.actions_relabel⟩

-- A pass overwrites no module on a node, and replaces one only after the node is drained.
theorem modules_afterPass {w : World Cluster} (hk : w.cluster.Keyed)
    (ha : w.cluster.SelectsApart id) (delay : Duration) (now : Timestamp) :
    (∀ name m, m ≠ .ready → Unreplaced id m name w.cluster (w.afterPass id delay now).cluster) ∧
    ∀ name, w.cluster.Selected id name → w.cluster.marker? id .loader name ≠ none →
      (w.afterPass id delay now).cluster.marker? id .loader name = none →
      Vacant w.cluster id name ∧ (w.afterPass id delay now).cluster.actions =
        w.cluster.actions ++ [.patchNode name (Node.change (Marker.loader.key id) none)] :=
  ⟨fun _ _ hm => .afterPass hk delay now hm, fun _ hsel hl hgone => vacant_of_removed hk ha hsel hl hgone⟩

-- A closed worker without pods loses its module.
theorem modules_afterPass_closed :
    ∃ w : World Cluster, w.cluster.Keyed ∧ w.cluster.SelectsApart Sample.resource ∧
      w.cluster.marker? Sample.resource .loader "a" = some "1" ∧
      (w.afterPass Sample.resource .zero Sample.now).cluster.marker? Sample.resource .loader "a" = none ∧
      Vacant w.cluster Sample.resource "a" := by
  let w := Sample.world "2" "2" [Sample.worker "a" [(.loader, "1")], Sample.openWorker "b" "1"]
  have hk : w.cluster.Keyed := Sample.keyed_world ..
  have ha : w.cluster.SelectsApart Sample.resource := by decide +kernel
  have hsel : w.cluster.Selected Sample.resource "a" := by decide +kernel
  have hl : w.cluster.marker? Sample.resource .loader "a" = some "1" := by decide +kernel
  have hgone : (w.afterPass Sample.resource .zero Sample.now).cluster.marker? Sample.resource .loader "a" =
      none := by decide +kernel
  have ⟨_, hremoved⟩ := modules_afterPass hk ha .zero Sample.now
  exact ⟨w, hk, ha, hl, hgone, (hremoved "a" hsel (by simp [hl]) hgone).left⟩

end KernelRollout
