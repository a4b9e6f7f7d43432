import KernelRollout.Proofs.Rollout.Eviction
import KernelRollout.Proofs.Rollout.Removal

namespace KernelRollout

open Reconcile (Handles Prepared)

variable {id j : Identity} {c c' : Cluster} {t : Target} {spec : OnloadSpec}
variable {delay : Duration} {now : Timestamp} {w : World Cluster}

-- In between two clusters a node that the resource selects was drained further.
inductive Drains (id : Identity) (c c' : Cluster) : Prop
  | evicts (j : Identity) (h : c.Evicts c' j)
  | takes (m : Marker) (hm : m ≠ .sfc) (name : String) (hs : c.Selected id name)
    (hp : c.marker? id m name ≠ none) (hg : c'.marker? id m name = none)

-- All operands are at the version, every selected node has asked for a module, and the ones with a
-- current module are open.
structure Rolling (id : Identity) (spec : OnloadSpec) (c : Cluster) : Prop
    extends OperandsAt id spec c where
  supplied : ∀ name, c.Matches spec.selector name → c.marker? id .loader name ≠ none
  opened   : ∀ name, c.Matches spec.selector name →
    c.marker? id .loader name = some spec.onload.version →
    c.marker? id .ready name = some spec.onload.version

theorem rolling_of_prepared (hk : w.cluster.Keyed) (ht : Handles w.cluster id t)
    (hp : Prepared (.inMemory delay now) t w) : Rolling id t.spec w.cluster := by
  have hplace := hp.inPlace hk
  have hid := ht.id_eq hk
  subst hid
  refine ⟨hplace.operandsAt, fun name hm => ?supplied, fun name hm hl => ?opened⟩
  all_goals
    have ⟨n, hs, hname, hsel⟩ := ht.stores_selected hk ⟨t.spec, ht.spec?, hm⟩
    subst hname
  case supplied =>
    rw [ht.marker?_eq hk hs, ← Option.isSome_iff_ne_none]
    exact (hplace.supplied n hs hsel).left
  case opened =>
    rw [ht.marker?_eq hk hs] at hl ⊢
    have hopened := hplace.opened n hs hsel
    have hl : t.marker? .loader n = some t.version := hl
    have hready : t.marker? .ready n = some t.version := by simpa [Marking.becomesReady, hl] using hopened
    exact hready

-- What a drain adds to the log: one marker that goes, or evictions on one node.
inductive DrainEntries (id : Identity) (c : Cluster) : List Action → Prop
  | marker (m : Marker) (name : String) (hs : c.Selected id name) :
    DrainEntries id c [.patchNode name (Node.change (m.key id) none)]
  | evictions (name : String) (hs : c.Selected id name) (j : Identity) (js : List Identity)
    (hp : ∀ i ∈ j :: js, ∃ p, c.pods.get? i = some p ∧ p.nodeName? = some name) :
    DrainEntries id c ((j :: js).map .evictPod)

-- Passes that drain a node find everything else in place, and do nothing else.
theorem drained_afterPass (hk : w.cluster.Keyed) (ha : w.cluster.SelectsApart id)
    (hd : Drains id w.cluster (w.afterPass id delay now).cluster) :
    ∃ spec entries, w.cluster.spec? id = some spec ∧ Rolling id spec w.cluster ∧
      (w.afterPass id delay now).cluster.actions = w.cluster.actions ++ entries ∧
      DrainEntries id w.cluster entries := by
  cases hd with
  | evicts j he =>
    have ⟨t, n, h⟩ := emptying_of_evicts hk he
    have hevicts {i : Identity} := h.evicts_iff (j := i) hk
    have hactions := h.actions_eq hk
    simp only [Cluster.evicts_iff hactions, List.mem_map, Action.evictPod.injEq, exists_eq_right] at hevicts he
    refine ⟨t.spec, _, h.handles.spec?, rolling_of_prepared hk h.handles h.prepared, hactions, ?_⟩
    generalize List.filter _ _ = js at hevicts he
    cases js with
    | nil => cases he
    | cons j js =>
      refine .evictions n.name (h.handles.selected h.next) j js fun i hi => ?_
      have ⟨p, hp, huses, _⟩ := hevicts.mp hi
      exact ⟨p, hp, huses.bound⟩
  | takes m hm name hs hp hg =>
    have ⟨t, n, ht, hprepared, hn, _, _, hc⟩ := removes_of_taken hk ha hm hs hp hg
    refine ⟨t.spec, _, ht.spec?, rolling_of_prepared hk ht hprepared, ?_, .marker m n.name (ht.selected hn)⟩
    rw [hc, Cluster.actions_relabel]

-- With an SFC module, one of two workers is open at the version, and the other one is closed.
theorem drained_afterPass_sfc :
    ∃ (w : World Cluster) (spec : OnloadSpec) (entries : List Action), w.cluster.Keyed ∧
      w.cluster.SelectsApart Sample.resource ∧
      Drains Sample.resource w.cluster (w.afterPass Sample.resource .zero Sample.now).cluster ∧
      w.cluster.marker? Sample.resource .ready "b" = some "1" ∧
      w.cluster.spec? Sample.resource = some spec ∧ Rolling Sample.resource spec w.cluster ∧
      (w.afterPass Sample.resource .zero Sample.now).cluster.actions = w.cluster.actions ++ entries ∧
      DrainEntries Sample.resource w.cluster entries := by
  let w := Sample.sfcWorld "2" [Sample.worker "a" [(.loader, "2"), (.sfc, "2"), (.ready, "2")],
    Sample.worker "b" [(.loader, "1"), (.sfc, "1"), (.ready, "1")]]
  have hk : w.cluster.Keyed := Sample.keyed_sfcWorld ..
  have ha : w.cluster.SelectsApart Sample.resource := by decide +kernel
  have hs : w.cluster.Selected Sample.resource "b" := by decide +kernel
  have hready : w.cluster.marker? Sample.resource .ready "b" = some "1" := by decide +kernel
  have hclosed : (w.afterPass Sample.resource .zero Sample.now).cluster.marker? Sample.resource
      .ready "b" = none := by decide +kernel
  have hd : Drains Sample.resource w.cluster (w.afterPass Sample.resource .zero Sample.now).cluster :=
    .takes .ready nofun "b" hs (by simp [hready]) hclosed
  have ⟨spec, entries, h⟩ := drained_afterPass hk ha hd
  exact ⟨w, spec, entries, hk, ha, hd, hready, h⟩

end KernelRollout
