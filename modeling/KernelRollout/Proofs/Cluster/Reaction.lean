import KernelRollout.Proofs.Cluster.Pods
import KernelRollout.Proofs.Cluster.Relabel

namespace KernelRollout

namespace Cluster

variable {c c' : Cluster} {id j : Identity} {ids : List Identity} {p : Pod} {node : String} {t : Target}

-- The pods of the device plugin of a resource, on whichever node.
def pluginPods (id : Identity) : PodQuery where
  ns     := some id.ns
  labels := .andEquals .everything operandNameLabel (Operand.devicePluginName id.name)

-- The node of a pod has the ready marker.
def keepsPlugin (c : Cluster) (id : Identity) (p : Pod) : Bool :=
  (c.listNodes .everything).any fun n =>
    n.name = p.nodeName?.getD "" && (n.label? (Marker.ready.key id)).isSome

def leaving (c : Cluster) (id : Identity) : List Identity :=
  ((c.listPods (pluginPods id)).filter (!c.keepsPlugin id ·)).map fun p =>
    ⟨id.ns, p.metadata.name.getD ""⟩

-- While a pass waits, pods of the device plugin leave nodes that are not open, and pods that
-- terminate are gone.
def react (c : Cluster) (id : Identity) : Cluster :=
  Edit.applyAll ((c.leaving id).map .removePod ++ [.finishTerminations]) c

namespace Thins

theorem of_pods {pods : Dict Identity Pod} (hk : c.Keyed → { c with pods }.Keyed)
    (h : ∀ j p, pods.get? j = some p → c.pods.get? j = some p) : Thins c { c with pods } :=
  ⟨rfl, rfl, rfl, rfl, rfl, rfl, hk, fun j p hp => ⟨p, h j p hp, .refl⟩⟩

theorem removePod (c : Cluster) (id : Identity) : Thins c (c.removePod id) := by
  refine .of_pods (fun hk => hk.edit (.removePod id)) fun j p hp => ?_
  rw [Dict.get?_erase] at hp
  split at hp
  case isTrue => cases hp
  case isFalse => exact hp

theorem finishTerminations (c : Cluster) : Thins c c.finishTerminations := by
  refine .of_pods (fun hk => hk.edit .finishTerminations) fun j p hp => ?_
  rw [Dict.get?_filter, Option.filter_eq_some_iff] at hp
  exact hp.left

theorem removePods (c : Cluster) (ids : List Identity) :
    Thins c (Edit.applyAll (ids.map .removePod) c) := by
  induction ids generalizing c with
  | nil => exact .refl
  | cons id ids hi => exact (removePod c id).trans (hi _)

end Thins

theorem get?_removePods : (Edit.applyAll (ids.map .removePod) c).pods.get? j =
    if j ∈ ids then none else c.pods.get? j := by
  induction ids generalizing c with
  | nil => rfl
  | cons id ids hi =>
    refine hi.trans ?_
    show (if j ∈ ids then none else (c.pods.erase id).get? j) = _
    rw [Dict.get?_erase]
    by_cases hid : j = id <;> by_cases hids : j ∈ ids <;> simp [hid, hids]

theorem react_eq : c.react id =
    (Edit.applyAll ((c.leaving id).map .removePod) c).finishTerminations := by
  rw [react, Edit.applyAll, List.foldl_append]
  rfl

theorem thins_react (c : Cluster) (id : Identity) : Thins c (c.react id) := by
  rw [react_eq]
  exact (Thins.removePods ..).trans (.finishTerminations _)

-- The pods that stay neither leave nor terminate.
theorem of_get?_react (h : (c.react id).pods.get? j = some p) :
    c.pods.get? j = some p ∧ j ∉ c.leaving id ∧ p.metadata.terminating = false := by
  rw [react_eq, finishTerminations, Dict.get?_filter, Option.filter_eq_some_iff, get?_removePods] at h
  have ⟨hp, hterminating⟩ := h
  split at hp
  case isTrue => cases hp
  case isFalse hj => exact ⟨hp, hj, by simpa using hterminating⟩

theorem listPods_react (hk : c.Keyed) (hr : c.marker? t.id .ready node = none) :
    (c.react t.id).listPods (Drain.pluginPods t node) = [] := by
  refine List.eq_nil_iff_forall_not_mem.mpr fun p hp => ?_
  obtain ⟨j, hj, hns, hlabels, hnode⟩ := mem_listPods.mp hp
  obtain ⟨hp, hstays, _⟩ := of_get?_react hj
  have hnode : p.nodeName? = some node := by simpa [Drain.pluginPods] using hnode
  have hplugin : p ∈ c.listPods (pluginPods t.id) := mem_listPods.mpr ⟨j, hp, hns, hlabels, rfl⟩
  have hcloses : c.keepsPlugin t.id p = false := by
    rw [keepsPlugin, List.any_eq_false]
    intro n hn
    have hs := ((mem_listNodes hk).mp hn).left
    rw [hnode, Option.getD_some, Bool.and_eq_true, decide_eq_true_eq]
    rintro ⟨hname, hready⟩
    rw [← hs.marker?, hname, hr] at hready
    cases hready
  have hns : t.id.ns = j.ns := by simpa [Drain.pluginPods] using hns
  have hid : (⟨t.id.ns, p.metadata.name.getD ""⟩ : Identity) = j := by
    rw [← hk.pods j p hp] at hns ⊢
    rw [hns]
    rfl
  refine hstays (List.mem_map.mpr ⟨p, List.mem_filter.mpr ⟨hplugin, by simp [hcloses]⟩, hid⟩)

theorem users_react
    (h : ∀ p ∈ (c.listPods (.onNode node)).filter Drain.isUser, p.metadata.terminating = true) :
    ((c.react id).listPods (.onNode node)).filter Drain.isUser = [] := by
  refine List.eq_nil_iff_forall_not_mem.mpr fun p hp => ?_
  obtain ⟨hlisted, huser⟩ := List.mem_filter.mp hp
  obtain ⟨j, hj, hquery⟩ := mem_listPods.mp hlisted
  obtain ⟨hp, _, hterminating⟩ := of_get?_react hj
  have hbefore := h p (List.mem_filter.mpr ⟨mem_listPods.mpr ⟨j, hp, hquery⟩, huser⟩)
  rw [hterminating] at hbefore
  cases hbefore

end Cluster

end KernelRollout
