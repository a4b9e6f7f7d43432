import KernelRollout.Proofs.Cluster.Aside
import KernelRollout.Rollout.Drain

namespace KernelRollout

namespace Pod

variable {p p₁ p' : Pod}

-- The same pod, which may have come to terminate.
structure Alike (p p' : Pod) : Prop where
  labels      : p'.metadata.labels = p.metadata.labels
  spec        : p'.spec = p.spec
  status      : p'.status = p.status
  terminating : p.metadata.terminating = true → p'.metadata.terminating = true

namespace Alike

theorem refl : Alike p p := ⟨rfl, rfl, rfl, id⟩

theorem trans (h₁ : Alike p p₁) (h₂ : Alike p₁ p') : Alike p p' where
  labels := h₂.labels.trans h₁.labels
  spec := h₂.spec.trans h₁.spec
  status := h₂.status.trans h₁.status
  terminating h := h₂.terminating (h₁.terminating h)

theorem nodeName?_eq (h : Alike p p') : p'.nodeName? = p.nodeName? := by
  rw [Pod.nodeName?, Pod.nodeName?, h.spec]

theorem isUser_eq (h : Alike p p') : Drain.isUser p' = Drain.isUser p := by
  have hfinished : p'.finished = p.finished := by
    rw [Pod.finished, Pod.finished, Pod.phase?, Pod.phase?, h.status]
  have hcontainers : p'.allContainers = p.allContainers := by
    rw [Pod.allContainers, Pod.allContainers, h.spec]
  rw [Drain.isUser, Drain.isUser, hfinished, Pod.requestsOnload, Pod.requestsOnload, hcontainers]

end Alike

end Pod

namespace Cluster

variable {c c₁ c' : Cluster} {id : Identity} {p : Pod} {q : PodQuery}

theorem mem_listPods : p ∈ c.listPods q ↔
    ∃ j, c.pods.get? j = some p ∧ q.ns.all (· = j.ns) = true ∧
      q.labels.selects p.metadata.labels = true ∧ q.node.all (p.nodeName? = some ·) = true := by
  simp only [listPods, List.mem_map, List.mem_filter, Bool.and_eq_true, Prod.exists,
    Dict.get?_eq_some_iff, Dict.toList]
  constructor
  case mp =>
    intro ⟨j, x, ⟨hmem, ⟨hns, hlabels⟩, hnode⟩, he⟩
    subst he
    exact ⟨j, hmem, hns, hlabels, hnode⟩
  case mpr => exact fun ⟨j, hmem, hns, hlabels, hnode⟩ => ⟨j, p, ⟨hmem, ⟨hns, hlabels⟩, hnode⟩, rfl⟩

-- Pods that carry a label with a value, in one namespace and on one node.
theorem mem_listPods_labelled {ns key value node : String} :
    p ∈ c.listPods ⟨some ns, .andEquals .everything key value, some node⟩ ↔
      ∃ j, c.pods.get? j = some p ∧ p.nodeName? = some node ∧ j.ns = ns ∧
        p.metadata.label? key = some value := by
  have hlabel : (LabelQuery.everything.andEquals key value).selects p.metadata.labels = true ↔
      p.metadata.label? key = some value := by
    rw [LabelQuery.selects_andEquals, LabelQuery.selects_everything, Metadata.label?]
    cases p.metadata.labels <;> simp [LabelRequirement.holds]
  simp only [mem_listPods, hlabel]
  refine exists_congr fun j => and_congr_right fun _ => ?_
  simpa [eq_comm (a := ns)] using and_rotate.symm

-- The same for the pods of the device plugin.
theorem listPods_pluginPods_eq_nil {t : Target} {node : String}
    (h : c.listPods (Drain.pluginPods t node) = []) {j : Identity} (hp : c.pods.get? j = some p)
    (hnode : p.nodeName? = some node) (hns : j.ns = t.id.ns) :
    p.metadata.label? operandNameLabel ≠ some (Operand.devicePluginName t.id.name) := by
  intro hlabel
  have hmem : p ∈ c.listPods (Drain.pluginPods t node) :=
    mem_listPods_labelled.mpr ⟨j, hp, hnode, hns, hlabel⟩
  simp [h] at hmem

-- A pod of this name terminates, or there is none.
def Terminating (c : Cluster) (id : Identity) : Prop :=
  ∀ p, c.pods.get? id = some p → p.metadata.terminating = true

-- Pods go or come to terminate, and besides that only the log and the versions change.
structure Thins (c c' : Cluster) : Prop where
  onloads          : c'.onloads = c.onloads
  nodes            : c'.nodes = c.nodes
  modules          : c'.modules = c.modules
  daemonSets       : c'.daemonSets = c.daemonSets
  failingNodes     : c'.failingNodes = c.failingNodes
  blockedEvictions : c'.blockedEvictions = c.blockedEvictions
  keyed            : c.Keyed → c'.Keyed
  pods             : ∀ j p', c'.pods.get? j = some p' → ∃ p, c.pods.get? j = some p ∧ p.Alike p'

namespace Thins

theorem refl : Thins c c := ⟨rfl, rfl, rfl, rfl, rfl, rfl, id, fun _ p hp => ⟨p, hp, .refl⟩⟩

theorem trans (h₁ : Thins c c₁) (h₂ : Thins c₁ c') : Thins c c' where
  onloads := h₂.onloads.trans h₁.onloads
  nodes := h₂.nodes.trans h₁.nodes
  modules := h₂.modules.trans h₁.modules
  daemonSets := h₂.daemonSets.trans h₁.daemonSets
  failingNodes := h₂.failingNodes.trans h₁.failingNodes
  blockedEvictions := h₂.blockedEvictions.trans h₁.blockedEvictions
  keyed hk := h₂.keyed (h₁.keyed hk)
  pods j p' hp' := by
    have ⟨p₁, hp₁, h₁₂⟩ := h₂.pods j p' hp'
    have ⟨p, hp, h₀₁⟩ := h₁.pods j p₁ hp₁
    exact ⟨p, hp, h₀₁.trans h₁₂⟩

theorem aside (h : Thins c c') : Aside c c' := .of_eq h.onloads h.nodes h.keyed

theorem mem_listPods {p' : Pod} (h : Thins c c') (hp : p' ∈ c'.listPods q) :
    ∃ p ∈ c.listPods q, p.Alike p' := by
  have ⟨j, hj, hns, hlabels, hnode⟩ := Cluster.mem_listPods.mp hp
  have ⟨p, hp, halike⟩ := h.pods j p' hj
  refine ⟨p, Cluster.mem_listPods.mpr ⟨j, hp, hns, ?_, ?_⟩, halike⟩
  · rwa [← halike.labels]
  · rwa [← halike.nodeName?_eq]

theorem listPods_eq_nil (h : Thins c c') (hnil : c.listPods q = []) : c'.listPods q = [] := by
  refine List.eq_nil_iff_forall_not_mem.mpr fun p' hp' => ?_
  have ⟨p, hp, _⟩ := h.mem_listPods hp'
  simp [hnil] at hp

theorem users_eq_nil (h : Thins c c') (hnil : (c.listPods q).filter Drain.isUser = []) :
    (c'.listPods q).filter Drain.isUser = [] := by
  refine List.filter_eq_nil_iff.mpr fun p' hp' => ?_
  have ⟨p, hp, halike⟩ := h.mem_listPods hp'
  rw [halike.isUser_eq]
  exact List.filter_eq_nil_iff.mp hnil p hp

theorem terminating (h : Thins c c') (ht : c.Terminating id) : c'.Terminating id := by
  intro p' hp'
  have ⟨p, hp, halike⟩ := h.pods id p' hp'
  exact halike.terminating (ht p hp)

theorem evictPod (c : Cluster) (id : Identity) : Thins c (c.evictPod id).2 := by
  rw [Cluster.evictPod]
  split
  case isTrue => exact .refl
  case isFalse =>
    split
    case h_1 => exact .refl
    case h_2 p hp =>
      split
      case isTrue => exact .refl
      case isFalse =>
        refine ⟨rfl, rfl, rfl, rfl, rfl, rfl, fun hk => ?_, fun j p' hp' => ?_⟩
        · exact { hk with pods := hk.pods.insert (hk.pods id p hp) }
        · simp only [nextVersion, log, Dict.get?_insert] at hp'
          split at hp'
          case isTrue hj =>
            cases hp'
            exact ⟨p, hj ▸ hp, rfl, rfl, rfl, fun _ => rfl⟩
          case isFalse => exact ⟨p', hp', .refl⟩

end Thins

-- Where no evictions are blocked, an evicted pod terminates.
theorem terminating_evictPod (id : Identity) (hb : c.blockedEvictions = []) :
    (c.evictPod id).2.Terminating id := by
  intro p' hp'
  rw [evictPod, if_neg (by simp [hb])] at hp'
  split at hp'
  case h_1 hnone => cases hnone.symm.trans hp'
  case h_2 p hp =>
    split at hp'
    case isTrue hterminating =>
      cases hp.symm.trans hp'
      exact hterminating
    case isFalse =>
      rw [Dict.get?_insert_self] at hp'
      cases hp'
      rfl

end Cluster

end KernelRollout
