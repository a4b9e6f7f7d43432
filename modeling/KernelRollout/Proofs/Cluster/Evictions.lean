import KernelRollout.Proofs.Cluster.Log
import KernelRollout.Proofs.Cluster.Pods

namespace KernelRollout.Cluster

variable {c c' : Cluster} {T : Territory} {id j : Identity} {q : PodQuery}

-- An eviction is blocked, or it goes through.
theorem evictPod_answers (c : Cluster) (id : Identity) :
    (c.evictPod id).1 = .ok () ∨ ∃ detail, (c.evictPod id).1 = .error (.evictionBlocked detail) := by
  rw [evictPod]
  repeat' split
  case isTrue => exact .inr ⟨_, rfl⟩
  all_goals exact .inl rfl

theorem evictPod_absent (h : c.pods.get? id = none) : (c.evictPod id).2 = c := by
  simp only [evictPod, h]
  split <;> rfl

theorem evictPod_terminating {p : Pod} (hp : c.pods.get? id = some p)
    (ht : p.metadata.terminating = true) : (c.evictPod id).2 = c := by
  simp only [evictPod, hp, ht, if_true]
  split <;> rfl

theorem evictPod_of_terminating (h : c.Terminating id) : (c.evictPod id).2 = c := by
  cases hp : c.pods.get? id with
  | none => exact evictPod_absent hp
  | some p => exact evictPod_terminating hp (h p hp)

theorem evictPod_blocked (h : c.blockedEvictions.contains id = true) : (c.evictPod id).2 = c := by
  rw [evictPod, if_pos h]

theorem evictPod_going {p : Pod} (hb : c.blockedEvictions.contains id = false)
    (hp : c.pods.get? id = some p) (ht : p.metadata.terminating = false) :
    (c.evictPod id).2 = { c with
      pods := c.pods.insert id (p.evicted (c.version + 1))
      actions := c.actions ++ [.evictPod id]
      version := c.version + 1 } := by
  simp only [evictPod, hb, hp, ht, Bool.false_eq_true, if_false]
  rfl

-- Every pod is listed once.
theorem listPods_pairwise (hk : c.Keyed) :
    (c.listPods q).Pairwise (·.metadata.identity ≠ ·.metadata.identity) := by
  rw [listPods, List.pairwise_map]
  refine List.Pairwise.filter _ (c.pods.sorted.imp_of_mem fun {e₁ e₂} h₁ h₂ hlt he => ?_)
  have hid₁ : e₁.2.metadata.identity = e₁.1 := hk.pods _ _ (Dict.get?_eq_some_iff.mpr h₁)
  have hid₂ : e₂.2.metadata.identity = e₂.1 := hk.pods _ _ (Dict.get?_eq_some_iff.mpr h₂)
  rw [← hid₁, ← hid₂, he] at hlt
  exact OrderedKey.irrefl _ hlt

-- In between two clusters the pod was evicted.
def Evicts (c c' : Cluster) (j : Identity) : Prop := c.evictions j < c'.evictions j

instance : Decidable (c.Evicts c' j) := inferInstanceAs (Decidable (_ < _))

-- What was evicted is in the part of the log that was added.
theorem evicts_iff {entries : List Action} (h : c'.actions = c.actions ++ entries) :
    c.Evicts c' j ↔ .evictPod j ∈ entries := by
  simp [Evicts, evictions, h, List.count_append]

-- An evicted pod did not terminate before, and apart from that it stays as it was.
theorem Calls.get?_of_evicts (h : Calls T c c') (he : c.Evicts c' j) :
    ∃ p version, c.pods.get? j = some p ∧ p.metadata.terminating = false ∧
      c'.pods.get? j = some (p.evicted version) := by
  have hadd := h.evictions_add j
  rw [Evicts] at he
  cases hp : c.pods.get? j with
  | none => simp [evictable, hp] at hadd; omega
  | some p =>
    obtain ⟨p', hp', hpod⟩ := h.within.pods.exists_of_get? hp
    cases hpod with
    | kept => simp [evictable, hp, hp'] at hadd; omega
    | evicted hstays version => exact ⟨p, version, rfl, by simp [Metadata.terminating, hstays], hp'⟩

-- Where all pods are as they were, none was evicted.
theorem Calls.not_evicts (h : Calls T c c') (hp : c'.pods = c.pods) : ¬c.Evicts c' j := by
  have hadd := h.evictions_add j
  simp only [evictable, hp] at hadd
  simp only [Evicts]
  omega

end KernelRollout.Cluster
