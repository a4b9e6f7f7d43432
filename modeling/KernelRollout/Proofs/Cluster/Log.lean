import KernelRollout.Proofs.Cluster.Territory

namespace KernelRollout.Cluster

variable {c c' : Cluster} {T : Territory} {j : Identity}

-- What a call adds to the log. Only an eviction changes a pod, and statuses are written only where
-- they belong to the territory.
inductive Logged (T : Territory) (c c' : Cluster) : Prop
  | nothing (ha : c'.actions = c.actions) (hp : c'.pods = c.pods)
  | write (a : Action) (ha : c'.actions = c.actions ++ [a]) (hn : ∀ j, a ≠ .evictPod j)
    (hs : ∀ j, a = .patchOnloadStatus j → T.onloads j) (hp : c'.pods = c.pods)
  | eviction (j : Identity) (p : Pod) (version : Nat) (ha : c'.actions = c.actions ++ [.evictPod j])
    (hp : c.pods.get? j = some p) (ht : p.metadata.terminating = false)
    (hp' : c'.pods = c.pods.insert j (p.evicted version))

theorem Logged.answer {α : Type} {call : Call α} (h : T.Admits call) : Logged T c (c.answer call).2 := by
  cases call with
  | getOnload | listNodes | listPods | getModule | getDaemonSet => exact .nothing rfl rfl
  | patchOnloadStatus id status =>
    simp only [Cluster.answer, patchOnloadStatus]
    split
    case h_1 => exact .nothing rfl rfl
    case h_2 => exact .write (.patchOnloadStatus id) rfl (by simp) (fun _ he => Action.patchOnloadStatus.inj he ▸ h) rfl
  | patchNodeLabels n changes =>
    simp only [Cluster.answer, patchNodeLabels]
    repeat' split
    case h_2.isFalse => exact .write (.patchNode n.name changes) rfl (by simp) (by simp) rfl
    all_goals exact .nothing rfl rfl
  | evictPod id =>
    simp only [Cluster.answer, evictPod]
    repeat' split
    case h_2.isFalse p hp hterminating =>
      exact .eviction id p _ rfl hp (by simpa using hterminating) rfl
    all_goals exact .nothing rfl rfl
  | createModule m =>
    simp only [Cluster.answer, create]
    split
    case isTrue => exact .nothing rfl rfl
    case isFalse => exact .write (.create .module (idOf m)) rfl (by simp) (by simp) rfl
  | createDaemonSet d =>
    simp only [Cluster.answer, create]
    split
    case isTrue => exact .nothing rfl rfl
    case isFalse => exact .write (.create .daemonSet (idOf d)) rfl (by simp) (by simp) rfl
  | replaceModule m =>
    simp only [Cluster.answer, replace]
    repeat' split
    case h_2.isFalse => exact .write (.replace .module (idOf m)) rfl (by simp) (by simp) rfl
    all_goals exact .nothing rfl rfl
  | replaceDaemonSet d =>
    simp only [Cluster.answer, replace]
    repeat' split
    case h_2.isFalse => exact .write (.replace .daemonSet (idOf d)) rfl (by simp) (by simp) rfl
    all_goals exact .nothing rfl rfl
  | deleteModule id =>
    simp only [Cluster.answer, delete]
    split
    case isTrue => exact .write (.delete .module id) rfl (by simp) (by simp) rfl
    case isFalse => exact .nothing rfl rfl

theorem Logged.actions_extend (h : Logged T c c') : c.actions <+: c'.actions := by
  cases h with
  | nothing ha => exact ha ▸ List.prefix_rfl
  | write _ ha | eviction _ _ _ ha => exact ha ▸ List.prefix_append ..

theorem Calls.actions_extend (h : Calls T c c') : c.actions <+: c'.actions :=
  h.preserves (P := fun c₁ => c.actions <+: c₁.actions) List.prefix_rfl
    fun _ _ hc h => hc.trans (Logged.answer h).actions_extend

-- Statuses are written only where they belong to the territory.
theorem Calls.statuses (h : Calls T c c') :
    ∃ as, c'.actions = c.actions ++ as ∧ ∀ j, .patchOnloadStatus j ∈ as → T.onloads j := by
  refine h.preserves (P := fun c₁ => ∃ as, c₁.actions = c.actions ++ as ∧
    ∀ j, .patchOnloadStatus j ∈ as → T.onloads j) ⟨[], by simp⟩ ?_
  intro _ c₁ call ⟨as, has, hown⟩ hadmits
  have hlogged : Logged T c₁ (c₁.answer call).2 := .answer hadmits
  cases hlogged with
  | nothing ha => exact ⟨as, ha.trans has, hown⟩
  | write a ha _ hs =>
    refine ⟨as ++ [a], by rw [ha, has, List.append_assoc], fun j hj => ?_⟩
    cases List.mem_append.mp hj
    case inl hj => exact hown j hj
    case inr hj => exact hs j (List.mem_singleton.mp hj).symm
  | eviction i _ _ ha =>
    refine ⟨as ++ [.evictPod i], by rw [ha, has, List.append_assoc], fun j hj => ?_⟩
    exact hown j (by simpa using hj)

-- Where something was written, the log has another entry.
theorem Calls.exists_actions_eq (h : Calls T c c') (hw : c.writes < c'.writes) :
    ∃ a as, c'.actions = c.actions ++ a :: as := by
  have ⟨entries, he⟩ := h.actions_extend
  cases entries with
  | nil => simp [writes, ← he] at hw
  | cons a as => exact ⟨a, as, he.symm⟩

-- Evictions that a pod has before it, which is at most one.
def evictable (c : Cluster) (j : Identity) : Nat :=
  if (c.pods.get? j).any (!·.metadata.terminating) then 1 else 0

def evictions (c : Cluster) (j : Identity) : Nat := c.actions.count (.evictPod j)

theorem Logged.evictions_add (h : Logged T c c') (j : Identity) :
    c'.evictions j + c'.evictable j = c.evictions j + c.evictable j := by
  cases h with
  | nothing ha hp => rw [evictions, evictable, ha, hp, evictions, evictable]
  | write a ha hn _ hp =>
    have hcount : [a].count (.evictPod j) = 0 := List.count_singleton.trans (if_neg (by simpa using hn j))
    rw [evictions, evictable, ha, hp, List.count_append, hcount, evictions, evictable, Nat.add_zero]
  | eviction i p version ha hp ht hp' =>
    rw [evictions, evictable, ha, hp', List.count_append, List.count_singleton, Dict.get?_insert,
      evictions, evictable]
    by_cases hj : j = i
    case pos =>
      have hgone : (p.evicted version).metadata.terminating = true := rfl
      simp [hj, hp, ht, hgone]
    case neg => simp [hj, Ne.symm hj]

-- What is evicted no longer has to be.
theorem Calls.evictions_add (h : Calls T c c') (j : Identity) :
    c'.evictions j + c'.evictable j = c.evictions j + c.evictable j :=
  h.preserves (P := fun c₁ => c₁.evictions j + c₁.evictable j = c.evictions j + c.evictable j) rfl
    fun _ _ hc h => ((Logged.answer h).evictions_add j).trans hc

end KernelRollout.Cluster
