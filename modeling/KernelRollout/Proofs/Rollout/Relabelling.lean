import KernelRollout.Proofs.Cluster.Relabel
import KernelRollout.Rollout.Marking

namespace KernelRollout

-- Markers of one resource change in a cluster, each as the rule allows.
inductive Relabelling (id : Identity) (rule : Node → Marker → Option String → Prop) :
    Cluster → Cluster → Prop
  | refl {c} : Relabelling id rule c c
  | step {c c' n m v} (hs : c.Stores n) (hr : rule n m v)
      (h : Relabelling id rule (c.relabel n (m.key id) v) c') : Relabelling id rule c c'

namespace Relabelling

variable {id : Identity} {rule rule' : Node → Marker → Option String → Prop} {c c₁ c' : Cluster}
variable {n : Node} {m : Marker} {v : Option String} {name : String}

theorem single (hs : c.Stores n) (hr : rule n m v) :
    Relabelling id rule c (c.relabel n (m.key id) v) :=
  .step hs hr .refl

theorem trans (h₁ : Relabelling id rule c c₁) (h₂ : Relabelling id rule c₁ c') :
    Relabelling id rule c c' := by
  induction h₁ with
  | refl => exact h₂
  | step hs hr _ hi => exact .step hs hr (hi h₂)

theorem mono (h : Relabelling id rule c c') (hrule : ∀ n m v, rule n m v → rule' n m v) :
    Relabelling id rule' c c' := by
  induction h with
  | refl => exact .refl
  | step hs hr _ hi => exact .step hs (hrule _ _ _ hr) hi

-- What every change keeps holds in the end.
theorem preserves {P : Cluster → Prop} (h : Relabelling id rule c c') (hp : P c)
    (hstep : ∀ c n m v, P c → c.Stores n → rule n m v → P (c.relabel n (m.key id) v)) : P c' := by
  induction h with
  | refl => exact hp
  | step hs hr _ hi => exact hi (hstep _ _ _ _ hp hs hr)

theorem keyed (h : Relabelling id rule c c') (hk : c.Keyed) : c'.Keyed :=
  h.preserves hk fun _ n _ _ hk _ _ => hk.relabel n

theorem onloads (h : Relabelling id rule c c') : c'.onloads = c.onloads :=
  h.preserves (P := fun c₁ => c₁.onloads = c.onloads) rfl fun _ _ _ _ hc _ _ => hc

theorem refuses (h : Relabelling id rule c c') : c'.refuses name = c.refuses name :=
  h.preserves (P := fun c₁ => c₁.refuses name = c.refuses name) rfl fun _ _ _ _ hc _ _ => hc

theorem pods (h : Relabelling id rule c c') : c'.pods = c.pods :=
  h.preserves (P := fun c₁ => c₁.pods = c.pods) rfl fun _ _ _ _ hc _ _ => hc

theorem modules (h : Relabelling id rule c c') : c'.modules = c.modules :=
  h.preserves (P := fun c₁ => c₁.modules = c.modules) rfl fun _ _ _ _ hc _ _ => hc

theorem daemonSets (h : Relabelling id rule c c') : c'.daemonSets = c.daemonSets :=
  h.preserves (P := fun c₁ => c₁.daemonSets = c.daemonSets) rfl fun _ _ _ _ hc _ _ => hc

theorem blockedEvictions (h : Relabelling id rule c c') : c'.blockedEvictions = c.blockedEvictions :=
  h.preserves (P := fun c₁ => c₁.blockedEvictions = c.blockedEvictions) rfl fun _ _ _ _ hc _ _ => hc

theorem writes_le (h : Relabelling id rule c c') : c.writes ≤ c'.writes := by
  refine h.preserves (P := fun c₁ => c.writes ≤ c₁.writes) (Nat.le_refl _) fun _ _ _ _ hc _ _ => ?_
  rw [Cluster.writes_relabel]
  exact Nat.le_succ_of_le hc

theorem log (h : Relabelling id rule c c') :
    ∃ as, c'.actions = c.actions ++ as ∧ ∀ a ∈ as, ∃ n m v, rule n m v ∧
      a = .patchNode n.name (Node.change (m.key id) v) := by
  induction h with
  | refl => exact ⟨[], by simp, by simp⟩
  | @step c c' n m v hs hr _ hi =>
    obtain ⟨as, has, hrule⟩ := hi
    refine ⟨.patchNode n.name (Node.change (m.key id) v) :: as, ?_, ?_⟩
    · rw [has, Cluster.actions_relabel, List.append_assoc, List.singleton_append]
    · exact List.forall_mem_cons.mpr ⟨⟨n, m, v, hr, rfl⟩, hrule⟩

end Relabelling

namespace Marking

variable {t : Target} {n : Node}

-- A selected node gets the marker of a module that it does not have yet.
inductive Requests (t : Target) (n : Node) : Marker → Option String → Prop
  | loader (hs : t.selects n = true) (hl : t.marker? .loader n = none) :
    Requests t n .loader (some t.version)
  | sfc (hs : t.selects n = true) (hw : t.sfcWanted = true) (hn : t.marker? .sfc n = none)
      (hl : t.marker? .loader n = some t.version) :
    Requests t n .sfc (some t.version)

-- A selected node with a current module is opened, unless it is open already.
inductive Opens (t : Target) (n : Node) : Marker → Option String → Prop
  | ready (hs : t.selects n = true) (hl : t.marker? .loader n = some t.version)
    (hr : t.marker? .ready n ≠ some t.version) : Opens t n .ready (some t.version)

-- A node loses what it has and should not keep, modules in the reverse of the order in which they
-- come.
inductive Drops (t : Target) (n : Node) : Marker → Option String → Prop
  | ready (hs : t.selects n = false) (hp : (t.marker? .ready n).isSome = true) : Drops t n .ready none
  | sfc (hk : (t.sfcWanted && keepsModules t n) = false) (hp : (t.marker? .sfc n).isSome = true) :
    Drops t n .sfc none
  | loader (hk : keepsModules t n = false) (hs : t.marker? .sfc n = none)
    (hp : (t.marker? .loader n).isSome = true) : Drops t n .loader none

theorem keepsModules_eq_false : keepsModules t n = false ↔
    t.selects n = false ∧ t.marker? .ready n = none := by
  simp [keepsModules]

end Marking

namespace Sweep

-- A node loses all markers of a resource that is gone.
inductive Clears (id : Identity) (n : Node) : Marker → Option String → Prop
  | ready : Clears id n .ready none
  | sfc : Clears id n .sfc none
  | loader (hr : n.label? (Marker.ready.key id) = none) (hs : n.label? (Marker.sfc.key id) = none) :
    Clears id n .loader none

end Sweep

end KernelRollout
