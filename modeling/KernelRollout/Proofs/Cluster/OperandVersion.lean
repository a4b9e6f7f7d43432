import KernelRollout.Proofs.Cluster.Relabel
import KernelRollout.Proofs.Cluster.Aside
import KernelRollout.Rollout.Operand

namespace KernelRollout

-- An entry of the log that is of an operand.
inductive Action.OfOperand : Action → Prop
  | create (kind : OperandKind) (id : Identity) : OfOperand (.create kind id)
  | replace (kind : OperandKind) (id : Identity) : OfOperand (.replace kind id)
  | delete (kind : OperandKind) (id : Identity) : OfOperand (.delete kind id)

namespace Cluster

variable {c c' : Cluster} {kind : OperandKind} {id : Identity} {v : Option (Option String)}

-- The version of an operand that is there. An operand need not have one.
def operandVersion? (c : Cluster) (id : Identity) : OperandKind → Option (Option String)
  | .module    => (c.modules.get? id).map (·.loaderVersion?)
  | .daemonSet => (c.daemonSets.get? id).map Operand.version?

theorem operandVersion?_congr (hm : c'.modules = c.modules) (hd : c'.daemonSets = c.daemonSets)
    (id : Identity) (kind : OperandKind) : c'.operandVersion? id kind = c.operandVersion? id kind := by
  cases kind with
  | module => rw [operandVersion?, operandVersion?, hm]
  | daemonSet => rw [operandVersion?, operandVersion?, hd]

-- One module is stored or deleted, and all other operands are as they were.
structure PutsModule (id : Identity) (x : Option KernelModule) (c c' : Cluster) : Prop where
  modules    : ∀ j, c'.modules.get? j = if j = id then x else c.modules.get? j
  daemonSets : c'.daemonSets = c.daemonSets

-- The same for a daemon set.
structure PutsDaemonSet (id : Identity) (x : Option DaemonSet) (c c' : Cluster) : Prop where
  daemonSets : ∀ j, c'.daemonSets.get? j = if j = id then x else c.daemonSets.get? j
  modules    : c'.modules = c.modules

-- One write, after which an operand has a version, or is gone.
structure Sets (kind : OperandKind) (id : Identity) (v : Option (Option String)) (c c' : Cluster) :
    Prop where
  onloads          : c'.onloads = c.onloads
  nodes            : c'.nodes = c.nodes
  pods             : c'.pods = c.pods
  failingNodes     : c'.failingNodes = c.failingNodes
  blockedEvictions : c'.blockedEvictions = c.blockedEvictions
  log              : ∃ a : Action, a.OfOperand ∧ c'.actions = c.actions ++ [a]
  keyed            : c.Keyed → c'.Keyed
  version          : ∀ k j, c'.operandVersion? j k =
    if k = kind ∧ j = id then v else c.operandVersion? j k

theorem Sets.writes (h : Sets kind id v c c') : c'.writes = c.writes + 1 := by
  have ⟨_, _, ha⟩ := h.log
  rw [Cluster.writes, ha, List.length_append, List.length_singleton, Cluster.writes]

theorem Sets.aside (h : Sets kind id v c c') : Aside c c' := .of_eq h.onloads h.nodes h.keyed

theorem PutsModule.sets {x : Option KernelModule} (hp : PutsModule id x c c') (h : c' = { c with
      modules := c'.modules, actions := c'.actions, version := c'.version })
    (ha : ∃ a : Action, a.OfOperand ∧ c'.actions = c.actions ++ [a]) (hk : c.Keyed → c'.Keyed) :
    Sets .module id (x.map (·.loaderVersion?)) c c' := by
  refine ⟨by rw [h], by rw [h], by rw [h], by rw [h], by rw [h], ha, hk, fun k j => ?_⟩
  cases k with
  | daemonSet => simp [operandVersion?, hp.daemonSets]
  | module =>
    rw [operandVersion?, hp.modules]
    by_cases hj : j = id <;> simp [hj, operandVersion?]

theorem PutsDaemonSet.sets {x : Option DaemonSet} (hp : PutsDaemonSet id x c c') (h : c' = { c with
      daemonSets := c'.daemonSets, actions := c'.actions, version := c'.version })
    (ha : ∃ a : Action, a.OfOperand ∧ c'.actions = c.actions ++ [a]) (hk : c.Keyed → c'.Keyed) :
    Sets .daemonSet id (x.map Operand.version?) c c' := by
  refine ⟨by rw [h], by rw [h], by rw [h], by rw [h], by rw [h], ha, hk, fun k j => ?_⟩
  cases k with
  | module => simp [operandVersion?, hp.modules]
  | daemonSet =>
    rw [operandVersion?, hp.daemonSets]
    by_cases hj : j = id <;> simp [hj, operandVersion?]

section Store

variable {α : Type} [Resource α] {s : Store α} {a stored : α}

theorem create_absent (h : (s.get c).get? (idOf a) = none) :
    create s c a = (.ok (admitted a (c.version + 1)),
      s.set (c.nextVersion.log (.create s.kind (idOf a)))
        ((s.get (c.nextVersion.log (.create s.kind (idOf a)))).insert (idOf a)
          (admitted a (c.version + 1)))) := by
  rw [create, if_neg (by simp [Dict.contains, h])]
  rfl

theorem replace_current (h : (s.get c).get? (idOf a) = some stored)
    (hv : (Resource.metadata a).resourceVersion = (Resource.metadata stored).resourceVersion) :
    replace s c a =
      (.ok (Resource.withMetadata a (withVersion (Resource.metadata a) (c.version + 1))),
        s.set (c.nextVersion.log (.replace s.kind (idOf a)))
          ((s.get (c.nextVersion.log (.replace s.kind (idOf a)))).insert (idOf a)
            (Resource.withMetadata a (withVersion (Resource.metadata a) (c.version + 1))))) := by
  have hfresh : stale (Resource.metadata a) (Resource.metadata stored) = false := by simp [stale, hv]
  simp only [replace, h, hfresh, Bool.false_eq_true, if_false]
  rfl

end Store

-- A live object that takes the place of the stored one gets the next version.
def replaced {α : Type} [Resource α] (c : Cluster) (a : α) : α :=
  Resource.withMetadata a (withVersion (Resource.metadata a) (c.version + 1))

theorem sets_createModule {m : KernelModule} (h : c.modules.get? (idOf m) = none) :
    ∃ a c', c.answer (.createModule m) = (.ok a, c') ∧
      Sets .module (idOf m) (some m.loaderVersion?) c c' ∧
      PutsModule (idOf m) (some (admitted m (c.version + 1))) c c' := by
  have he := create_absent (s := moduleStore) h
  have hk : c.Keyed → (create moduleStore c m).2.Keyed := fun hk => hk.createModule m
  have hp : PutsModule (idOf m) (some (admitted m (c.version + 1))) c (create moduleStore c m).2 := by
    rw [he]
    exact ⟨fun j => Dict.get?_insert .., rfl⟩
  rw [he] at hk hp
  exact ⟨_, _, he, hp.sets rfl ⟨_, .create .., rfl⟩ hk, hp⟩

theorem sets_replaceModule {m stored : KernelModule} (h : c.modules.get? (idOf m) = some stored)
    (hv : m.metadata.resourceVersion = stored.metadata.resourceVersion) :
    ∃ a c', c.answer (.replaceModule m) = (.ok a, c') ∧
      Sets .module (idOf m) (some m.loaderVersion?) c c' ∧
      PutsModule (idOf m) (some (c.replaced m)) c c' := by
  have he := replace_current (s := moduleStore) h hv
  have hk : c.Keyed → (replace moduleStore c m).2.Keyed := fun hk => hk.replaceModule m
  have hp : PutsModule (idOf m) (some (c.replaced m)) c (replace moduleStore c m).2 := by
    rw [he]
    exact ⟨fun j => Dict.get?_insert .., rfl⟩
  rw [he] at hk hp
  exact ⟨_, _, he, hp.sets rfl ⟨_, .replace .., rfl⟩ hk, hp⟩

theorem sets_deleteModule {stored : KernelModule} (h : c.modules.get? id = some stored) :
    ∃ c', c.answer (.deleteModule id) = (.ok (), c') ∧ Sets .module id none c c' ∧
      PutsModule id none c c' := by
  have he : delete moduleStore c id =
      (moduleStore.set c (c.modules.erase id)).log (.delete .module id) := by
    rw [delete, if_pos (by simp [moduleStore, Dict.contains, h])]
    rfl
  have hk : c.Keyed → (delete moduleStore c id).Keyed := fun hk => hk.deleteModule id
  have hp : PutsModule id none c (delete moduleStore c id) := by
    rw [he]
    exact ⟨fun j => Dict.get?_erase .., rfl⟩
  rw [he] at hk hp
  exact ⟨_, congrArg (Except.ok (), ·) he, hp.sets rfl ⟨_, .delete .., rfl⟩ hk, hp⟩

theorem sets_createDaemonSet {d : DaemonSet} (h : c.daemonSets.get? (idOf d) = none) :
    ∃ a c', c.answer (.createDaemonSet d) = (.ok a, c') ∧
      Sets .daemonSet (idOf d) (some (Operand.version? d)) c c' ∧
      PutsDaemonSet (idOf d) (some (admitted d (c.version + 1))) c c' := by
  have he := create_absent (s := daemonSetStore) h
  have hk : c.Keyed → (create daemonSetStore c d).2.Keyed := fun hk => hk.createDaemonSet d
  have hp : PutsDaemonSet (idOf d) (some (admitted d (c.version + 1))) c
      (create daemonSetStore c d).2 := by
    rw [he]
    exact ⟨fun j => Dict.get?_insert .., rfl⟩
  rw [he] at hk hp
  exact ⟨_, _, he, hp.sets rfl ⟨_, .create .., rfl⟩ hk, hp⟩

theorem sets_replaceDaemonSet {d stored : DaemonSet} (h : c.daemonSets.get? (idOf d) = some stored)
    (hv : d.metadata.resourceVersion = stored.metadata.resourceVersion) :
    ∃ a c', c.answer (.replaceDaemonSet d) = (.ok a, c') ∧
      Sets .daemonSet (idOf d) (some (Operand.version? d)) c c' ∧
      PutsDaemonSet (idOf d) (some (c.replaced d)) c c' := by
  have he := replace_current (s := daemonSetStore) h hv
  have hk : c.Keyed → (replace daemonSetStore c d).2.Keyed := fun hk => hk.replaceDaemonSet d
  have hp : PutsDaemonSet (idOf d) (some (c.replaced d)) c (replace daemonSetStore c d).2 := by
    rw [he]
    exact ⟨fun j => Dict.get?_insert .., rfl⟩
  rw [he] at hk hp
  exact ⟨_, _, he, hp.sets rfl ⟨_, .replace .., rfl⟩ hk, hp⟩

end Cluster

end KernelRollout
