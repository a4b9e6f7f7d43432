import KernelRollout.Cluster.Edit

namespace KernelRollout

namespace Dict

variable {κ α : Type} [OrderedKey κ] {key : α → κ} {d : Dict κ α} {k : κ} {a : α}

def KeyedBy (key : α → κ) (d : Dict κ α) : Prop := ∀ k a, d.get? k = some a → key a = k

namespace KeyedBy

theorem empty : (Dict.empty : Dict κ α).KeyedBy key := by
  intro k a h
  simp at h

theorem insert (h : d.KeyedBy key) (hk : key a = k) : (d.insert k a).KeyedBy key := by
  intro j b hb
  rw [get?_insert] at hb
  split at hb
  case isTrue hj =>
    cases hb
    exact hk.trans hj.symm
  case isFalse => exact h j b hb

theorem filter (h : d.KeyedBy key) (p : κ → α → Bool) : (d.filter p).KeyedBy key := by
  intro j b hb
  rw [get?_filter, Option.filter_eq_some_iff] at hb
  exact h j b hb.left

theorem erase (h : d.KeyedBy key) (k : κ) : (d.erase k).KeyedBy key := h.filter _

theorem modify (h : d.KeyedBy key) (k : κ) {f : α → α} (hf : ∀ a, key (f a) = key a) :
    (d.modify k f).KeyedBy key := by
  intro j b hb
  rw [get?_modify] at hb
  split at hb
  case isTrue =>
    obtain ⟨a, ha, rfl⟩ := Option.map_eq_some_iff.mp hb
    exact (hf a).trans (h j a ha)
  case isFalse => exact h j b hb

end KeyedBy

end Dict

-- The metadata that an object is given last is the metadata that it has.
class LawfulResource (α : Type) [Resource α] : Prop where
  metadata_withMetadata : ∀ (a : α) (m : Metadata), Resource.metadata (Resource.withMetadata a m) = m
  withMetadata_withMetadata : ∀ (a : α) (m m' : Metadata),
    Resource.withMetadata (Resource.withMetadata a m) m' = Resource.withMetadata a m'

instance : LawfulResource Onload := ⟨fun _ _ => rfl, fun _ _ _ => rfl⟩
instance : LawfulResource Node := ⟨fun _ _ => rfl, fun _ _ _ => rfl⟩
instance : LawfulResource Pod := ⟨fun _ _ => rfl, fun _ _ _ => rfl⟩
instance : LawfulResource KernelModule := ⟨fun _ _ => rfl, fun _ _ _ => rfl⟩
instance : LawfulResource DaemonSet := ⟨fun _ _ => rfl, fun _ _ _ => rfl⟩

namespace Cluster

open LawfulResource

variable {α : Type} [Resource α] [LawfulResource α] {c : Cluster}

theorem idOf_withMetadata (a : α) (m : Metadata) : idOf (Resource.withMetadata a m) = m.identity := by
  rw [idOf, metadata_withMetadata]

theorem idOf_admitted (a : α) (n : Nat) : idOf (admitted a n) = idOf a := by
  rw [admitted, idOf_withMetadata]
  rfl

theorem name_admitted (n : Node) (v : Nat) : (admitted n v).name = n.name := rfl

-- Objects are stored under their own names. No edit and no call changes that.
structure Keyed (c : Cluster) : Prop where
  onloads    : c.onloads.KeyedBy idOf
  nodes      : c.nodes.KeyedBy Node.name
  pods       : c.pods.KeyedBy idOf
  modules    : c.modules.KeyedBy idOf
  daemonSets : c.daemonSets.KeyedBy idOf

namespace Keyed

theorem empty : ({} : Cluster).Keyed :=
  ⟨.empty, .empty, .empty, .empty, .empty⟩

-- A cluster with the same objects.
theorem congr {c' : Cluster} (h : c.Keyed) (ho : c'.onloads = c.onloads) (hn : c'.nodes = c.nodes)
    (hp : c'.pods = c.pods) (hm : c'.modules = c.modules) (hd : c'.daemonSets = c.daemonSets) :
    c'.Keyed :=
  ⟨ho ▸ h.onloads, hn ▸ h.nodes, hp ▸ h.pods, hm ▸ h.modules, hd ▸ h.daemonSets⟩

theorem edit (h : c.Keyed) (e : Edit) : (e.apply c).Keyed := by
  cases e with
  | putOnload o => exact { h with onloads := h.onloads.insert (idOf_admitted o _) }
  | putNode n => exact { h with nodes := h.nodes.insert (name_admitted n _) }
  | putPod p => exact { h with pods := h.pods.insert (idOf_admitted p _) }
  | putModule m => exact { h with modules := h.modules.insert (idOf_admitted m _) }
  | putDaemonSet d => exact { h with daemonSets := h.daemonSets.insert (idOf_admitted d _) }
  | removeOnload id => exact { h with onloads := h.onloads.erase id }
  | removePod id => exact { h with pods := h.pods.erase id }
  | setNodeLabels name labels => exact { h with nodes := h.nodes.modify name fun _ => rfl }
  | finishTerminations => exact { h with pods := h.pods.filter _ }
  | failNodePatches name => exact h.congr rfl rfl rfl rfl rfl
  | blockEviction id => exact h.congr rfl rfl rfl rfl rfl
  | clearActions => exact h.congr rfl rfl rfl rfl rfl

theorem applyAll (h : c.Keyed) (es : List Edit) : (Edit.applyAll es c).Keyed := by
  induction es generalizing c with
  | nil => exact h
  | cons e es hi => exact hi (h.edit e)

theorem createModule (h : c.Keyed) (m : KernelModule) : (create moduleStore c m).2.Keyed := by
  simp only [create]
  split
  · exact h
  · exact { h with modules := h.modules.insert (idOf_admitted m _) }

theorem createDaemonSet (h : c.Keyed) (d : DaemonSet) : (create daemonSetStore c d).2.Keyed := by
  simp only [create]
  split
  · exact h
  · exact { h with daemonSets := h.daemonSets.insert (idOf_admitted d _) }

theorem replaceModule (h : c.Keyed) (m : KernelModule) : (replace moduleStore c m).2.Keyed := by
  simp only [replace]
  split
  · exact h
  · split
    · exact h
    · exact { h with modules := h.modules.insert (idOf_withMetadata m _) }

theorem replaceDaemonSet (h : c.Keyed) (d : DaemonSet) : (replace daemonSetStore c d).2.Keyed := by
  simp only [replace]
  split
  · exact h
  · split
    · exact h
    · exact { h with daemonSets := h.daemonSets.insert (idOf_withMetadata d _) }

theorem deleteModule (h : c.Keyed) (id : Identity) : (delete moduleStore c id).Keyed := by
  simp only [delete]
  split
  · exact { h with modules := h.modules.erase id }
  · exact h

theorem patchOnloadStatus (h : c.Keyed) (id : Identity) (status : OnloadStatus) :
    (c.patchOnloadStatus id status).2.Keyed := by
  simp only [Cluster.patchOnloadStatus]
  split
  · exact h.congr rfl rfl rfl rfl rfl
  case h_2 o ho => exact { h with onloads := h.onloads.insert (h.onloads id o ho) }

theorem patchNodeLabels (h : c.Keyed) (n : Node) (changes : Node.LabelChanges) :
    (c.patchNodeLabels n changes).2.Keyed := by
  simp only [Cluster.patchNodeLabels]
  split
  · exact h
  · split
    · exact h
    case h_2 stored hs =>
      split
      · exact h
      · exact { h with nodes := h.nodes.insert (h.nodes n.name stored hs) }

theorem evictPod (h : c.Keyed) (id : Identity) : (c.evictPod id).2.Keyed := by
  simp only [Cluster.evictPod]
  split
  · exact h
  · split
    · exact h
    case h_2 p hp =>
      split
      · exact h
      · exact { h with pods := h.pods.insert (h.pods id p hp) }

theorem answer (h : c.Keyed) {β : Type} (call : Call β) : (c.answer call).2.Keyed := by
  cases call with
  | getOnload | listNodes | listPods | getModule | getDaemonSet => exact h
  | patchOnloadStatus id status => exact h.patchOnloadStatus id status
  | patchNodeLabels n changes => exact h.patchNodeLabels n changes
  | evictPod id => exact h.evictPod id
  | createModule m => exact h.createModule m
  | replaceModule m => exact h.replaceModule m
  | deleteModule id => exact h.deleteModule id
  | createDaemonSet d => exact h.createDaemonSet d
  | replaceDaemonSet d => exact h.replaceDaemonSet d

end Keyed

-- All resources have identifiers, because the cluster gives one to each.
def Identified (c : Cluster) : Prop :=
  ∀ id o, c.onloads.get? id = some o → o.metadata.uid.isSome = true

namespace Identified

theorem empty : ({} : Cluster).Identified := by
  intro id o h
  cases h

-- A resource that has an identifier is stored, and the others stay or go.
theorem insert {c' : Cluster} {id : Identity} {o : Onload} (h : c.Identified)
    (hc : c'.onloads = c.onloads.insert id o) (ho : o.metadata.uid.isSome = true) :
    c'.Identified := by
  intro j o' ho'
  rw [hc, Dict.get?_insert] at ho'
  split at ho'
  case isTrue =>
    cases ho'
    exact ho
  case isFalse => exact h j o' ho'

theorem edit (h : c.Identified) (e : Edit) : (e.apply c).Identified := by
  cases e with
  | putOnload o => exact h.insert rfl rfl
  | removeOnload id =>
    intro j o ho
    simp only [Edit.apply, Cluster.removeOnload, Dict.get?_erase] at ho
    split at ho
    case isTrue => cases ho
    case isFalse => exact h j o ho
  | _ => exact h

theorem applyAll (h : c.Identified) (es : List Edit) : (Edit.applyAll es c).Identified := by
  induction es generalizing c with
  | nil => exact h
  | cons e es hi => exact hi (h.edit e)

-- The status of a resource is the only part of it that a call changes.
theorem answer (h : c.Identified) {β : Type} (call : Call β) : (c.answer call).2.Identified := by
  cases call with
  | getOnload | listNodes | listPods | getModule | getDaemonSet => exact h
  | patchOnloadStatus id status =>
    simp only [Cluster.answer, Cluster.patchOnloadStatus]
    split
    case h_1 => exact h
    case h_2 o ho => exact h.insert rfl (h id o ho)
  | patchNodeLabels n changes =>
    simp only [Cluster.answer, Cluster.patchNodeLabels]
    repeat' split
    all_goals exact h
  | evictPod id =>
    simp only [Cluster.answer, Cluster.evictPod]
    repeat' split
    all_goals exact h
  | createModule | createDaemonSet =>
    simp only [Cluster.answer, Cluster.create]
    split <;> exact h
  | replaceModule | replaceDaemonSet =>
    simp only [Cluster.answer, Cluster.replace]
    repeat' split
    all_goals exact h
  | deleteModule id =>
    simp only [Cluster.answer, Cluster.delete]
    split <;> exact h

end Identified

end Cluster

end KernelRollout
