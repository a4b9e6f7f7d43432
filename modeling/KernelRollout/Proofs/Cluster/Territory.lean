import KernelRollout.Proofs.Cluster.Names
import KernelRollout.Proofs.Cluster.Pointwise

namespace KernelRollout

-- Labels of nodes by their keys, and objects by where they are stored.
structure Territory where
  labels     : String → Prop
  onloads    : Identity → Prop
  modules    : Identity → Prop
  daemonSets : Identity → Prop

namespace Territory

-- What belongs to a resource.
def of (id : Identity) : Territory where
  labels key   := ∃ m : Marker, key = m.key id
  onloads j    := j = id
  modules j    := ∃ kind : ModuleKind, j = ⟨id.ns, kind.resourceName id.name⟩
  daemonSets j := ∃ name ∈ [Operand.cplaneName id.name, Operand.devicePluginName id.name],
    j = ⟨id.ns, name⟩

-- What belongs to the rollout of a resource: its markers and operands.
def rollout (id : Identity) : Territory := { of id with onloads := fun _ => False }

theorem marker_mem {id : Identity} (m : Marker) : (rollout id).labels (m.key id) := ⟨m, rfl⟩

-- Calls that write nothing outside of the territory. Pods belong to nobody.
def Admits {α : Type} (T : Territory) : Call α → Prop
  | .patchOnloadStatus id _    => T.onloads id
  | .patchNodeLabels _ changes => ∃ key v, T.labels key ∧ changes = Node.change key v
  | .createModule m            => T.modules (Cluster.idOf m)
  | .replaceModule m           => T.modules (Cluster.idOf m)
  | .deleteModule id           => T.modules id
  | .createDaemonSet d         => T.daemonSets (Cluster.idOf d)
  | .replaceDaemonSet d        => T.daemonSets (Cluster.idOf d)
  | _                          => True

-- All that belongs to the rollout of a resource belongs to the resource.
theorem Admits.of_rollout {α : Type} {id : Identity} {call : Call α} (h : (rollout id).Admits call) :
    (of id).Admits call := by
  cases call with
  | patchOnloadStatus => exact h.elim
  | _ => exact h

-- Nothing belongs to both.
structure Apart (T U : Territory) : Prop where
  labels     : ∀ key, T.labels key → ¬U.labels key
  onloads    : ∀ id, T.onloads id → ¬U.onloads id
  modules    : ∀ id, T.modules id → ¬U.modules id
  daemonSets : ∀ id, T.daemonSets id → ¬U.daemonSets id

theorem Apart.symm {T U : Territory} (h : T.Apart U) : U.Apart T where
  labels key hu ht := h.labels key ht hu
  onloads id hu ht := h.onloads id ht hu
  modules id hu ht := h.modules id ht hu
  daemonSets id hu ht := h.daemonSets id ht hu

-- Different resources have nothing in common.
theorem apart_of_ne {id₁ id₂ : Identity} (h₁ : '.' ∉ id₁.ns.toList) (h₂ : '.' ∉ id₂.ns.toList)
    (hne : id₁ ≠ id₂) : (of id₁).Apart (of id₂) where
  labels := by
    rintro key ⟨m₁, hkey₁⟩ ⟨m₂, hkey₂⟩
    exact hne (Marker.eq_of_key_eq h₁ h₂ (hkey₁.symm.trans hkey₂)).right
  onloads j hj₁ hj₂ := hne (hj₁.symm.trans hj₂)
  modules := by
    rintro j ⟨kind₁, hj₁⟩ ⟨kind₂, hj₂⟩
    have ⟨hns, hname⟩ := Identity.mk.inj (hj₁.symm.trans hj₂)
    have ⟨_, hname⟩ := ModuleKind.eq_of_resourceName_eq hname
    exact hne (by cases id₁; cases id₂; simp_all)
  daemonSets := by
    rintro j ⟨name₁, hname₁, hj₁⟩ ⟨name₂, hname₂, hj₂⟩
    have ⟨hns, hname⟩ := Identity.mk.inj (hj₁.symm.trans hj₂)
    have hsame : id₁.name = id₂.name := by
      subst hname
      simp only [List.mem_cons, List.not_mem_nil, or_false] at hname₁ hname₂
      obtain h₁ | h₁ := hname₁ <;> obtain h₂ | h₂ := hname₂ <;> rw [h₁] at h₂
      · exact Operand.cplaneName_inj h₂
      · exact absurd h₂ Operand.cplaneName_ne_devicePluginName
      · exact absurd h₂.symm Operand.cplaneName_ne_devicePluginName
      · exact Operand.devicePluginName_inj h₂
    exact hne (by cases id₁; cases id₂; simp_all)

end Territory

-- The same node, but for some labels and the version.
structure Node.Remarked (own : String → Prop) (n n' : Node) : Prop where
  rest   : n' = { n with metadata := { n.metadata with
    labels := n'.metadata.labels, resourceVersion := n'.metadata.resourceVersion } }
  labels : ∀ key, ¬own key → n'.label? key = n.label? key
  kept   : n.metadata.labels.isSome = true → n'.metadata.labels.isSome = true

namespace Node.Remarked

variable {own : String → Prop} {n n₁ n' : Node} {key : String} {v : Option String}

theorem refl : Remarked own n n := ⟨rfl, fun _ _ => rfl, id⟩

theorem trans (h₁ : Remarked own n n₁) (h₂ : Remarked own n₁ n') : Remarked own n n' where
  rest := by rw [h₂.rest, h₁.rest]
  labels key hk := (h₂.labels key hk).trans (h₁.labels key hk)
  kept h := h₂.kept (h₁.kept h)

theorem mono {own' : String → Prop} (h : Remarked own n n') (ho : ∀ key, own key → own' key) :
    Remarked own' n n' :=
  ⟨h.rest, fun key hk => h.labels key (mt (ho key) hk), h.kept⟩

theorem name_eq (h : Remarked own n n') : n'.name = n.name := by rw [h.rest]; rfl

theorem relabelled (hk : own key) (version : Nat) : Remarked own n (n.relabelled key v version) where
  rest := rfl
  labels k hn := by
    rw [label?_relabelled, if_neg]
    rintro rfl
    exact hn hk
  kept _ := rfl

-- The same change on both sides.
theorem both (h : Remarked own n n') (version version' : Nat) :
    Remarked own (n.relabelled key v version) (n'.relabelled key v version') where
  rest := by
    rw [h.rest]
    rfl
  labels k hk := by rw [label?_relabelled, label?_relabelled, h.labels k hk]
  kept _ := rfl

end Node.Remarked

def Pod.evicted (p : Pod) (version : Nat) : Pod :=
  let m := { p.metadata with deletionTimestamp := some Cluster.evictionTime }
  { p with metadata := Cluster.withVersion m version }

-- The same pod, or one that has come to terminate.
inductive Pod.EvictedAtMost (p : Pod) : Pod → Prop
  | kept : EvictedAtMost p p
  | evicted (h : p.metadata.deletionTimestamp = none) (version : Nat) : EvictedAtMost p (p.evicted version)

theorem Pod.EvictedAtMost.trans {p p₁ p' : Pod} (h₁ : p.EvictedAtMost p₁) (h₂ : p₁.EvictedAtMost p') :
    p.EvictedAtMost p' := by
  cases h₁ with
  | kept => exact h₂
  | evicted h version =>
    cases h₂ with
    | kept => exact .evicted h version
    | evicted h' => cases h'

-- A resource without what the cluster and the operator write into it.
def Onload.declared (o : Onload) : Onload :=
  { o with status := none, metadata := { o.metadata with resourceVersion := none } }

namespace Cluster

-- Everything outside of the territory is as it was, and no pod is gone.
structure Within (T : Territory) (c c' : Cluster) : Prop where
  nodes            : c.nodes.Pointwise (fun _ => Node.Remarked T.labels) c'.nodes
  pods             : c.pods.Pointwise (fun _ => Pod.EvictedAtMost) c'.pods
  onloads          : ∀ id, ¬T.onloads id → c'.onloads.get? id = c.onloads.get? id
  declared         : c.onloads.Pointwise (fun _ o o' => o'.declared = o.declared) c'.onloads
  modules          : ∀ id, ¬T.modules id → c'.modules.get? id = c.modules.get? id
  daemonSets       : ∀ id, ¬T.daemonSets id → c'.daemonSets.get? id = c.daemonSets.get? id
  failingNodes     : c'.failingNodes = c.failingNodes
  blockedEvictions : c'.blockedEvictions = c.blockedEvictions

variable {T : Territory} {c c₁ c' : Cluster} {id : Identity} {n : Node} {key : String} {v : Option String}

-- What is stored in a territory makes no difference outside of it.
theorem get?_insert_outside {α : Type} {own : Identity → Prop} (d : Dict Identity α) (a : α)
    (hid : own id) : ∀ j, ¬own j → (d.insert id a).get? j = d.get? j := by
  intro j hj
  refine Dict.get?_insert_other d a ?_
  rintro rfl
  exact hj hid

namespace Within

theorem refl : Within T c c where
  nodes := .refl fun _ _ => .refl
  pods := .refl fun _ _ => .kept
  onloads _ _ := rfl
  declared := .refl fun _ _ => rfl
  modules _ _ := rfl
  daemonSets _ _ := rfl
  failingNodes := rfl
  blockedEvictions := rfl

theorem trans (h₁ : Within T c c₁) (h₂ : Within T c₁ c') : Within T c c' where
  nodes := h₁.nodes.trans h₂.nodes fun _ _ _ _ => .trans
  pods := h₁.pods.trans h₂.pods fun _ _ _ _ => .trans
  onloads id hid := (h₂.onloads id hid).trans (h₁.onloads id hid)
  declared := h₁.declared.trans h₂.declared fun _ _ _ _ h h' => h'.trans h
  modules id hid := (h₂.modules id hid).trans (h₁.modules id hid)
  daemonSets id hid := (h₂.daemonSets id hid).trans (h₁.daemonSets id hid)
  failingNodes := h₂.failingNodes.trans h₁.failingNodes
  blockedEvictions := h₂.blockedEvictions.trans h₁.blockedEvictions

theorem patchOnloadStatus (status : OnloadStatus) (hid : T.onloads id) :
    Within T c (c.patchOnloadStatus id status).2 := by
  rw [Cluster.patchOnloadStatus]
  split
  case h_1 => exact { refl with }
  case h_2 o ho =>
    exact { refl with
      onloads := get?_insert_outside _ _ hid
      declared := .insert_right (.refl fun _ _ => rfl) ho rfl }

theorem patchNodeLabels (n : Node) (v : Option String) (hkey : T.labels key) :
    Within T c (c.patchNodeLabels n (Node.change key v)).2 := by
  rw [Cluster.patchNodeLabels]
  split
  case isTrue => exact refl
  case isFalse =>
    split
    case h_1 => exact refl
    case h_2 stored hs =>
      split
      case isTrue => exact refl
      case isFalse => exact { refl with nodes := .insert_right (.refl fun _ _ => .refl) hs (.relabelled hkey _) }

theorem evictPod (c : Cluster) (id : Identity) : Within T c (c.evictPod id).2 := by
  rw [Cluster.evictPod]
  split
  case isTrue => exact refl
  case isFalse =>
    split
    case h_1 => exact refl
    case h_2 p hp =>
      split
      case isTrue => exact refl
      case isFalse hterminating =>
        have hnone : p.metadata.deletionTimestamp = none := by
          simpa [Metadata.terminating] using hterminating
        exact { refl with pods := .insert_right (.refl fun _ _ => .kept) hp (.evicted hnone _) }

theorem of_modules {modules : Dict Identity KernelModule} {actions : List Action} {version : Nat}
    (h : ∀ id, ¬T.modules id → modules.get? id = c.modules.get? id) :
    Within T c { c with modules, actions, version } :=
  { refl with modules := h }

theorem of_daemonSets {daemonSets : Dict Identity DaemonSet} {actions : List Action} {version : Nat}
    (h : ∀ id, ¬T.daemonSets id → daemonSets.get? id = c.daemonSets.get? id) :
    Within T c { c with daemonSets, actions, version } :=
  { refl with daemonSets := h }

theorem answer {α : Type} {call : Call α} (h : T.Admits call) : Within T c (c.answer call).2 := by
  cases call with
  | getOnload | listNodes | listPods | getModule | getDaemonSet => exact .refl
  | patchOnloadStatus id status => exact .patchOnloadStatus status h
  | patchNodeLabels n changes =>
    obtain ⟨key, v, hkey, hchanges⟩ := h
    subst hchanges
    exact .patchNodeLabels n v hkey
  | evictPod id => exact .evictPod c id
  | createModule m =>
    simp only [Cluster.answer, create]
    split
    case isTrue => exact .refl
    case isFalse => exact .of_modules (get?_insert_outside _ _ h)
  | replaceModule m =>
    simp only [Cluster.answer, replace]
    split
    case h_1 => exact .refl
    case h_2 =>
      split
      case isTrue => exact .refl
      case isFalse => exact .of_modules (get?_insert_outside _ _ h)
  | deleteModule id =>
    simp only [Cluster.answer, delete]
    split
    case isTrue => exact .of_modules fun j hj => Dict.get?_erase_other _ fun he => hj (he ▸ h)
    case isFalse => exact .refl
  | createDaemonSet d =>
    simp only [Cluster.answer, create]
    split
    case isTrue => exact .refl
    case isFalse => exact .of_daemonSets (get?_insert_outside _ _ h)
  | replaceDaemonSet d =>
    simp only [Cluster.answer, replace]
    split
    case h_1 => exact .refl
    case h_2 =>
      split
      case isTrue => exact .refl
      case isFalse => exact .of_daemonSets (get?_insert_outside _ _ h)

end Within

-- Calls that keep to the territory.
inductive Calls (T : Territory) : Cluster → Cluster → Prop
  | refl (c : Cluster) : Calls T c c
  | step {c c' : Cluster} {α : Type} (call : Call α) (h : T.Admits call)
    (rest : Calls T (c.answer call).2 c') : Calls T c c'

namespace Calls

theorem single {α : Type} (call : Call α) (h : T.Admits call) : Calls T c (c.answer call).2 :=
  .step call h (.refl _)

theorem trans (h₁ : Calls T c c₁) (h₂ : Calls T c₁ c') : Calls T c c' := by
  induction h₁ with
  | refl => exact h₂
  | step call h _ hi => exact .step call h (hi h₂)

-- What every call keeps holds in the end.
theorem preserves {P : Cluster → Prop} (h : Calls T c c') (hp : P c)
    (hstep : ∀ {α} c (call : Call α), P c → T.Admits call → P (c.answer call).2) : P c' := by
  induction h with
  | refl => exact hp
  | step call h _ hi => exact hi (hstep _ call hp h)

theorem mono {U : Territory} (h : Calls T c c')
    (hadmits : ∀ {α} (call : Call α), T.Admits call → U.Admits call) : Calls U c c' :=
  h.preserves (P := Calls U c) (.refl c) fun _ call hc h => hc.trans (.single call (hadmits call h))

theorem keyed (h : Calls T c c') (hk : c.Keyed) : c'.Keyed :=
  h.preserves hk fun _ call hk _ => hk.answer call

theorem within (h : Calls T c c') : Within T c c' :=
  h.preserves (P := Within T c) .refl fun _ _ hw ha => hw.trans (.answer ha)

end Calls

-- All that belongs to a resource is as it was.
structure Untouched (id : Identity) (c c' : Cluster) : Prop where
  markers    : ∀ m name, c'.marker? id m name = c.marker? id m name
  modules    : ∀ kind : ModuleKind, c'.modules.get? ⟨id.ns, kind.resourceName id.name⟩ =
    c.modules.get? ⟨id.ns, kind.resourceName id.name⟩
  daemonSets : ∀ operand ∈ [Operand.cplaneName, Operand.devicePluginName],
    c'.daemonSets.get? ⟨id.ns, operand id.name⟩ = c.daemonSets.get? ⟨id.ns, operand id.name⟩
  onload     : c'.onloads.get? id = c.onloads.get? id

theorem Within.marker?_eq (h : Within T c c') {m : Marker} (hm : ¬T.labels (m.key id)) (name : String) :
    c'.marker? id m name = c.marker? id m name := by
  have hname := h.nodes name
  rw [marker?, marker?]
  generalize c.nodes.get? name = x, c'.nodes.get? name = x' at hname
  cases hname with
  | none => rfl
  | some h => exact h.labels _ hm

theorem Within.untouched (h : Within T c c') (ha : (Territory.of id).Apart T) : Untouched id c c' where
  markers m := h.marker?_eq (ha.labels _ ⟨m, rfl⟩)
  modules kind := h.modules _ (ha.modules _ ⟨kind, rfl⟩)
  daemonSets operand hoperand := by
    refine h.daemonSets _ (ha.daemonSets _ ⟨operand id.name, ?_, rfl⟩)
    simp only [List.mem_cons, List.not_mem_nil, or_false] at hoperand ⊢
    exact hoperand.imp (fun he => by rw [he]) fun he => by rw [he]
  onload := h.onloads id (ha.onloads id rfl)

end Cluster

end KernelRollout
