import KernelRollout.Proofs.Rollout.AsBuilt
import KernelRollout.Proofs.Rollout.Remit

namespace KernelRollout

open Operand (Daemon Writes Written)
open Cluster (Within)

variable {id : Identity} {c c' : Cluster} {t : Target} {name : String} {d d' : DaemonSet}
variable {daemon : Daemon} {delay : Duration} {now : Timestamp} {w w' : World Cluster}

-- The same module, but for its specification and its version.
def KernelModule.Renewed (m m' : KernelModule) : Prop :=
  m' = { m with
    spec := m'.spec
    metadata := { m.metadata with resourceVersion := m'.metadata.resourceVersion } }

-- The same daemon set, but for its specification, its labels and its version.
def DaemonSet.Renewed (d d' : DaemonSet) : Prop :=
  d' = { d with
    spec := d'.spec
    metadata := { d.metadata with
      labels := d'.metadata.labels, resourceVersion := d'.metadata.resourceVersion } }

-- Modules and daemon sets that stay have been replaced at most.
structure Cluster.Renewed (c c' : Cluster) : Prop where
  modules    : ∀ j m m', c.modules.get? j = some m → c'.modules.get? j = some m' → m.Renewed m'
  daemonSets : ∀ j d d', c.daemonSets.get? j = some d → c'.daemonSets.get? j = some d' → d.Renewed d'

theorem Territory.daemonSets_iff {j : Identity} :
    (Territory.of id).daemonSets j ↔ ∃ daemon : Daemon, j = ⟨id.ns, daemon.resourceName id.name⟩ := by
  constructor
  case mp =>
    rintro ⟨name, hname, rfl⟩
    simp only [List.mem_cons, List.not_mem_nil, or_false] at hname
    obtain rfl | rfl := hname
    · exact ⟨.cplane, rfl⟩
    · exact ⟨.devicePlugin, rfl⟩
  case mpr =>
    rintro ⟨daemon, rfl⟩
    refine ⟨_, ?_, rfl⟩
    cases daemon <;> simp [Daemon.resourceName]

-- An operand that stays is the live one, or the live one with what is built.
theorem Operand.Written.relates {α : Type} [Resource α] {wanted : Bool}
    {build : Except OperatorError α} {renew : α → α → α} {a a' : α} {rel : α → α → Prop}
    (h : Written wanted build renew c (some a) (some a')) (hrefl : rel a a)
    (hrenew : ∀ built, rel a (c.replaced (renew a built))) : rel a a' := by
  cases h with
  | kept => exact hrefl
  | renewed _ built => exact hrenew built

namespace Cluster.Renewed

theorem of_eq (hm : c'.modules = c.modules) (hd : c'.daemonSets = c.daemonSets) : c.Renewed c' where
  modules j m m' h h' := by
    cases (hm ▸ h').symm.trans h
    rfl
  daemonSets j d d' h h' := by
    cases (hd ▸ h').symm.trans h
    rfl

theorem of_writes (hw : Operand.Writes t c c') (hin : Within (.of t.id) c c') : c.Renewed c' := by
  constructor
  case modules =>
    intro j m m' h h'
    by_cases hj : (Territory.of t.id).modules j
    case pos =>
      obtain ⟨kind, rfl⟩ := hj
      have hwritten := hw.modules kind
      rw [Target.moduleId, h, h'] at hwritten
      exact hwritten.relates rfl fun _ => rfl
    case neg =>
      cases (hin.modules j hj ▸ h').symm.trans h
      rfl
  case daemonSets =>
    intro j d d' h h'
    by_cases hj : (Territory.of t.id).daemonSets j
    case pos =>
      obtain ⟨daemon, rfl⟩ := Territory.daemonSets_iff.mp hj
      have hwritten := hw.daemonSets daemon
      rw [h, h'] at hwritten
      exact hwritten.relates rfl fun _ => rfl
    case neg =>
      cases (hin.daemonSets j hj ▸ h').symm.trans h
      rfl

end Cluster.Renewed

-- The live objects carry the versions that are stored, and so does what takes their place.
structure Cluster.Replaceable (c : Cluster) : Prop where
  modules    : ∀ j live built, c.modules.get? j = some live →
    ∃ m, (c.answer (.replaceModule (Renewal.renewedModule live built))).1 = .ok m
  daemonSets : ∀ j live built, c.daemonSets.get? j = some live →
    ∃ d, (c.answer (.replaceDaemonSet (Renewal.renewedDaemonSet live built))).1 = .ok d

theorem Cluster.Keyed.replaceable (hk : c.Keyed) : c.Replaceable where
  modules j live built h := by
    have hid : Cluster.idOf (Renewal.renewedModule live built) = j := hk.modules j live h
    have hstored : c.modules.get? (Cluster.idOf (Renewal.renewedModule live built)) = some live := by
      rw [hid, h]
    have ⟨m, _, hm, _⟩ := Cluster.sets_replaceModule hstored rfl
    exact ⟨m, congrArg Prod.fst hm⟩
  daemonSets j live built h := by
    have hid : Cluster.idOf (Renewal.renewedDaemonSet live built) = j := hk.daemonSets j live h
    have hstored :
        c.daemonSets.get? (Cluster.idOf (Renewal.renewedDaemonSet live built)) = some live := by
      rw [hid, h]
    have ⟨d, _, hd, _⟩ := Cluster.sets_replaceDaemonSet hstored rfl
    exact ⟨d, congrArg Prod.fst hd⟩

-- A pass replaces operands at most. A replacement finds the object as it was read, and a conflict,
-- which would be the answer of the pass, does not come up.
structure KeepsIdentities (id : Identity) (s : Setup Cluster) (w : World Cluster) : Prop where
  renewed     : w.cluster.Renewed (w.afterPass id s.requeueDelay s.now).cluster
  replaceable : w.cluster.Replaceable
  noConflict  : ∀ detail,
    w.passAnswer id s.requeueDelay s.now ≠ .error (.cluster (.conflict detail))

theorem renewed_afterPass (hk : w.cluster.Keyed) :
    w.cluster.Renewed (w.afterPass id delay now).cluster := by
  obtain ⟨hm, hd⟩ | ⟨t, rfl, _, hw⟩ := operands_afterPass id delay now hk
  · exact .of_eq hm hd
  · have hcalls : w.cluster.Calls (.of t.id) (w.afterPass t.id delay now).cluster :=
      Reconcile.calls_pass hk
    exact .of_writes hw hcalls.within

theorem keepsIdentities (hk : w.cluster.Keyed) : KeepsIdentities id (.inMemory delay now) w where
  renewed := renewed_afterPass hk
  replaceable := hk.replaceable
  noConflict detail h := by
    -- A pass that fails for the cluster at all has been refused a patch.
    cases (course_afterPass id delay now hk).failure h

namespace DaemonSet

def selector? (d : DaemonSet) : Option Labels := d.spec.bind (·.matchLabels)

-- The labels of the pods that are made from the template.
def podLabels? (d : DaemonSet) : Option Labels := d.spec.bind (·.template.metadata.bind (·.labels))

-- The selector is made of the name alone, and the pods have these labels.
structure SelectsByName (name : String) (d : DaemonSet) : Prop where
  selector  : d.selector? = some (Operand.selectorLabels name)
  podLabels : ∃ labels, d.podLabels? = some labels ∧
    ∀ key v, (Operand.selectorLabels name).get? key = some v → labels.get? key = some v

theorem SelectsByName.congr (h : d.SelectsByName name) (hs : d'.spec = d.spec) :
    d'.SelectsByName name where
  selector := by rw [selector?, hs, ← selector?, h.selector]
  podLabels := by
    rw [podLabels?, hs, ← podLabels?]
    exact h.podLabels

end DaemonSet

namespace Operand

theorem get?_labels {key v : String} (h : (selectorLabels name).get? key = some v) :
    (labels t name).get? key = some v := by
  rw [labels, Dict.get?_insert_other, h]
  rintro rfl
  simp [selectorLabels, Dict.get?_insert, operandNameLabel, operandVersionLabel] at h

theorem selectsByName_of_daemonSet {pods : PodSpec} (h : daemonSet t name pods = .ok d) :
    d.SelectsByName name := by
  rw [daemonSet] at h
  cases howner : owner t <;> rw [howner] at h <;> cases h
  exact ⟨rfl, labels t name, rfl, fun _ _ => get?_labels⟩

theorem Daemon.selectsByName_of_build (h : daemon.build t = .ok d) :
    d.SelectsByName (daemon.resourceName t.id.name) := by
  cases daemon with
  | cplane | devicePlugin => exact selectsByName_of_daemonSet h

end Operand

-- A drain looks for the pods that the device plugin of the resource selects.
theorem Drain.labels_pluginPods (node : String) : (pluginPods t node).labels =
    .ofLabels (Operand.selectorLabels (Operand.devicePluginName t.id.name)) := rfl

-- What the daemon sets of a resource select their pods by.
structure Selecting (id : Identity) (c : Cluster) : Prop where
  byName  : ∀ (daemon : Daemon) d,
    c.daemonSets.get? ⟨id.ns, daemon.resourceName id.name⟩ = some d →
    d.SelectsByName (daemon.resourceName id.name)
  drained : ∀ d, c.daemonSets.get? ⟨id.ns, Operand.devicePluginName id.name⟩ = some d →
    ∀ (t : Target) (node : String), t.id = id → (Drain.pluginPods t node).ns = some id.ns ∧
      d.selector?.map .ofLabels = some (Drain.pluginPods t node).labels

namespace Selecting

theorem of_byName (h : ∀ (daemon : Daemon) d,
    c.daemonSets.get? ⟨id.ns, daemon.resourceName id.name⟩ = some d →
    d.SelectsByName (daemon.resourceName id.name)) : Selecting id c where
  byName := h
  drained d hd t node hid := by
    subst hid
    refine ⟨rfl, ?_⟩
    rw [(h .devicePlugin d hd).selector, Drain.labels_pluginPods]
    rfl

-- Daemon sets that stay keep their specifications.
theorem congr (h : Selecting id c) (hs : ∀ (daemon : Daemon) d',
    c'.daemonSets.get? ⟨id.ns, daemon.resourceName id.name⟩ = some d' →
    ∃ d, c.daemonSets.get? ⟨id.ns, daemon.resourceName id.name⟩ = some d ∧ d'.spec = d.spec) :
    Selecting id c' := by
  refine .of_byName fun daemon d' hd' => ?_
  obtain ⟨d, hd, hspec⟩ := hs daemon d' hd'
  exact (h.byName daemon d hd).congr hspec

theorem writes (h : Selecting t.id c) (hw : Writes t c c') : Selecting t.id c' := by
  refine .of_byName fun daemon d' hd' => ?_
  have hold := h.byName daemon
  have hwritten := hw.daemonSets daemon
  rw [hd'] at hwritten
  generalize c.daemonSets.get? _ = x at hwritten hold
  cases hwritten with
  | kept => exact hold d' rfl
  | created built _ hb | renewed _ built _ hb =>
    exact (Daemon.selectsByName_of_build hb).congr rfl

theorem afterPass (h : Selecting id w.cluster) (hk : w.cluster.Keyed) :
    Selecting id (w.afterPass id delay now).cluster := by
  obtain ⟨_, hd⟩ | ⟨t, rfl, _, hw⟩ := operands_afterPass id delay now hk
  · exact h.congr fun _ d' hd' => ⟨d', hd ▸ hd', rfl⟩
  · exact h.writes hw

end Selecting

-- Others may do anything but create daemon sets of the resource or change what they are made of.
structure LeavesDaemonSets (id : Identity) (c c' : Cluster) : Prop where
  keyed : c'.Keyed
  specs : ∀ (daemon : Daemon) d',
    c'.daemonSets.get? ⟨id.ns, daemon.resourceName id.name⟩ = some d' →
    ∃ d, c.daemonSets.get? ⟨id.ns, daemon.resourceName id.name⟩ = some d ∧ d'.spec = d.spec

theorem LeavesOperands.leavesDaemonSets (h : LeavesOperands id c c') : LeavesDaemonSets id c c' where
  keyed := h.keyed
  specs daemon d' hd' := ⟨d', h.daemonSets daemon ▸ hd', rfl⟩

-- If all daemon sets of a resource were created by its passes, then however it is edited, passes
-- replace operands without a conflict and change nothing of them but their specifications, versions
-- and, of daemon sets, labels. All that time the selectors are the same, pods carry them, and drains
-- look for them.
theorem identities_kept (hk : w.cluster.Keyed)
    (hnone : ∀ daemon : Daemon,
      w.cluster.daemonSets.get? ⟨id.ns, daemon.resourceName id.name⟩ = none)
    (r : Run (LeavesDaemonSets id) id w w') :
    (∀ c ∈ r.clusters, Selecting id c) ∧ r.BeforePasses (KeepsIdentities id) := by
  have hstart : Selecting id w.cluster := .of_byName fun daemon d hd => by
    cases (hnone daemon).symm.trans hd
  have hclusters : ∀ c ∈ r.clusters, c.Keyed ∧ Selecting id c := by
    refine r.forall_mem_clusters ⟨hk, hstart⟩ ?_ ?_
    · exact fun delay now w ⟨hk, h⟩ => ⟨keyed_afterPass delay now hk, h.afterPass hk⟩
    · exact fun c c' ⟨_, h⟩ ho => ⟨ho.keyed, h.congr ho.specs⟩
  exact ⟨fun c hc => (hclusters c hc).right,
    .of_clusters hclusters fun _ _ _ ⟨hk, _⟩ => keepsIdentities hk⟩

-- A release with an SFC module is edited into a later one without. The module is deleted, and then the
-- device plugin is replaced.
theorem identities_kept_edited :
    ∃ (w w' : World Cluster) (r : Run (LeavesDaemonSets Sample.resource) Sample.resource w w'),
      w.cluster.Keyed ∧
      (∀ daemon : Daemon, w.cluster.daemonSets.get?
        ⟨Sample.resource.ns, daemon.resourceName Sample.resource.name⟩ = none) ∧
      .replace .daemonSet ⟨Sample.resource.ns, Operand.devicePluginName Sample.resource.name⟩ ∈
        w'.cluster.actions ∧
      (∀ c ∈ r.clusters, Selecting Sample.resource c) ∧
      r.BeforePasses (KeepsIdentities Sample.resource) := by
  let w : World Cluster := {
    cluster := Edit.applyAll [.putOnload (Sample.sfcOnload "1")] {}
    metrics := {}
    backoff := { min := .zero, max := .zero } }
  have hk : w.cluster.Keyed := Cluster.Keyed.empty.applyAll _
  have hnone : ∀ daemon : Daemon, w.cluster.daemonSets.get?
      ⟨Sample.resource.ns, daemon.resourceName Sample.resource.name⟩ = none := fun _ => rfl
  let pass (w : World Cluster) : World Cluster := w.afterPass Sample.resource .zero Sample.now
  let w₁ : World Cluster := pass (pass (pass (pass w)))
  let r₁ : Run (LeavesDaemonSets Sample.resource) Sample.resource w w₁ :=
    Run.start.pass .zero Sample.now |>.pass .zero Sample.now |>.pass .zero Sample.now
      |>.pass .zero Sample.now
  let edited : Cluster := (Edit.putOnload (Sample.onload "2")).apply w₁.cluster
  have hedited : LeavesOperands Sample.resource w₁.cluster edited :=
    .of_edit (r₁.keyed hk fun _ _ h => h.keyed) (by simp) (by simp)
  let w' : World Cluster := pass (pass { w₁ with cluster := edited })
  let r : Run (LeavesDaemonSets Sample.resource) Sample.resource w w' :=
    r₁.step hedited.leavesDaemonSets |>.pass .zero Sample.now |>.pass .zero Sample.now
  have hreplaced : .replace .daemonSet
      ⟨Sample.resource.ns, Operand.devicePluginName Sample.resource.name⟩ ∈ w'.cluster.actions := by
    decide +kernel
  have ⟨hselecting, hkeeps⟩ := identities_kept hk hnone r
  exact ⟨w, w', r, hk, hnone, hreplaced, hselecting, hkeeps⟩

end KernelRollout
