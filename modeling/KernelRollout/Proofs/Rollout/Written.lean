import KernelRollout.Proofs.Cluster.Names
import KernelRollout.Proofs.Cluster.OperandVersion
import KernelRollout.Rollout.Renewal

namespace KernelRollout

open Cluster (PutsModule PutsDaemonSet)

variable {t : Target} {c c' : Cluster}

namespace Operand

namespace Daemon

def build (t : Target) : Daemon → Except OperatorError DaemonSet
  | cplane       => Operand.cplane t
  | devicePlugin => Operand.devicePlugin t

end Daemon

theorem moduleId_inj {k₁ k₂ : ModuleKind} : t.moduleId k₁ = t.moduleId k₂ ↔ k₁ = k₂ := by
  constructor
  case mpr => exact fun h => h ▸ rfl
  case mp => exact fun h => (ModuleKind.eq_of_resourceName_eq (congrArg (·.name) h)).left

-- Operands cannot be built for a resource without an identifier.
structure Unowned (t : Target) (e : OperatorError) : Prop where
  uid   : t.onload.metadata.uid = none
  error : e = .missingField (.uid t.id)

theorem unowned_of_owner {e : OperatorError} (h : owner t = .error e) : Unowned t e := by
  rw [owner] at h
  split at h <;> cases h
  exact ⟨‹_›, rfl⟩

theorem of_kernelModule {kind : ModuleKind} {m : KernelModule} (h : kernelModule t kind = .ok m) :
    Cluster.idOf m = t.moduleId kind ∧ m.loaderVersion? = some t.version := by
  rw [kernelModule] at h
  cases howner : owner t <;> rw [howner] at h <;> cases h
  exact ⟨rfl, rfl⟩

theorem unowned_of_kernelModule {kind : ModuleKind} {e : OperatorError}
    (h : kernelModule t kind = .error e) : Unowned t e := by
  rw [kernelModule] at h
  cases howner : owner t <;> rw [howner] at h <;> cases h
  exact unowned_of_owner howner

theorem of_daemonSet {name : String} {pods : PodSpec} {d : DaemonSet}
    (h : daemonSet t name pods = .ok d) :
    Cluster.idOf d = ⟨t.id.ns, name⟩ ∧ version? d = some t.version := by
  rw [daemonSet] at h
  cases howner : owner t <;> rw [howner] at h <;> cases h
  exact ⟨rfl, Dict.get?_insert_self ..⟩

theorem unowned_of_daemonSet {name : String} {pods : PodSpec} {e : OperatorError}
    (h : daemonSet t name pods = .error e) : Unowned t e := by
  rw [daemonSet] at h
  cases howner : owner t <;> rw [howner] at h <;> cases h
  exact unowned_of_owner howner

namespace Daemon

variable {daemon : Daemon} {d : DaemonSet}

theorem of_build (h : daemon.build t = .ok d) :
    Cluster.idOf d = ⟨t.id.ns, daemon.resourceName t.id.name⟩ ∧ version? d = some t.version := by
  cases daemon with
  | cplane | devicePlugin => exact of_daemonSet h

theorem unowned_of_build {e : OperatorError} (h : daemon.build t = .error e) : Unowned t e := by
  cases daemon with
  | cplane | devicePlugin => exact unowned_of_daemonSet h

end Daemon

-- What becomes of an operand in a write, from what is built for the resource.
inductive Written {α : Type} [Resource α] (wanted : Bool) (build : Except OperatorError α)
    (renew : α → α → α) (c : Cluster) : Option α → Option α → Prop
  | kept (x : Option α) : Written wanted build renew c x x
  | created (built : α) (hw : wanted = true) (hb : build = .ok built) :
    Written wanted build renew c none (some (Cluster.admitted built (c.version + 1)))
  | renewed (live built : α) (hw : wanted = true) (hb : build = .ok built) :
    Written wanted build renew c (some live) (some (c.replaced (renew live built)))
  | deleted (live : α) (hw : wanted = false) : Written wanted build renew c (some live) none

-- What becomes of all operands of a resource.
structure Writes (t : Target) (c c' : Cluster) : Prop where
  modules    : ∀ kind, Written (kind.wanted t.spec) (kernelModule t kind) Renewal.renewedModule c
    (c.modules.get? (t.moduleId kind)) (c'.modules.get? (t.moduleId kind))
  daemonSets : ∀ daemon : Daemon, Written true (daemon.build t) Renewal.renewedDaemonSet c
    (c.daemonSets.get? ⟨t.id.ns, daemon.resourceName t.id.name⟩)
    (c'.daemonSets.get? ⟨t.id.ns, daemon.resourceName t.id.name⟩)

namespace Writes

theorem of_eq (hm : c'.modules = c.modules) (hd : c'.daemonSets = c.daemonSets) : Writes t c c' where
  modules kind := by
    rw [hm]
    exact .kept _
  daemonSets daemon := by
    rw [hd]
    exact .kept _

theorem of_putsModule {kind : ModuleKind} {x : Option KernelModule}
    (hp : PutsModule (t.moduleId kind) x c c')
    (hw : Written (kind.wanted t.spec) (kernelModule t kind) Renewal.renewedModule c
      (c.modules.get? (t.moduleId kind)) x) : Writes t c c' where
  modules k := by
    rw [hp.modules]
    split
    case isTrue h =>
      have hkind := moduleId_inj.mp h
      exact hkind ▸ hw
    case isFalse => exact .kept _
  daemonSets daemon := by
    rw [hp.daemonSets]
    exact .kept _

theorem of_putsDaemonSet {daemon : Daemon} {x : Option DaemonSet}
    (hp : PutsDaemonSet ⟨t.id.ns, daemon.resourceName t.id.name⟩ x c c')
    (hw : Written true (daemon.build t) Renewal.renewedDaemonSet c
      (c.daemonSets.get? ⟨t.id.ns, daemon.resourceName t.id.name⟩) x) : Writes t c c' where
  modules kind := by
    rw [hp.modules]
    exact .kept _
  daemonSets d := by
    rw [hp.daemonSets]
    split
    case isTrue h =>
      have hdaemon := Daemon.resourceName_inj.mp (congrArg (·.name) h)
      exact hdaemon ▸ hw
    case isFalse => exact .kept _

end Writes

end Operand

end KernelRollout
