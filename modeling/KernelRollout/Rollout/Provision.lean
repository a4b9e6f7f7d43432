import KernelRollout.Rollout.Operand
import KernelRollout.Rollout.Pass

namespace KernelRollout.Provision

variable {σ : Type}

-- A module that is wanted and missing is created, and one that is not wanted is deleted.
def kernelModule (s : Setup σ) (t : Target) (kind : ModuleKind) : Pass σ StepOutcome := do
  match ← Pass.call s (.getModule (t.moduleId kind)), kind.wanted t.spec with
  | none, true => do
    let m ← Pass.ofExcept (Operand.kernelModule t kind)
    let _ ← Pass.call s (.createModule m)
    pure .requeueNow
  | some _, false => do
    Pass.call s (.deleteModule (t.moduleId kind))
    pure .requeueNow
  | _, _ => pure .nothingToDo

def kernelModules : Step σ :=
  Step.andThen (fun s t => kernelModule s t .onload) (fun s t => kernelModule s t .sfc)

def daemonSet (s : Setup σ) (t : Target) (name : String) (d : DaemonSet) : Pass σ StepOutcome := do
  match ← Pass.call s (.getDaemonSet ⟨t.id.ns, name⟩) with
  | some _ => pure .nothingToDo
  | none => do
    let _ ← Pass.call s (.createDaemonSet d)
    pure .requeueNow

-- Both daemon sets are built before the first is looked up.
def daemonSets : Step σ := fun s t => do
  let cplane ← Pass.ofExcept (Operand.cplane t)
  let plugin ← Pass.ofExcept (Operand.devicePlugin t)
  Step.andThen (fun s t => daemonSet s t (Operand.cplaneName t.id.name) cplane)
    (fun s t => daemonSet s t (Operand.devicePluginName t.id.name) plugin) s t

end KernelRollout.Provision
