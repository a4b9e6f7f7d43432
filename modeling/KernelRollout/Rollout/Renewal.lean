import KernelRollout.Rollout.Operand
import KernelRollout.Rollout.Pass

namespace KernelRollout.Renewal

variable {σ : Type}

-- A live object keeps its identity and takes over what was built for the new version.
def renewedModule (live built : KernelModule) : KernelModule := { live with spec := built.spec }

def renewedDaemonSet (live built : DaemonSet) : DaemonSet :=
  { live with
    metadata := { live.metadata with labels := built.metadata.labels }
    spec := built.spec }

-- A daemon set that does not exist is left to the next pass.
def daemonSet (s : Setup σ) (t : Target) (built : DaemonSet) : Pass σ StepOutcome := do
  match ← Pass.call s (.getDaemonSet ⟨t.id.ns, built.metadata.name.getD ""⟩) with
  | none => pure .nothingToDo
  | some live =>
    if Operand.version? live = some t.version then pure .nothingToDo
    else do
      let _ ← Pass.call s (.replaceDaemonSet (renewedDaemonSet live built))
      pure .requeueNow

def kernelModule (s : Setup σ) (t : Target) (kind : ModuleKind) : Pass σ StepOutcome := do
  match ← Pass.call s (.getModule (t.moduleId kind)) with
  | none => pure .nothingToDo
  | some live =>
    if !kind.wanted t.spec then do
      Pass.call s (.deleteModule (t.moduleId kind))
      pure .requeueNow
    else if live.loaderVersion? = some t.version then pure .nothingToDo
    else do
      let built ← Pass.ofExcept (Operand.kernelModule t kind)
      let _ ← Pass.call s (.replaceModule (renewedModule live built))
      pure .requeueNow

def devicePlugin : Step σ := fun s t => do
  daemonSet s t (← Pass.ofExcept (Operand.devicePlugin t))

def cplane : Step σ := fun s t => do
  daemonSet s t (← Pass.ofExcept (Operand.cplane t))

def operands : Step σ :=
  Step.andThen devicePlugin <|
  Step.andThen (fun s t => kernelModule s t .onload) <|
  Step.andThen (fun s t => kernelModule s t .sfc) cplane

end KernelRollout.Renewal
