import KernelRollout.Resource.Pod
import KernelRollout.Text.Cut
import KernelRollout.Worker.Error

namespace KernelRollout

structure ContainerId where
  runtime : String
  id      : String
deriving DecidableEq

namespace ContainerId

def separator : List Char := [':', '/', '/']

-- The separator has to occur exactly once.
def parse (raw : String) : Except WorkerError ContainerId :=
  match Text.cut separator raw.toList with
  | none => .error (.invalidContainerId raw)
  | some (runtime, id) =>
    match Text.cut separator id with
    | none   => .ok ⟨String.ofList runtime, String.ofList id⟩
    | some _ => .error (.invalidContainerId raw)

-- The runtimes that the server is known to start under.
def knownRuntimes : List String := ["cri-o", "containerd"]

def known (c : ContainerId) : Bool := knownRuntimes.contains c.runtime

end ContainerId

namespace ContainerStatus

def isRunning (s : ContainerStatus) : Bool :=
  s.ready && s.started = some true && (s.state.bind (·.running)).isSome

end ContainerStatus

namespace Pod

-- The first status of a container by its name.
def containerStatus? (p : Pod) (container : String) : Option ContainerStatus := do
  let status ← p.status
  let statuses ← status.containerStatuses
  statuses.find? (·.name = container)

-- The identifier of a container that is ready, started and running.
def runningContainerId? (p : Pod) (container : String) : Option String := do
  let s ← p.containerStatus? container
  if s.isRunning then s.containerID else none

end Pod

end KernelRollout
