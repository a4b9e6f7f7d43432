import KernelRollout.Worker.ContainerId
import KernelRollout.Worker.FileTree

namespace KernelRollout

-- The module has two parameters.
inductive KernelParameter where
  | serverPath
  | serverParams
deriving DecidableEq, Repr

namespace KernelParameter

def fileName : KernelParameter → String
  | serverPath   => "cplane_server_path"
  | serverParams => "cplane_server_params"

end KernelParameter

-- Writes parameters, one after the other, over a state of its own.
structure ParameterWriter (σ : Type) where
  write : KernelParameter → String → σ → Except WorkerError Unit × σ

namespace KernelParameters

variable {σ : Type}

-- Runs the server in the container of the worker.
def launcher : String := "/usr/bin/crictl"

def serverParams (container : ContainerId) (serverPath extra : String) : String :=
  "exec " ++ container.id ++ " " ++ serverPath ++ (if extra = "" then "" else " " ++ extra)

-- The path first, and the parameters only if that succeeded.
def configure (w : ParameterWriter σ) (container : ContainerId) (serverPath extra : String) (s : σ) :
    Except WorkerError Unit × σ :=
  match w.write .serverPath launcher s with
  | (.ok (), s)   => w.write .serverParams (serverParams container serverPath extra) s
  | (.error e, s) => (.error e, s)

-- Files in a directory.
def files (dir : String) : ParameterWriter FileTree where
  write p value t :=
    match t.write (FileTree.join dir p.fileName) value with
    | .ok t    => (.ok (), t)
    | .error e => (.error (.kernelParameter p.fileName e), t)

-- A record of what was to be written, refusing parameters if told to.
def recorder (refuse : KernelParameter → Option WorkerError) :
    ParameterWriter (List (KernelParameter × String)) where
  write p value s := ((refuse p).elim (.ok ()) .error, s ++ [(p, value)])

end KernelParameters

end KernelRollout
