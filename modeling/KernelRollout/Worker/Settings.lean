import KernelRollout.Worker.Error

namespace KernelRollout

structure WorkerSettings where
  podNs         : String
  podName       : String
  containerName : String
  serverPath    : String
  serverParams  : String
deriving DecidableEq

namespace WorkerSettings

-- An empty variable counts as missing.
def required (env : String → Option String) (name : String) : Except WorkerError String :=
  match env name with
  | none => .error (.missingVariable name)
  | some v => if v = "" then .error (.missingVariable name) else .ok v

def read (env : String → Option String) : Except WorkerError WorkerSettings := do
  let podNs ← required env "POD_NAMESPACE"
  let podName ← required env "POD_NAME"
  let containerName ← required env "CONTAINER_NAME"
  let serverPath ← required env "ONLOAD_CP_SERVER_PATH"
  let serverParams := (env "ONLOAD_CP_SERVER_PARAMS").getD ""
  return { podNs, podName, containerName, serverPath, serverParams }

end WorkerSettings

end KernelRollout
