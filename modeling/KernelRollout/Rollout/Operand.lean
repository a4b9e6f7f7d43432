import KernelRollout.Resource.DaemonSet
import KernelRollout.Rollout.Target

namespace KernelRollout

namespace Operand

def cplaneName (name : String) : String := name ++ "-onload-cplane-ds"

def devicePluginName (name : String) : String := name ++ "-onload-device-plugin-ds"

def defaultHostPath : String := "/opt/onload"

def pluginSocketDir : String := "/var/lib/kubelet/device-plugins"

def sysfsDir : String := "/sys/module/onload"

def criSocket : String := "/run/crio/crio.sock"

-- Points the module at the launcher, which starts the server in this container.
def cplaneScript : String :=
  "set -e\n" ++
  "cid=$(grep -o -m1 -E '[0-9a-f]\x7b64\x7d' /proc/self/cgroup)\n" ++
  "printf %s /usr/bin/crictl > /sys/module/onload/parameters/cplane_server_path\n" ++
  "printf %s \"exec $cid /opt/onload/sbin/onload_cp_server -K\" > /sys/module/onload/parameters/cplane_server_params\n" ++
  "exec sleep infinity\n"

def installScript : String := "set -e; cp -TRv /opt/onload /host/onload"

def shell (script : String) : List String := ["/bin/sh", "-c", script]

def filled? (s : String) : Option String := if s = "" then none else some s

-- Operands belong to the resource, which has to have an identifier for that.
def owner (t : Target) : Except OperatorError OwnerReference :=
  match t.onload.metadata.uid with
  | none => .error (.missingField (.uid t.id))
  | some uid => .ok {
      apiVersion := Resource.apiVersion Onload, kind := Resource.kind Onload, name := t.id.name, uid,
      controller := some true, blockOwnerDeletion := none }

def moduleSpec (t : Target) (kind : ModuleKind) : KernelModuleSpec where
  moduleLoader := {
    container := {
      modprobe := ⟨kind.moduleName, ["--first-time"]⟩
      kernelMappings := kind.kernelMappings t.spec.onload
      imagePullPolicy := t.spec.onload.imagePullPolicy
      version := some t.version
      inTreeModuleToRemove := kind.replacedModule?
    }
    serviceAccountName := filled? t.spec.serviceAccountName
  }
  selector := t.spec.selector

def kernelModule (t : Target) (kind : ModuleKind) : Except OperatorError KernelModule := do
  let owner ← owner t
  let id := t.moduleId kind
  return {
    metadata := { name := some id.name, ns := some id.ns, ownerReferences := some [owner] }
    spec := moduleSpec t kind }

def boolText (b : Bool) : String := if b then "true" else "false"

def flag (name : String) (text : α → String) : Option α → List String
  | none   => []
  | some a => [name ++ "=" ++ text a]

-- Only settings that are set are passed on, so that the plugin has its own defaults for the others.
def devicePluginArgs (p : DevicePlugin) : List String :=
  flag "-maxPods" (fun n => toString n.toInt) p.maxPodsPerNode ++
  flag "-setPreload" boolText p.setPreload ++
  flag "-mountOnload" boolText p.mountOnload ++
  flag "-hostOnloadPath" id p.hostOnloadPath ++
  flag "-baseMountPath" id p.baseMountPath ++
  flag "-binMountPath" id p.binMountPath ++
  flag "-libMountPath" id p.libMountPath

-- Pods of an operand go to nodes with a ready marker.
def readyNodes (t : Target) : Affinity :=
  ⟨some ⟨some [⟨some [⟨t.key .ready, "Exists", none⟩]⟩]⟩⟩

def selectorLabels (name : String) : Labels := Dict.empty.insert operandNameLabel name

def labels (t : Target) (name : String) : Labels :=
  (selectorLabels name).insert operandVersionLabel t.version

-- Pods are replaced when their node is drained, and never in place.
def daemonSet (t : Target) (name : String) (pods : PodSpec) : Except OperatorError DaemonSet := do
  let owner ← owner t
  let pods := { pods with
    serviceAccountName := filled? t.spec.serviceAccountName, affinity := some (readyNodes t) }
  return {
    metadata := {
      name := some name, ns := some t.id.ns, labels := some (labels t name),
      ownerReferences := some [owner] }
    spec := some {
      matchLabels := some (selectorLabels name)
      template := ⟨some { labels := some (labels t name) }, some pods⟩
      updateStrategy := some (some "OnDelete") } }

-- The control plane gives the module a server to start.
def cplane (t : Target) : Except OperatorError DaemonSet :=
  daemonSet t (cplaneName t.id.name) {
    hostNetwork := some true
    containers := [{
      name := "onload-cplane"
      image := some t.spec.onload.userImage
      imagePullPolicy := t.spec.onload.imagePullPolicy
      command := some (shell cplaneScript)
      privileged := some (some true)
      volumeMounts := some [⟨"onload-sysfs", sysfsDir⟩, ⟨"cri-socket", criSocket⟩] }]
    volumes := some [⟨"onload-sysfs", some ⟨sysfsDir, none⟩⟩, ⟨"cri-socket", some ⟨criSocket, none⟩⟩] }

def hostOnloadPath (t : Target) : String := t.spec.devicePlugin.hostOnloadPath.getD defaultHostPath

-- The device plugin installs the userland and offers it to pods.
def devicePlugin (t : Target) : Except OperatorError DaemonSet :=
  daemonSet t (devicePluginName t.id.name) {
    initContainers := some [{
      name := "onload-userland"
      image := some t.spec.onload.userImage
      imagePullPolicy := t.spec.onload.imagePullPolicy
      command := some (shell installScript)
      volumeMounts := some [⟨"host-onload", "/host/onload"⟩] }]
    containers := [{
      name := "device-plugin"
      image := some t.spec.devicePlugin.devicePluginImage
      imagePullPolicy := t.spec.devicePlugin.imagePullPolicy
      args := some (devicePluginArgs t.spec.devicePlugin)
      privileged := some (some true)
      volumeMounts := some [⟨"kubelet-socket", pluginSocketDir⟩, ⟨"host-onload", hostOnloadPath t⟩] }]
    volumes := some [
      ⟨"kubelet-socket", some ⟨pluginSocketDir, none⟩⟩,
      ⟨"host-onload", some ⟨hostOnloadPath t, some "DirectoryOrCreate"⟩⟩] }

def version? (d : DaemonSet) : Option String := d.metadata.label? operandVersionLabel

end Operand

end KernelRollout
