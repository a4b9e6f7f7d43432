import KernelRollout.Resource.KernelModule

namespace KernelRollout

-- A module image for the kernels that match a regular expression. `sfc` asks for the SFC network
-- driver too.
structure ReleaseMapping where
  kernelModuleImage : String
  regexp            : String
  sfc               : Bool
  build             : Option ImageBuild
deriving DecidableEq, Inhabited

structure Release where
  kernelMappings  : List ReleaseMapping
  userImage       : String
  version         : String
  imagePullPolicy : Option String
deriving DecidableEq, Inhabited

namespace Release

def usesSfc (r : Release) : Bool := r.kernelMappings.any (·.sfc)

end Release

structure DevicePlugin where
  devicePluginImage : String
  imagePullPolicy   : Option String := none
  maxPodsPerNode    : Option Int32 := none
  setPreload        : Option Bool := none
  mountOnload       : Option Bool := none
  hostOnloadPath    : Option String := none
  baseMountPath     : Option String := none
  binMountPath      : Option String := none
  libMountPath      : Option String := none
deriving DecidableEq, Inhabited

structure OnloadSpec where
  onload             : Release
  devicePlugin       : DevicePlugin
  selector           : Labels
  serviceAccountName : String
deriving DecidableEq, Inhabited

structure Condition where
  type               : String
  status             : String
  reason             : Option String := none
  message            : Option String := none
  lastTransitionTime : Option Timestamp := none
deriving DecidableEq, Inhabited

structure OnloadStatus where
  conditions     : List Condition := []
  lastReconciled : Option Timestamp := none
deriving DecidableEq, Inhabited

namespace OnloadStatus

-- The first condition of a type.
def condition? (s : OnloadStatus) (type : String) : Option Condition :=
  s.conditions.find? (·.type = type)

end OnloadStatus

-- Which release should run on the nodes that the selector matches, and how far it has got.
structure Onload where
  metadata : Metadata
  spec     : OnloadSpec
  status   : Option OnloadStatus := none
deriving DecidableEq, Inhabited

namespace Onload

instance : Resource Onload where
  apiVersion   := "onload.amd.com/v1alpha1"
  kind         := "Onload"
  metadata     := metadata
  withMetadata := fun o m => { o with metadata := m }

def version (o : Onload) : String := o.spec.onload.version

def condition? (o : Onload) (type : String) : Option Condition :=
  o.status.bind (·.condition? type)

end Onload

namespace Json

open Fields (always whenSet whenFilled)

-- A marker is an object whose content does not matter.
def marker? : Read Unit := fun v => (record? [] v).map fun _ => ()

def releaseMapping? : Read ReleaseMapping := fun v => do
  let f ← record? ["kernelModuleImage", "regexp", "sfc", "build"] v
  some {
    kernelModuleImage := ← f.required "kernelModuleImage" string?
    regexp            := ← f.required "regexp" string?
    sfc               := (← f.optional "sfc" marker?).isSome
    build             := ← f.optional "build" imageBuild?
  }

def releaseMapping (m : ReleaseMapping) : Json :=
  obj <|
    always "kernelModuleImage" (str m.kernelModuleImage) ++
    always "regexp" (str m.regexp) ++
    (if m.sfc then always "sfc" (obj []) else []) ++
    whenSet "build" imageBuild m.build

def release? : Read Release := fun v => do
  let f ← record? ["kernelMappings", "userImage", "version", "imagePullPolicy"] v
  some {
    kernelMappings  := ← f.defaulted "kernelMappings" [] (list? releaseMapping?)
    userImage       := ← f.required "userImage" string?
    version         := ← f.required "version" string?
    imagePullPolicy := ← f.optional "imagePullPolicy" string?
  }

def release (r : Release) : Json :=
  obj <|
    always "kernelMappings" (arr (r.kernelMappings.map releaseMapping)) ++
    always "userImage" (str r.userImage) ++
    always "version" (str r.version) ++
    whenSet "imagePullPolicy" str r.imagePullPolicy

def devicePlugin? : Read DevicePlugin := fun v => do
  let f ← record? ["devicePluginImage", "imagePullPolicy", "maxPodsPerNode", "setPreload",
    "mountOnload", "hostOnloadPath", "baseMountPath", "binMountPath", "libMountPath"] v
  some {
    devicePluginImage := ← f.required "devicePluginImage" string?
    imagePullPolicy   := ← f.optional "imagePullPolicy" string?
    maxPodsPerNode    := ← f.optional "maxPodsPerNode" int32?
    setPreload        := ← f.optional "setPreload" bool?
    mountOnload       := ← f.optional "mountOnload" bool?
    hostOnloadPath    := ← f.optional "hostOnloadPath" string?
    baseMountPath     := ← f.optional "baseMountPath" string?
    binMountPath      := ← f.optional "binMountPath" string?
    libMountPath      := ← f.optional "libMountPath" string?
  }

def devicePlugin (p : DevicePlugin) : Json :=
  obj <|
    always "devicePluginImage" (str p.devicePluginImage) ++
    whenSet "imagePullPolicy" str p.imagePullPolicy ++
    whenSet "maxPodsPerNode" int32 p.maxPodsPerNode ++
    whenSet "setPreload" bool p.setPreload ++
    whenSet "mountOnload" bool p.mountOnload ++
    whenSet "hostOnloadPath" str p.hostOnloadPath ++
    whenSet "baseMountPath" str p.baseMountPath ++
    whenSet "binMountPath" str p.binMountPath ++
    whenSet "libMountPath" str p.libMountPath

def onloadSpec? : Read OnloadSpec := fun v => do
  let f ← record? ["onload", "devicePlugin", "selector", "serviceAccountName"] v
  some {
    onload             := ← f.required "onload" release?
    devicePlugin       := ← f.required "devicePlugin" devicePlugin?
    selector           := ← f.defaulted "selector" .empty labels?
    serviceAccountName := ← f.defaulted "serviceAccountName" "" string?
  }

def onloadSpec (s : OnloadSpec) : Json :=
  obj <|
    always "onload" (release s.onload) ++
    always "devicePlugin" (devicePlugin s.devicePlugin) ++
    always "selector" (labels s.selector) ++
    always "serviceAccountName" (str s.serviceAccountName)

def condition? : Read Condition := fun v => do
  let f ← record? ["type", "status", "reason", "message", "lastTransitionTime"] v
  some {
    type               := ← f.required "type" string?
    status             := ← f.required "status" string?
    reason             := ← f.optional "reason" string?
    message            := ← f.optional "message" string?
    lastTransitionTime := ← f.optional "lastTransitionTime" timestamp?
  }

def condition (c : Condition) : Json :=
  obj <|
    always "type" (str c.type) ++
    always "status" (str c.status) ++
    whenSet "reason" str c.reason ++
    whenSet "message" str c.message ++
    whenSet "lastTransitionTime" timestamp c.lastTransitionTime

def onloadStatus? : Read OnloadStatus := fun v => do
  let f ← record? ["conditions", "lastReconciled"] v
  some {
    conditions     := ← f.defaulted "conditions" [] (list? condition?)
    lastReconciled := ← f.optional "lastReconciled" timestamp?
  }

def onloadStatus (s : OnloadStatus) : Json :=
  obj <|
    whenFilled "conditions" condition s.conditions ++
    whenSet "lastReconciled" timestamp s.lastReconciled

def onload? : Read Onload := fun v => do
  let f ← record? ["metadata", "spec", "status"] v
  some {
    metadata := ← f.required "metadata" metadata?
    spec     := ← f.required "spec" onloadSpec?
    status   := ← f.optional "status" onloadStatus?
  }

def onload (o : Onload) : Json :=
  obj <|
    typeFields Onload ++
    always "metadata" (metadata o.metadata) ++
    always "spec" (onloadSpec o.spec) ++
    whenSet "status" onloadStatus o.status

end Json

end KernelRollout
