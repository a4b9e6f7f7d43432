import KernelRollout.Resource.Metadata

namespace KernelRollout

structure BuildArgument where
  name  : String
  value : String
deriving DecidableEq, Inhabited

-- An in-cluster build of a module image, from the Dockerfile in a config map.
structure ImageBuild where
  arguments : List BuildArgument
  configMap : String
deriving DecidableEq, Inhabited

structure KernelMapping where
  regexp         : Option String
  literal        : Option String
  containerImage : Option String
  build          : Option ImageBuild
deriving DecidableEq, Inhabited

structure Modprobe where
  moduleName : String
  parameters : List String
deriving DecidableEq, Inhabited

structure LoaderContainer where
  modprobe             : Modprobe
  kernelMappings       : List KernelMapping
  imagePullPolicy      : Option String
  version              : Option String
  inTreeModuleToRemove : Option String
deriving DecidableEq, Inhabited

structure ModuleLoader where
  container          : LoaderContainer
  serviceAccountName : Option String
deriving DecidableEq, Inhabited

structure KernelModuleSpec where
  moduleLoader : ModuleLoader
  selector     : Labels
deriving DecidableEq, Inhabited

-- A request to load a kernel module, built for or matched to the kernel of each node.
structure KernelModule where
  metadata : Metadata
  spec     : KernelModuleSpec
deriving DecidableEq, Inhabited

namespace KernelModule

instance : Resource KernelModule where
  apiVersion   := "kmm.sigs.x-k8s.io/v1beta1"
  kind         := "Module"
  metadata     := metadata
  withMetadata := fun m md => { m with metadata := md }

-- The version that the loader of this module carries.
def loaderVersion? (m : KernelModule) : Option String := m.spec.moduleLoader.container.version

end KernelModule

namespace Json

open Fields (always whenSet whenFilled)

def buildArgument? : Read BuildArgument := fun v => do
  let f ← record? ["name", "value"] v
  some { name := ← f.required "name" string?, value := ← f.required "value" string? }

def buildArgument (a : BuildArgument) : Json :=
  obj <| always "name" (str a.name) ++ always "value" (str a.value)

def configMap? : Read String := fun v => do
  (← record? ["name"] v).required "name" string?

def configMap (name : String) : Json := obj <| always "name" (str name)

def imageBuild? : Read ImageBuild := fun v => do
  let f ← record? ["buildArgs", "dockerfileConfigMap"] v
  some {
    arguments := ← f.defaulted "buildArgs" [] (list? buildArgument?)
    configMap := ← f.required "dockerfileConfigMap" configMap?
  }

def imageBuild (b : ImageBuild) : Json :=
  obj <|
    whenFilled "buildArgs" buildArgument b.arguments ++
    always "dockerfileConfigMap" (configMap b.configMap)

def kernelMapping? : Read KernelMapping := fun v => do
  let f ← record? ["regexp", "literal", "containerImage", "build"] v
  some {
    regexp         := ← f.optional "regexp" string?
    literal        := ← f.optional "literal" string?
    containerImage := ← f.optional "containerImage" string?
    build          := ← f.optional "build" imageBuild?
  }

def kernelMapping (m : KernelMapping) : Json :=
  obj <|
    whenSet "regexp" str m.regexp ++
    whenSet "literal" str m.literal ++
    whenSet "containerImage" str m.containerImage ++
    whenSet "build" imageBuild m.build

def modprobe? : Read Modprobe := fun v => do
  let f ← record? ["moduleName", "parameters"] v
  some {
    moduleName := ← f.required "moduleName" string?
    parameters := ← f.defaulted "parameters" [] (list? string?)
  }

def modprobe (m : Modprobe) : Json :=
  obj <| always "moduleName" (str m.moduleName) ++ whenFilled "parameters" str m.parameters

def loaderContainer? : Read LoaderContainer := fun v => do
  let f ← record? ["modprobe", "kernelMappings", "imagePullPolicy", "version",
    "inTreeModuleToRemove"] v
  some {
    modprobe             := ← f.required "modprobe" modprobe?
    kernelMappings       := ← f.defaulted "kernelMappings" [] (list? kernelMapping?)
    imagePullPolicy      := ← f.optional "imagePullPolicy" string?
    version              := ← f.optional "version" string?
    inTreeModuleToRemove := ← f.optional "inTreeModuleToRemove" string?
  }

def loaderContainer (c : LoaderContainer) : Json :=
  obj <|
    always "modprobe" (modprobe c.modprobe) ++
    always "kernelMappings" (arr (c.kernelMappings.map kernelMapping)) ++
    whenSet "imagePullPolicy" str c.imagePullPolicy ++
    whenSet "version" str c.version ++
    whenSet "inTreeModuleToRemove" str c.inTreeModuleToRemove

def moduleLoader? : Read ModuleLoader := fun v => do
  let f ← record? ["container", "serviceAccountName"] v
  some {
    container          := ← f.required "container" loaderContainer?
    serviceAccountName := ← f.optional "serviceAccountName" string?
  }

def moduleLoader (l : ModuleLoader) : Json :=
  obj <|
    always "container" (loaderContainer l.container) ++
    whenSet "serviceAccountName" str l.serviceAccountName

def kernelModuleSpec? : Read KernelModuleSpec := fun v => do
  let f ← record? ["moduleLoader", "selector"] v
  some {
    moduleLoader := ← f.required "moduleLoader" moduleLoader?
    selector     := ← f.defaulted "selector" .empty labels?
  }

def kernelModuleSpec (s : KernelModuleSpec) : Json :=
  obj <|
    always "moduleLoader" (moduleLoader s.moduleLoader) ++ always "selector" (labels s.selector)

def kernelModule? : Read KernelModule := fun v => do
  let f ← record? ["metadata", "spec"] v
  some {
    metadata := ← f.required "metadata" metadata?
    spec     := ← f.required "spec" kernelModuleSpec?
  }

def kernelModule (m : KernelModule) : Json :=
  obj <|
    typeFields KernelModule ++
    always "metadata" (metadata m.metadata) ++
    always "spec" (kernelModuleSpec m.spec)

end Json

end KernelRollout
