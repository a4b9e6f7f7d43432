import KernelRollout.Resource.Onload
import KernelRollout.Resource.Schema

namespace KernelRollout

-- What teaches a cluster a kind of resource.
structure ResourceDefinition where
  kind        : String
  group       : String
  version     : String
  plural      : String
  singular    : String
  shortNames  : List String := []
  -- Name of the record behind `spec`.
  specName    : String
  spec        : Schema
  -- A resource with a status gets an endpoint of its own for it.
  status      : Option Schema := none

namespace ResourceDefinition

open Schema (sorted)

def schema (d : ResourceDefinition) : Json :=
  sorted <|
    (Schema.record <|
      ⟨"spec", .required, d.spec, none⟩ ::
        (d.status.map fun s => ⟨"status", .optional, s, none⟩).toList).keywords ++
    [("title", .str d.kind),
     ("description", .str s!"Auto-generated derived type for {d.specName} via \x60CustomResource\x60")]

def toJson (d : ResourceDefinition) : Json :=
  .obj [
    ("apiVersion", .str "apiextensions.k8s.io/v1"),
    ("kind", .str "CustomResourceDefinition"),
    ("metadata", .obj [("name", .str s!"{d.plural}.{d.group}")]),
    ("spec", .obj [
      ("group", .str d.group),
      ("names", .obj [
        ("categories", .arr []),
        ("kind", .str d.kind),
        ("plural", .str d.plural),
        ("shortNames", .strings d.shortNames),
        ("singular", .str d.singular)]),
      ("scope", .str "Namespaced"),
      ("versions", .arr [.obj [
        ("additionalPrinterColumns", .arr []),
        ("name", .str d.version),
        ("schema", .obj [("openAPIV3Schema", d.schema)]),
        ("served", .bool true),
        ("storage", .bool true),
        ("subresources", .obj (d.status.map fun _ => ("status", .obj [])).toList)]])])]

end ResourceDefinition

namespace Schema

def buildArgs : Schema :=
  .list <| .record [⟨"name", .required, .text, none⟩, ⟨"value", .required, .text, none⟩]

def configMapRef : Schema := .record [⟨"name", .required, .text, none⟩]

def imageBuild : Schema :=
  .record [
    ⟨"buildArgs", .omittable, buildArgs, none⟩,
    ⟨"dockerfileConfigMap", .required, configMapRef, none⟩]

def kernelMapping : Schema :=
  .record [
    ⟨"regexp", .optional, .text, none⟩,
    ⟨"literal", .optional, .text, none⟩,
    ⟨"containerImage", .optional, .text, none⟩,
    ⟨"build", .optional, imageBuild, none⟩]

def moduleContainer : Schema :=
  .record [
    ⟨"modprobe", .required,
      .record [
        ⟨"moduleName", .required, .text, none⟩,
        ⟨"parameters", .omittable, .list .text, none⟩],
      none⟩,
    ⟨"kernelMappings", .fallback (.arr []), .list kernelMapping, none⟩,
    ⟨"imagePullPolicy", .optional, .text, none⟩,
    ⟨"version", .optional, .text,
      some "Version used by KMM ordered upgrades; compared against the node\nversion-module label"⟩,
    ⟨"inTreeModuleToRemove", .optional, .text,
      some "In-tree module unloaded before this one is loaded"⟩]

def kernelModuleSpec : Schema :=
  .record [
    ⟨"moduleLoader", .required,
      .record [
        ⟨"container", .required, moduleContainer, none⟩,
        ⟨"serviceAccountName", .optional, .text, none⟩],
      none⟩,
    ⟨"selector", .fallback (.obj []), .textMap, some "Node selector for the module loader pods"⟩]

def releaseBuild : Schema :=
  .record [
    ⟨"buildArgs", .omittable, buildArgs, some "Build arguments passed to the Dockerfile"⟩,
    ⟨"dockerfileConfigMap", .required, configMapRef, some "ConfigMap holding the Dockerfile"⟩]

def releaseMapping : Schema :=
  .record [
    ⟨"kernelModuleImage", .required, .text,
      some "Image containing the prebuilt (or buildable) kernel module"⟩,
    ⟨"regexp", .required, .text,
      some "Regular expression matched against the node kernel version"⟩,
    ⟨"sfc", .optional, .record [],
      some "Also manage the SFC network driver for matching kernels"⟩,
    ⟨"build", .optional, releaseBuild, some "In-cluster build of the module image"⟩]

def release : Schema :=
  .record [
    ⟨"kernelMappings", .fallback (.arr []), .list releaseMapping,
      some "Kernel version to module image mappings"⟩,
    ⟨"userImage", .required, .text, some "Image carrying the Onload userland"⟩,
    ⟨"version", .required, .text, some "Release version. Every node converges on this value."⟩,
    ⟨"imagePullPolicy", .optional, .text, some "Pull policy for the kernel module images"⟩]

def devicePlugin : Schema :=
  .record [
    ⟨"devicePluginImage", .required, .text, some "Device plugin image"⟩,
    ⟨"imagePullPolicy", .optional, .text, none⟩,
    ⟨"maxPodsPerNode", .optional, .int32,
      some "Allocatable \x60amd.com/onload\x60 units advertised per node"⟩,
    ⟨"setPreload", .optional, .flag,
      some "Inject \x60LD_PRELOAD\x60 into pods requesting the resource.\nMutually exclusive with \x60mountOnload\x60."⟩,
    ⟨"mountOnload", .optional, .flag,
      some "Mount the onload script into pods requesting the resource"⟩,
    ⟨"hostOnloadPath", .optional, .text, some "Host directory the userland is installed into"⟩,
    ⟨"baseMountPath", .optional, .text, none⟩,
    ⟨"binMountPath", .optional, .text, none⟩,
    ⟨"libMountPath", .optional, .text, none⟩]

def onloadSpec : Schema :=
  .record [
    ⟨"onload", .required, release, some "Kernel modules and userland release"⟩,
    ⟨"devicePlugin", .required, devicePlugin, some "Device plugin operand settings"⟩,
    ⟨"selector", .fallback (.obj []), .textMap,
      some "Nodes must carry every label in this map to receive Onload"⟩,
    ⟨"serviceAccountName", .fallback (.str ""), .text,
      some "Service account used by every workload created for this resource"⟩]

def condition : Schema :=
  .record [
    ⟨"type", .required, .text, none⟩,
    ⟨"status", .required, .text, some "\"True\", \"False\" or \"Unknown\""⟩,
    ⟨"reason", .optional, .text, none⟩,
    ⟨"message", .optional, .text, none⟩,
    ⟨"lastTransitionTime", .optional, .time, none⟩]

def onloadStatus : Schema :=
  .record [
    ⟨"conditions", .omittable, .list condition, none⟩,
    ⟨"lastReconciled", .optional, .time, some "Last time the condition set changed"⟩]

end Schema

namespace Onload

def definition : ResourceDefinition where
  kind       := "Onload"
  group      := "onload.amd.com"
  version    := "v1alpha1"
  plural     := "onloads"
  singular   := "onload"
  shortNames := ["onload"]
  specName   := "OnloadSpec"
  spec       := Schema.onloadSpec
  status     := some Schema.onloadStatus

end Onload

namespace KernelModule

def definition : ResourceDefinition where
  kind       := "Module"
  group      := "kmm.sigs.x-k8s.io"
  version    := "v1beta1"
  plural     := "modules"
  singular   := "module"
  specName   := "ModuleSpec"
  spec       := Schema.kernelModuleSpec

end KernelModule

end KernelRollout
