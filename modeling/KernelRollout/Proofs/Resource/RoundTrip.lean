import KernelRollout.Proofs.Json.Fields
import KernelRollout.Proofs.Json.Labels
import KernelRollout.Proofs.Time.Timestamp
import KernelRollout.Resource.Onload

namespace KernelRollout

namespace Json

variable {α : Type} {read : Read α} {write : α → Json} {v v' : Json}

@[simp]
theorem timestamp?_timestamp (t : Timestamp) : timestamp? (timestamp t) = some t := Timestamp.parse_text t

instance : RoundTrips timestamp? timestamp := ⟨timestamp?_timestamp, fun _ => rfl⟩

attribute [simp] labels?_labels

instance : RoundTrips buildArgument? buildArgument where
  read_write a := by simp [buildArgument?, buildArgument, record?]
  isNull_write _ := rfl

@[simp]
theorem configMap?_configMap (name : String) : configMap? (configMap name) = some name := by
  simp [configMap?, configMap, record?]

instance : RoundTrips imageBuild? imageBuild where
  read_write b := by simp [imageBuild?, imageBuild, record?]
  isNull_write _ := rfl

instance : RoundTrips kernelMapping? kernelMapping where
  read_write m := by simp [kernelMapping?, kernelMapping, record?, List.lookup_append]
  isNull_write _ := rfl

@[simp]
theorem modprobe?_modprobe (m : Modprobe) : modprobe? (modprobe m) = some m := by
  simp [modprobe?, modprobe, record?]

@[simp]
theorem loaderContainer?_loaderContainer (c : LoaderContainer) :
    loaderContainer? (loaderContainer c) = some c := by
  simp [loaderContainer?, loaderContainer, record?, List.lookup_append]

@[simp]
theorem moduleLoader?_moduleLoader (l : ModuleLoader) : moduleLoader? (moduleLoader l) = some l := by
  simp [moduleLoader?, moduleLoader, record?]

theorem kernelModuleSpec?_kernelModuleSpec (s : KernelModuleSpec) :
    kernelModuleSpec? (kernelModuleSpec s) = some s := by
  simp [kernelModuleSpec?, kernelModuleSpec, record?]

instance : RoundTrips releaseMapping? releaseMapping where
  read_write m := by
    obtain ⟨image, regexp, sfc, build⟩ := m
    cases sfc with
    | false => simp [releaseMapping?, releaseMapping, record?, Fields.optional_of_none]
    | true => simp [releaseMapping?, releaseMapping, record?, marker?, nullable?]
  isNull_write _ := rfl

@[simp]
theorem release?_release (r : Release) : release? (release r) = some r := by
  simp [release?, release, record?]

@[simp]
theorem devicePlugin?_devicePlugin (p : DevicePlugin) : devicePlugin? (devicePlugin p) = some p := by
  simp [devicePlugin?, devicePlugin, record?, List.lookup_append]

theorem onloadSpec?_onloadSpec (s : OnloadSpec) : onloadSpec? (onloadSpec s) = some s := by
  simp [onloadSpec?, onloadSpec, record?]

instance : RoundTrips condition? condition where
  read_write c := by simp [condition?, condition, record?, List.lookup_append]
  isNull_write _ := rfl

theorem onloadStatus?_onloadStatus (s : OnloadStatus) : onloadStatus? (onloadStatus s) = some s := by
  simp [onloadStatus?, onloadStatus, record?]

-- What an object is written back as, if it is accepted.
def rewritten? (read : Read α) (write : α → Json) (v : Json) : Option Json := (read v).map write

theorem rewritten?_again (hread : ∀ a, read (write a) = some a)
    (h : rewritten? read write v = some v') : rewritten? read write v' = some v' := by
  obtain ⟨a, _, rfl⟩ := Option.map_eq_some_iff.mp h
  rw [rewritten?, hread, Option.map_some]

-- Resources are read back as they were written, and what was written stays as it is when it is read
-- and written again.
theorem read_written :
    (∀ s, onloadSpec? (onloadSpec s) = some s) ∧
    (∀ s, onloadStatus? (onloadStatus s) = some s) ∧
    (∀ s, kernelModuleSpec? (kernelModuleSpec s) = some s) ∧
    (∀ v v', rewritten? onloadSpec? onloadSpec v = some v' →
      rewritten? onloadSpec? onloadSpec v' = some v') ∧
    (∀ v v', rewritten? onloadStatus? onloadStatus v = some v' →
      rewritten? onloadStatus? onloadStatus v' = some v') ∧
    (∀ v v', rewritten? kernelModuleSpec? kernelModuleSpec v = some v' →
      rewritten? kernelModuleSpec? kernelModuleSpec v' = some v') :=
  ⟨onloadSpec?_onloadSpec, onloadStatus?_onloadStatus, kernelModuleSpec?_kernelModuleSpec,
    fun _ _ => rewritten?_again onloadSpec?_onloadSpec,
    fun _ _ => rewritten?_again onloadStatus?_onloadStatus,
    fun _ _ => rewritten?_again kernelModuleSpec?_kernelModuleSpec⟩

-- Another zone, a leap second and a field that is not known.
example :
    rewritten? onloadStatus? onloadStatus
      (obj [("note", null), ("conditions", arr []),
        ("lastReconciled", str "2024-03-01 00:59:60.25+01:00")]) =
    some (obj [("lastReconciled", str "2024-02-29T23:59:60.250Z")]) := by
  rfl

end Json

end KernelRollout
