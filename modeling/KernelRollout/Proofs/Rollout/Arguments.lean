import KernelRollout.Proofs.Cluster.Names
import KernelRollout.Proofs.Text.Numeral
import Mathlib.Data.Bool.Basic

namespace KernelRollout

variable {p q : DevicePlugin} {t : Target} {d : DaemonSet} {v : String}

namespace Operand

inductive PluginFlag where
  | maxPods
  | setPreload
  | mountOnload
  | hostOnloadPath
  | baseMountPath
  | binMountPath
  | libMountPath
deriving DecidableEq

namespace PluginFlag

variable {f g : PluginFlag}

-- In the order in which they are passed.
def all : List PluginFlag :=
  [maxPods, setPreload, mountOnload, hostOnloadPath, baseMountPath, binMountPath, libMountPath]

def name : PluginFlag → String
  | maxPods        => "-maxPods"
  | setPreload     => "-setPreload"
  | mountOnload    => "-mountOnload"
  | hostOnloadPath => "-hostOnloadPath"
  | baseMountPath  => "-baseMountPath"
  | binMountPath   => "-binMountPath"
  | libMountPath   => "-libMountPath"

-- What stands behind the name, if the setting is set.
def value? (p : DevicePlugin) : PluginFlag → Option String
  | maxPods        => p.maxPodsPerNode.map (toString ·.toInt)
  | setPreload     => p.setPreload.map boolText
  | mountOnload    => p.mountOnload.map boolText
  | hostOnloadPath => p.hostOnloadPath
  | baseMountPath  => p.baseMountPath
  | binMountPath   => p.binMountPath
  | libMountPath   => p.libMountPath

theorem mem_all (f : PluginFlag) : f ∈ all := by
  cases f <;> decide

theorem name_inj : f.name = g.name ↔ f = g := by
  cases f <;> cases g <;> decide

theorem sign_not_mem_name (f : PluginFlag) : '=' ∉ f.name.toList := by
  cases f <;> decide

-- An argument is divided at its first sign of equality, and values may have others.
theorem argument_inj {v w : String} :
    f.name ++ "=" ++ v = g.name ++ "=" ++ w ↔ f = g ∧ v = w := by
  constructor
  case mp =>
    intro h
    have ⟨hname, hvalue⟩ := Text.append_separator_inj (sign_not_mem_name f) (sign_not_mem_name g) h
    exact ⟨name_inj.mp hname, hvalue⟩
  case mpr => exact fun ⟨hname, hvalue⟩ => hname ▸ hvalue ▸ rfl

end PluginFlag

theorem flag_map {α β : Type} (name : String) (text : β → String) (g : α → β) (o : Option α) :
    flag name text (o.map g) = flag name (text ∘ g) o := by
  cases o <;> rfl

theorem mem_flag {name arg : String} {o : Option String} :
    arg ∈ flag name id o ↔ ∃ v ∈ o, arg = name ++ "=" ++ v := by
  cases o <;> simp [flag]

theorem devicePluginArgs_eq (p : DevicePlugin) :
    devicePluginArgs p = PluginFlag.all.flatMap fun f => flag f.name id (f.value? p) := by
  simp only [PluginFlag.all, List.flatMap_cons, List.flatMap_nil, PluginFlag.name, PluginFlag.value?,
    flag_map, List.append_nil, devicePluginArgs, List.append_assoc]
  rfl

theorem mem_devicePluginArgs {f : PluginFlag} :
    f.name ++ "=" ++ v ∈ devicePluginArgs p ↔ f.value? p = some v := by
  simp only [devicePluginArgs_eq, List.mem_flatMap, mem_flag, PluginFlag.argument_inj]
  constructor
  case mp =>
    rintro ⟨g, _, w, hw, rfl, rfl⟩
    exact hw
  case mpr => exact fun h => ⟨f, f.mem_all, v, h, rfl, rfl⟩

-- All that the device plugin can be told is the same, set or not.
structure SameSettings (p q : DevicePlugin) : Prop where
  maxPodsPerNode : p.maxPodsPerNode = q.maxPodsPerNode
  setPreload     : p.setPreload = q.setPreload
  mountOnload    : p.mountOnload = q.mountOnload
  hostOnloadPath : p.hostOnloadPath = q.hostOnloadPath
  baseMountPath  : p.baseMountPath = q.baseMountPath
  binMountPath   : p.binMountPath = q.binMountPath
  libMountPath   : p.libMountPath = q.libMountPath

theorem value?_eq_of_args_eq (h : devicePluginArgs p = devicePluginArgs q) (f : PluginFlag) :
    f.value? p = f.value? q :=
  Option.ext fun v => by rw [← mem_devicePluginArgs, h, mem_devicePluginArgs]

theorem toString_toInt_injective : Function.Injective fun n : Int32 => toString n.toInt := by
  intro m n h
  simp only [Int.toString_eq_repr] at h
  exact Int32.toInt_inj.mp (Text.repr_int_injective h)

theorem boolText_injective : Function.Injective boolText :=
  Bool.injective_iff.mpr (by decide)

theorem SameSettings.of_args_eq (h : devicePluginArgs p = devicePluginArgs q) : SameSettings p q where
  maxPodsPerNode := Option.map_injective toString_toInt_injective (value?_eq_of_args_eq h .maxPods)
  setPreload     := Option.map_injective boolText_injective (value?_eq_of_args_eq h .setPreload)
  mountOnload    := Option.map_injective boolText_injective (value?_eq_of_args_eq h .mountOnload)
  hostOnloadPath := value?_eq_of_args_eq h .hostOnloadPath
  baseMountPath  := value?_eq_of_args_eq h .baseMountPath
  binMountPath   := value?_eq_of_args_eq h .binMountPath
  libMountPath   := value?_eq_of_args_eq h .libMountPath

theorem SameSettings.args_eq (h : SameSettings p q) : devicePluginArgs p = devicePluginArgs q := by
  simp only [devicePluginArgs, h.maxPodsPerNode, h.setPreload, h.mountOnload, h.hostOnloadPath,
    h.baseMountPath, h.binMountPath, h.libMountPath]

end Operand

-- The volumes of a name, and where a container mounts them.
def PodSpec.volumesNamed (pods : PodSpec) (name : String) : List Volume :=
  (pods.volumes.getD []).filter (·.name = name)

def Container.mountsOf (c : Container) (volume : String) : List VolumeMount :=
  (c.volumeMounts.getD []).filter (·.name = volume)

namespace Operand

-- The device plugin sees the userland on the host where it is, and is told no other place.
structure SharesUserland (pods : PodSpec) (plugin : Container) (path : String) : Prop where
  volume : ∃ type, pods.volumesNamed "host-onload" = [⟨"host-onload", some ⟨path, type⟩⟩]
  mount  : plugin.mountsOf "host-onload" = [⟨"host-onload", path⟩]
  told   : ∀ v, "-hostOnloadPath=" ++ v ∈ plugin.args.getD [] → v = path

theorem sharesUserland_of_devicePlugin (h : devicePlugin t = .ok d) :
    ∃ pods plugin, d.spec.bind (·.template.spec) = some pods ∧ pods.containers = [plugin] ∧
      plugin.args = some (devicePluginArgs t.spec.devicePlugin) ∧
      SharesUserland pods plugin (hostOnloadPath t) := by
  rw [devicePlugin, daemonSet] at h
  cases howner : owner t <;> rw [howner] at h <;> cases h
  refine ⟨_, _, rfl, rfl, rfl, ⟨_, rfl⟩, rfl, fun v hv => ?_⟩
  have hset : PluginFlag.hostOnloadPath.value? t.spec.devicePlugin = some v := mem_devicePluginArgs.mp hv
  rw [PluginFlag.value?] at hset
  rw [hostOnloadPath, hset]
  rfl

-- Arguments are alike only if the settings are. Whichever path is set, it is the one place of the
-- userland on the host.
theorem devicePluginArgs_faithful :
    (∀ p q, devicePluginArgs p = devicePluginArgs q ↔ SameSettings p q) ∧
    ∀ t d, devicePlugin t = .ok d →
      ∃ pods plugin, d.spec.bind (·.template.spec) = some pods ∧ pods.containers = [plugin] ∧
        plugin.args = some (devicePluginArgs t.spec.devicePlugin) ∧
        SharesUserland pods plugin (hostOnloadPath t) :=
  ⟨fun _ _ => ⟨.of_args_eq, fun h => h.args_eq⟩, fun _ _ => sharesUserland_of_devicePlugin⟩

-- A path that reads like another flag, in resources that differ in what is not a setting.
theorem devicePluginArgs_faithful_alike :
    ∃ (p q : DevicePlugin) (t : Target) (d : DaemonSet), p ≠ q ∧
      devicePluginArgs p = devicePluginArgs q ∧ SameSettings p q ∧
      t.spec.devicePlugin = p ∧ devicePlugin t = .ok d ∧
      ∃ pods plugin, d.spec.bind (·.template.spec) = some pods ∧ pods.containers = [plugin] ∧
        plugin.args = some ["-maxPods=-1", "-hostOnloadPath=-hostOnloadPath=/opt"] ∧
        SharesUserland pods plugin "-hostOnloadPath=/opt" := by
  let p : DevicePlugin := {
    devicePluginImage := "plugin:1", maxPodsPerNode := some (-1), hostOnloadPath := some "-hostOnloadPath=/opt" }
  let q : DevicePlugin := { p with devicePluginImage := "plugin:2" }
  let t : Target := {
    onload := {
      metadata := { uid := some "1" }
      spec := {
        onload := ⟨[], "user", "1", none⟩, devicePlugin := p, selector := .empty, serviceAccountName := "" } }
    id := ⟨"default", "onload"⟩ }
  have hargs : devicePluginArgs p = ["-maxPods=-1", "-hostOnloadPath=-hostOnloadPath=/opt"] := by decide
  have hsame : devicePluginArgs p = devicePluginArgs q := rfl
  have ⟨hinj, hbuilt⟩ := devicePluginArgs_faithful
  have ⟨pods, plugin, hpods, hplugin, hpassed, hshares⟩ := hbuilt t _ rfl
  exact ⟨p, q, t, _, by decide, hsame, (hinj p q).mp hsame, rfl, rfl, pods, plugin, hpods, hplugin,
    hargs ▸ hpassed, hshares⟩

end Operand

end KernelRollout
