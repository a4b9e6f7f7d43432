import KernelRollout.Resource.Onload
import KernelRollout.Rollout.Marker

namespace KernelRollout

-- The Onload module is always loaded, and the SFC network driver beside it where a kernel mapping
-- asks for it.
inductive ModuleKind where
  | onload
  | sfc
deriving DecidableEq, Repr

namespace ModuleKind

-- In the order in which they are looked after.
def all : List ModuleKind := [onload, sfc]

def resourceName (name : String) : ModuleKind → String
  | onload => name ++ "-onload-module"
  | sfc    => name ++ "-sfc-module"

def moduleName : ModuleKind → String
  | onload => "onload"
  | sfc    => "sfc"

-- The SFC driver takes the place of the one that comes with the kernel.
def replacedModule? : ModuleKind → Option String
  | onload => none
  | sfc    => some "sfc"

def marker : ModuleKind → Marker
  | onload => .loader
  | sfc    => .sfc

def wanted (spec : OnloadSpec) : ModuleKind → Bool
  | onload => true
  | sfc    => spec.onload.usesSfc

-- The SFC module comes in the same image and is never built.
def mapping (m : ReleaseMapping) (kind : ModuleKind) : KernelMapping where
  regexp         := some m.regexp
  literal        := none
  containerImage := some m.kernelModuleImage
  build          := match kind with
    | onload => m.build
    | sfc    => none

def kernelMappings (r : Release) (kind : ModuleKind) : List KernelMapping :=
  (r.kernelMappings.filter fun m => kind = onload || m.sfc).map (mapping · kind)

theorem kernelMappings_onload (r : Release) :
    onload.kernelMappings r = r.kernelMappings.map (mapping · onload) := by
  rw [kernelMappings, List.filter_eq_self.mpr (by simp)]

theorem kernelMappings_sfc (r : Release) :
    sfc.kernelMappings r = (r.kernelMappings.filter (·.sfc)).map (mapping · sfc) := by
  simp [kernelMappings]

end ModuleKind

end KernelRollout
