import KernelRollout.Proofs.Rollout.OnRecord
import KernelRollout.Proofs.Rollout.Remit
import KernelRollout.Proofs.Rollout.Settled
import Mathlib.Data.List.Forall2

namespace KernelRollout

open Operand (MadeFor Made)

variable {id : Identity} {c : Cluster} {t : Target} {kind : ModuleKind} {m : KernelModule}
variable {delay : Duration} {now : Timestamp} {w : World Cluster} {r : Release}

-- What is left of a list by a test stands at the positions that pass it.
theorem map_filter_eq_findIdxs {α β : Type} (p : α → Bool) (f : α → β) (as : List α) :
    ((as.filter p).map f).map some = (as.findIdxs p).map fun i => (as.map f)[i]? := by
  induction as with
  | nil => rfl
  | cons a as hi =>
    have htail : (as.findIdxs p 1).map (fun i => ((a :: as).map f)[i]?) =
        ((as.filter p).map f).map some := by
      rw [List.findIdxs_start, List.map_map, hi]
      rfl
    rw [List.findIdxs_cons]
    cases hp : p a with
    | true | false => simpa [hp] using htail.symm

-- A mapping of a release, as it is taken over into the Onload module.
structure ReleaseMapping.TakenOver (m : ReleaseMapping) (k : KernelMapping) : Prop where
  regexp  : k.regexp = some m.regexp
  literal : k.literal = none
  image   : k.containerImage = some m.kernelModuleImage
  build   : k.build = m.build

-- The same image without a way to build it.
def KernelMapping.unbuilt (k : KernelMapping) : KernelMapping := { k with build := none }

-- Where the mappings stand that ask for the SFC module.
def Release.sfcPositions (r : Release) : List Nat := r.kernelMappings.findIdxs (·.sfc)

namespace ModuleKind

theorem sfc_wanted_iff {spec : OnloadSpec} :
    sfc.wanted spec = true ↔ sfc.kernelMappings spec.onload ≠ [] := by
  rw [kernelMappings_sfc, ne_eq, List.map_eq_nil_iff, List.filter_eq_nil_iff, wanted, Release.usesSfc,
    List.any_eq_true]
  simp

theorem onload_takenOver (r : Release) :
    r.kernelMappings.Forall₂ ReleaseMapping.TakenOver (onload.kernelMappings r) := by
  rw [kernelMappings_onload, List.forall₂_map_right_iff, List.forall₂_same]
  exact fun m _ => ⟨rfl, rfl, rfl, rfl⟩

theorem sfc_eq_onload (r : Release) :
    (sfc.kernelMappings r).map some =
      r.sfcPositions.map fun i => (onload.kernelMappings r)[i]?.map KernelMapping.unbuilt := by
  have hsfc (m : ReleaseMapping) : mapping m sfc = (mapping m onload).unbuilt := rfl
  simp only [kernelMappings_sfc, map_filter_eq_findIdxs, kernelMappings_onload, List.getElem?_map, hsfc,
    Option.map_map, Release.sfcPositions, Function.comp_def]

theorem sfc_unbuilt {k : KernelMapping} (h : k ∈ sfc.kernelMappings r) : k.build = none := by
  rw [kernelMappings_sfc] at h
  obtain ⟨m, _, rfl⟩ := List.mem_map.mp h
  rfl

-- The modules of a release go together. Of several mappings that fit a kernel the first one counts, so
-- that order and repetitions matter, and no position is beyond the end of a list.
structure Consistent (spec : OnloadSpec) : Prop where
  wanted : sfc.wanted spec = true ↔ sfc.kernelMappings spec.onload ≠ []
  onload : spec.onload.kernelMappings.Forall₂ ReleaseMapping.TakenOver
    (onload.kernelMappings spec.onload)
  sfc    : (sfc.kernelMappings spec.onload).map some = spec.onload.sfcPositions.map fun i =>
    (ModuleKind.onload.kernelMappings spec.onload)[i]?.map KernelMapping.unbuilt

end ModuleKind

namespace KernelModule

def kernelMappings (m : KernelModule) : List KernelMapping := m.spec.moduleLoader.container.kernelMappings

def Loads (m : KernelModule) (kind : ModuleKind) : Prop :=
  m.spec.moduleLoader.container.modprobe.moduleName = kind.moduleName

instance : Decidable (m.Loads kind) := inferInstanceAs (Decidable (_ = _))

-- There is an image to load the module from, and no image is built.
structure Prebuilt (m : KernelModule) : Prop where
  mapped  : m.kernelMappings ≠ []
  unbuilt : ∀ k ∈ m.kernelMappings, k.build = none

end KernelModule

theorem ModuleKind.moduleName_inj {k₁ k₂ : ModuleKind} : k₁.moduleName = k₂.moduleName ↔ k₁ = k₂ := by
  cases k₁ <;> cases k₂ <;> decide

namespace Operand

theorem MadeFor.loads_iff (h : MadeFor t kind m) {k : ModuleKind} : m.Loads k ↔ kind = k := by
  rw [KernelModule.Loads, h.spec]
  exact ModuleKind.moduleName_inj

theorem MadeFor.prebuilt (h : MadeFor t .sfc m) : m.Prebuilt := by
  have hmappings : m.kernelMappings = ModuleKind.sfc.kernelMappings t.spec.onload :=
    congrArg (·.moduleLoader.container.kernelMappings) h.spec
  constructor
  case mapped =>
    rw [hmappings]
    exact ModuleKind.sfc_wanted_iff.mp h.wanted
  case unbuilt =>
    rw [hmappings]
    exact fun _ => ModuleKind.sfc_unbuilt

theorem Made.prebuilt (h : Made m) (hl : m.Loads .sfc) : m.Prebuilt := by
  obtain ⟨t, kind, h⟩ := h
  cases h.loads_iff.mp hl
  exact h.prebuilt

-- A module that is there after a write was there before, or is made for the resource.
theorem Written.kept_or_madeFor {x : Option KernelModule}
    (h : Written (kind.wanted t.spec) (kernelModule t kind) Renewal.renewedModule c x (some m)) :
    x = some m ∨ MadeFor t kind m := by
  cases h with
  | kept => exact .inl rfl
  | created built hw hb | renewed _ built hw hb =>
    exact .inr ((madeFor_of_kernelModule hw hb).congr rfl)

end Operand

-- A pass leaves a module as it was, or it has made it for its resource and stored it under the name for
-- its kind.
theorem kept_or_madeFor_afterPass (hk : w.cluster.Keyed) {j : Identity}
    (h : (w.afterPass id delay now).cluster.modules.get? j = some m) :
    w.cluster.modules.get? j = some m ∨ ∃ t kind, j = t.moduleId kind ∧ MadeFor t kind m := by
  obtain ⟨hm, _⟩ | ⟨t, rfl, _, hw⟩ := operands_afterPass id delay now hk
  · exact .inl (hm ▸ h)
  · by_cases hj : (Territory.of t.id).modules j
    case pos =>
      obtain ⟨kind, rfl⟩ := hj
      have hwritten := hw.modules kind
      rw [Target.moduleId, h] at hwritten
      exact hwritten.kept_or_madeFor.imp_right fun hmade => ⟨t, kind, rfl, hmade⟩
    case neg =>
      have hcalls : w.cluster.Calls (.of t.id) (w.afterPass t.id delay now).cluster :=
        Reconcile.calls_pass hk
      exact .inl (hcalls.within.modules j hj ▸ h)

-- The SFC module is made of the mappings that ask for it. So whichever client answers a pass, the SFC
-- modules that the pass submits have mappings, none of them with a build. In a cluster in memory these
-- are all that can come to be stored under the name of an SFC module.
theorem sfcModules_consistent :
    (∀ spec, ModuleKind.Consistent spec) ∧
    (∀ (σ : Type) (s : Setup σ) (id : Identity) (w : World σ), ∀ m ∈ Reconcile.submitted s id w,
      m.Loads .sfc → m.Prebuilt) ∧
    ∀ (w : World Cluster) (id : Identity) (delay : Duration) (now : Timestamp) (ns name : String)
      (m : KernelModule), w.cluster.Keyed →
      (w.afterPass id delay now).cluster.modules.get? ⟨ns, ModuleKind.sfc.resourceName name⟩ = some m →
      w.cluster.modules.get? ⟨ns, ModuleKind.sfc.resourceName name⟩ = some m ∨
        m.Loads .sfc ∧ m.Prebuilt := by
  refine ⟨fun spec => ?releases, fun σ s id w m hm hl => ?submitted,
    fun w id delay now ns name m hk h => ?stored⟩
  case releases =>
    exact ⟨ModuleKind.sfc_wanted_iff, ModuleKind.onload_takenOver _, ModuleKind.sfc_eq_onload _⟩
  case submitted => exact (Reconcile.made_of_mem_submitted hm).prebuilt hl
  case stored =>
    refine (kept_or_madeFor_afterPass hk h).imp_right ?_
    rintro ⟨t, kind, hj, hmade⟩
    have hname : ModuleKind.sfc.resourceName name = kind.resourceName t.id.name := congrArg (·.name) hj
    have ⟨hkind, _⟩ := ModuleKind.eq_of_resourceName_eq hname
    subst hkind
    exact ⟨hmade.loads_iff.mpr rfl, hmade.prebuilt⟩

namespace Sample

-- Two of three mappings ask for the SFC module. The first two have builds.
def mixedOnload (version : String) : Onload :=
  let o := onload version
  let build : ImageBuild := ⟨[⟨"SOURCE", "onload.tgz"⟩], "dockerfile"⟩
  { o with spec.onload.kernelMappings := [
      ⟨"registry/onload-module:8", "el8", false, some build⟩,
      ⟨"registry/onload-module:9", "el9", true, some build⟩,
      ⟨"registry/onload-module", ".*", true, none⟩] }

end Sample

-- A release is edited into one with other mappings, and after the device plugin and the Onload module the
-- SFC module is replaced.
theorem sfcModules_consistent_replaced :
    ∃ w : World Cluster,
      (∃ m ∈ Reconcile.submitted (.inMemory .zero Sample.now) Sample.resource w,
        m.Loads .sfc ∧ m.Prebuilt) ∧
      w.cluster.Keyed ∧
      ∃ m, (w.afterPass Sample.resource .zero Sample.now).cluster.modules.get?
          ⟨Sample.resource.ns, ModuleKind.sfc.resourceName Sample.resource.name⟩ = some m ∧
        m.kernelMappings.length = 2 ∧ m.Loads .sfc ∧ m.Prebuilt := by
  let start := Sample.sfcWorld "1" []
  let edited : World Cluster :=
    { start with cluster := (Edit.putOnload (Sample.mixedOnload "2")).apply start.cluster }
  let pass (w : World Cluster) : World Cluster := w.afterPass Sample.resource .zero Sample.now
  let w := pass (pass edited)
  have hedited : edited.cluster.Keyed :=
    (Sample.keyed_sfcWorld "1" []).edit (.putOnload (Sample.mixedOnload "2"))
  have hk : w.cluster.Keyed := keyed_afterPass _ _ (keyed_afterPass _ _ hedited)
  have ⟨_, hsubmitted, hstored⟩ := sfcModules_consistent
  have ⟨m, hm, hl⟩ : ∃ m ∈ Reconcile.submitted (.inMemory .zero Sample.now) Sample.resource w,
      m.Loads .sfc := by decide +kernel
  have ⟨m', hm', hnew, hlength⟩ : ∃ m ∈ (pass w).cluster.modules.get?
        ⟨Sample.resource.ns, ModuleKind.sfc.resourceName Sample.resource.name⟩,
      w.cluster.modules.get? ⟨Sample.resource.ns, ModuleKind.sfc.resourceName Sample.resource.name⟩ ≠
        some m ∧ m.kernelMappings.length = 2 := by decide +kernel
  have ⟨hl', hprebuilt⟩ := (hstored w _ _ _ _ _ m' hk hm').resolve_left hnew
  exact ⟨w, ⟨m, hm, hl, hsubmitted _ _ _ _ m hm hl⟩, hk, m', hm', hlength, hl', hprebuilt⟩

end KernelRollout
