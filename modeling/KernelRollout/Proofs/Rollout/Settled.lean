import KernelRollout.Proofs.Rollout.InFlight

namespace KernelRollout

open Pass
open Reconcile (Finished Handled Handles Reported)

variable {id : Identity} {c c' : Cluster} {n : Node} {t : Target} {name : String} {o : Onload}
variable {delay : Duration} {now : Timestamp} {w : World Cluster}

-- The Onload module and both daemon sets are there at the version, and so is the SFC module if the release
-- uses it. Otherwise there is no SFC module.
structure OperandsAt (id : Identity) (spec : OnloadSpec) (c : Cluster) : Prop where
  onloadModule : (c.modules.get? ⟨id.ns, ModuleKind.onload.resourceName id.name⟩).map (·.loaderVersion?) =
    some (some spec.onload.version)
  sfcModule    : (c.modules.get? ⟨id.ns, ModuleKind.sfc.resourceName id.name⟩).map (·.loaderVersion?) =
    if spec.onload.usesSfc then some (some spec.onload.version) else none
  daemonSets   : ∀ daemon : Operand.Daemon,
    (c.daemonSets.get? ⟨id.ns, daemon.resourceName id.name⟩).map Operand.version? =
      some (some spec.onload.version)

-- The resource has run its course: nodes, operands and its condition are as it declares. Nodes that
-- refuse patches may have kept markers.
structure RolledOut (id : Identity) (spec : OnloadSpec) (c : Cluster) : Prop
    extends OperandsAt id spec c where
  selected   : ∀ name, c.Matches spec.selector name →
    c.marker? id .loader name = some spec.onload.version ∧
    c.marker? id .ready name = some spec.onload.version
  unselected : ∀ name, ¬c.Matches spec.selector name → c.refuses name = false →
    ∀ m, c.marker? id m name = none
  sfcMarkers : spec.onload.usesSfc = false → ∀ name, c.refuses name = false →
    c.marker? id .sfc name = none
  reported   : ∃ o, c.onloads.get? id = some o ∧ o.spec = spec ∧
    ∃ condition, o.condition? "Ready" = some condition ∧ condition.status = "True" ∧
      condition.reason = some "Reconciled"

namespace Cluster

theorem onloads_patchOnloadStatus {status : OnloadStatus} (h : c.onloads.get? id = some o) :
    (c.patchOnloadStatus id status).2.onloads.get? id = some { o with
      status := some status, metadata := withVersion o.metadata (c.version + 1) } := by
  have h : c.nextVersion.onloads.get? id = some o := h
  simp only [patchOnloadStatus, h]
  exact Dict.get?_insert_self ..

end Cluster

-- The target as the next pass finds it after a report.
def Target.reported (t : Target) (status : OnloadStatus) (version : Nat) : Target where
  onload := { t.onload with
    status := some status, metadata := Cluster.withVersion t.onload.metadata version }
  id := t.id

-- It has the same name.
theorem Target.of_reported {status : OnloadStatus} {version : Nat} (h : Target.of t.onload = .ok t) :
    Target.of (t.reported status version).onload = .ok (t.reported status version) := by
  rw [Target.of] at h ⊢
  split at h
  case h_1 => cases h
  case h_2 => cases h
  case h_3 name ns hname hns =>
    have hname : (t.reported status version).onload.metadata.name = some name := hname
    have hns : (t.reported status version).onload.metadata.ns = some ns := hns
    have hid : ⟨ns, name⟩ = t.id := congrArg (·.id) (Except.ok.inj h)
    rw [hname, hns]
    exact congrArg (fun i => Except.ok (Target.mk (t.reported status version).onload i)) hid

namespace Reconcile

variable {b : Bool} {reason message : String}

-- All other conditions have other types.
theorem condition?_withReady : (withReady o b reason message now).condition? readyCondition = some
    { type := readyCondition, status := statusText b, reason := some reason,
      message := some message, lastTransitionTime := some now } := by
  rw [withReady, OnloadStatus.condition?, List.find?_append, List.find?_eq_none.mpr]
  · simp
  · intro condition h
    simpa using (List.mem_filter.mp h).right

-- A new status makes no difference to the passes for a resource.
theorem Handles.reported (h : Handles c t.id t) (status : OnloadStatus) :
    Handles (c.patchOnloadStatus t.id status).2 t.id (t.reported status (c.version + 1)) where
  stored := Cluster.onloads_patchOnloadStatus h.stored
  kept := h.kept
  target := Target.of_reported h.target
  valid := h.valid

theorem Reported.condition (ht : c.onloads.get? t.id = some t.onload)
    (h : Reported t b reason message c c') :
    ∃ o, c'.onloads.get? t.id = some o ∧ o.spec = t.spec ∧ ∃ condition,
      o.condition? readyCondition = some condition ∧ condition.status = statusText b ∧
      condition.reason = some reason := by
  cases h with
  | already h =>
    cases hc : t.onload.condition? readyCondition with
    | none => simp [hc] at h
    | some condition =>
      simp only [hc, Option.any_some, reports, Bool.and_eq_true, decide_eq_true_eq] at h
      exact ⟨t.onload, ht, rfl, condition, hc, h.left.left, h.left.right⟩
  | written now =>
    exact ⟨_, Cluster.onloads_patchOnloadStatus ht, rfl, _, condition?_withReady, rfl, rfl⟩

-- A pass that does not fail, for a resource that stays, has run the steps.
theorem handles_of_ok {outcome : StepOutcome} (ho : w.cluster.onloads.get? id = some o)
    (hkept : o.metadata.terminating = false) (h : w.passAnswer id delay now = .ok outcome) :
    ∃ t, Handles w.cluster id t ∧ t.onload = o := by
  have hpass : Ensures (pass (.inMemory delay now) id) w fun r _ =>
      r = .ok outcome → ∃ t, Handles w.cluster id t ∧ t.onload = o := by
    refine ensures_pass_present
      (fun r _ => r = .ok outcome → ∃ t, Handles w.cluster id t ∧ t.onload = o) ho ?_
    rw [present, if_neg (by simp [hkept])]
    refine .ofExcept_bind (fun t ht => ?_) fun e _ h => by cases h
    have hto := (Target.of_eq ht).left
    subst hto
    split
    case h_1 hv => exact fun _ => ⟨t, ⟨ho, hkept, ht, hv⟩, rfl⟩
    case h_2 => exact (ensures_report ..).bind fun _ _ _ => .throw fun h => by cases h
  exact hpass h

theorem handles_of_nothingToDo (ho : w.cluster.onloads.get? id = some o)
    (hkept : o.metadata.terminating = false)
    (h : w.passAnswer id delay now = .ok .nothingToDo) :
    ∃ t, Handles w.cluster id t ∧ t.onload = o :=
  handles_of_ok ho hkept h

theorem finished_of_nothingToDo (hk : w.cluster.Keyed) (ht : Handles w.cluster id t)
    (h : w.passAnswer id delay now = .ok .nothingToDo) :
    Finished t w.cluster ∧
      Reported t true "Reconciled" rolledOut w.cluster (w.afterPass id delay now).cluster := by
  have hhandled : Handled (.inMemory delay now) t w (w.passAnswer id delay now)
      (w.afterPass id delay now).cluster := pass_handled hk ht
  rw [h] at hhandled
  cases hhandled with
  | settled hfinished hr => exact ⟨hfinished, hr⟩
  | advanced hr => exact absurd rfl hr

theorem InPlace.operandsAt (h : InPlace t c) : OperandsAt t.id t.spec c where
  onloadModule := current_modulePart.mp (h.operands _ (modulePart_mem_parts .onload))
  sfcModule := current_modulePart.mp (h.operands _ (modulePart_mem_parts .sfc))
  daemonSets daemon := current_daemonSetPart.mp (h.operands _ (daemonSetPart_mem_parts daemon))

namespace Finished

theorem loader (h : Finished t c) (hs : c.Stores n) (hsel : t.selects n = true) :
    t.marker? .loader n = some t.version := by
  have ⟨v, hv⟩ := Option.isSome_iff_exists.mp (h.supplied n hs hsel).left
  by_cases hversion : v = t.version
  case pos => rwa [hversion] at hv
  case neg => exact absurd ⟨v, hv, hversion⟩ (h.drained n hs hsel)

theorem ready (h : Finished t c) (hs : c.Stores n) (hsel : t.selects n = true) :
    t.marker? .ready n = some t.version := by
  have hopened := h.opened n hs hsel
  simpa [Marking.becomesReady, h.loader hs hsel] using hopened

theorem sfc (h : Finished t c) (hs : c.Stores n) (hsel : t.selects n = true)
    (hw : t.sfcWanted = true) : (t.marker? .sfc n).isSome = true := by
  have hneeds := (h.supplied n hs hsel).right
  simpa [Marking.needsSfc, hw, h.loader hs hsel, Option.isSome_iff_ne_none] using hneeds

theorem rolledOut (h : Finished t c) (hk : c.Keyed) (ht : c.onloads.get? t.id = some t.onload)
    (hr : Reported t true "Reconciled" Reconcile.rolledOut c c') : RolledOut t.id t.spec c' := by
  have hnodes : c'.nodes = c.nodes := hr.aside.nodes
  have hrefuses : ∀ name, c'.refuses name = c.refuses name := fun name => by rw [hr.eq]; rfl
  have hmatches : ∀ name, c'.Matches t.spec.selector name ↔ c.Matches t.spec.selector name :=
    fun name => by simp only [Cluster.Matches, hnodes]
  -- Of a node that is not there nothing has to be shown.
  have hmarker : ∀ name m, (∀ n, c.Stores n → n.name = name → t.marker? m n = none) →
      c'.marker? t.id m name = none := by
    intro name m hnone
    rw [Cluster.marker?_congr hnodes]
    cases hn : c.nodes.get? name with
    | none => rw [Cluster.marker?, hn]; rfl
    | some n =>
      have hname := hk.nodes name n hn
      subst hname
      rw [(hk.stores hn).marker?]
      exact hnone n (hk.stores hn) rfl
  constructor
  case selected =>
    intro name hm
    obtain ⟨n, hn, hsel⟩ := (hmatches name).mp hm
    have hname := hk.nodes name n hn
    subst hname
    have hs := hk.stores hn
    rw [Cluster.marker?_congr hnodes, Cluster.marker?_congr hnodes, hs.marker?, hs.marker?]
    exact ⟨h.loader hs hsel, h.ready hs hsel⟩
  case unselected =>
    intro name hm hf m
    refine hmarker name m fun n hs hname => ?_
    subst hname
    rw [hmatches, hs.matches_iff, Bool.not_eq_true] at hm
    exact h.stripped.unselected n hs hm (hrefuses _ ▸ hf) m
  case sfcMarkers =>
    intro hw name hf
    refine hmarker name .sfc fun n hs hname => ?_
    subst hname
    exact h.stripped.unwanted hw n hs (hrefuses _ ▸ hf)
  case toOperandsAt =>
    have hoperands := h.operandsAt
    rw [hr.eq]
    exact ⟨hoperands.onloadModule, hoperands.sfcModule, hoperands.daemonSets⟩
  case reported => exact hr.condition ht

end Finished

end Reconcile

namespace Sample

-- The resource with an SFC module beside the Onload module.
def sfcOnload (version : String) : Onload :=
  let o := onload version
  { o with spec.onload.kernelMappings := [⟨"registry/onload-module", ".*", true, none⟩] }

-- The resource and its operands at one version.
def sfcWorld (version : String) (nodes : List Node) : World Cluster where
  cluster := Edit.applyAll (.putOnload (sfcOnload version) :: operands version ++
    (Operand.kernelModule ⟨sfcOnload version, resource⟩ .sfc).toOption.toList.map .putModule ++
    nodes.map .putNode) {}
  metrics := {}
  backoff := { min := .zero, max := .zero }

theorem keyed_sfcWorld (version : String) (nodes : List Node) :
    (sfcWorld version nodes).cluster.Keyed :=
  Cluster.Keyed.empty.applyAll _

end Sample

-- A pass has nothing to do only for a resource that is rolled out.
theorem rolledOut_of_nothingToDo (hk : w.cluster.Keyed) (ho : w.cluster.onloads.get? id = some o)
    (hkept : o.metadata.terminating = false) (h : w.passAnswer id delay now = .ok .nothingToDo) :
    RolledOut id o.spec (w.afterPass id delay now).cluster := by
  have ⟨t, ht, hto⟩ := Reconcile.handles_of_nothingToDo ho hkept h
  have ⟨hfinished, hr⟩ := Reconcile.finished_of_nothingToDo hk ht h
  have hid := ht.id_eq hk
  subst hid hto
  exact hfinished.rolledOut hk ht.stored hr

-- A worker is at the version, and a node that has left refuses patches and keeps its markers.
theorem rolledOut_of_nothingToDo_refusing :
    ∃ (w : World Cluster) (o : Onload), w.cluster.Keyed ∧
      w.cluster.onloads.get? Sample.resource = some o ∧ o.metadata.terminating = false ∧
      w.passAnswer Sample.resource .zero Sample.now = .ok .nothingToDo ∧
      (w.afterPass Sample.resource .zero Sample.now).cluster.marker? Sample.resource .ready "b" =
        some "1" ∧
      RolledOut Sample.resource o.spec (w.afterPass Sample.resource .zero Sample.now).cluster := by
  let left : Node := .labelled "b" (Dict.empty.insert (Marker.ready.key Sample.resource) "1")
  let start := Sample.world "2" "2" [Sample.openWorker "a" "2", left]
  let w := { start with cluster := start.cluster.failNodePatches "b" }
  let o := Cluster.admitted (Sample.onload "2") 1
  have hk : w.cluster.Keyed := (Sample.keyed_world ..).edit (.failNodePatches "b")
  have ho : w.cluster.onloads.get? Sample.resource = some o := by decide +kernel
  have hkept : o.metadata.terminating = false := rfl
  have hanswer : w.passAnswer Sample.resource .zero Sample.now = .ok .nothingToDo := by decide +kernel
  exact ⟨w, o, hk, ho, hkept, hanswer, by decide +kernel, rolledOut_of_nothingToDo hk ho hkept hanswer⟩

-- With nothing to do every selected node has the SFC marker that is wanted. It is at the version
-- exactly if the node had no SFC marker before that its loader marker did not agree with.
theorem sfcMarker_of_nothingToDo (hk : w.cluster.Keyed) (ho : w.cluster.onloads.get? id = some o)
    (hkept : o.metadata.terminating = false) (hsfc : o.spec.onload.usesSfc = true)
    (h : w.passAnswer id delay now = .ok .nothingToDo)
    (hm : (w.afterPass id delay now).cluster.Matches o.spec.selector name) :
    ((w.afterPass id delay now).cluster.marker? id .sfc name).isSome = true ∧
    ((w.afterPass id delay now).cluster.marker? id .sfc name = some o.version ↔
      ∀ v, w.cluster.marker? id .sfc name = some v → w.cluster.marker? id .loader name = some v) := by
  have ⟨t, ht, hto⟩ := Reconcile.handles_of_nothingToDo ho hkept h
  have ⟨hfinished, hr⟩ := Reconcile.finished_of_nothingToDo hk ht h
  have hid := ht.id_eq hk
  subst hid hto
  have ⟨n, hn, hsel⟩ := hm
  rw [hr.aside.nodes] at hn
  have hname := hk.nodes name n hn
  subst hname
  have hs := hk.stores hn
  have hmarker := hfinished.sfc hs hsel hsfc
  rw [Cluster.marker?_congr hr.aside.nodes, hs.marker?, hs.marker?]
  refine ⟨hmarker, ?_⟩
  have ⟨v, hv⟩ := Option.isSome_iff_exists.mp hmarker
  have hloader : n.label? (Marker.loader.key t.id) = some t.onload.version := hfinished.loader hs hsel
  have hv : n.label? (Marker.sfc.key t.id) = some v := hv
  simp [hv, hloader, eq_comm]

-- A worker that has all its markers at the version.
theorem sfcMarker_of_nothingToDo_open :
    ∃ (w : World Cluster) (o : Onload), w.cluster.Keyed ∧
      w.cluster.onloads.get? Sample.resource = some o ∧ o.spec.onload.usesSfc = true ∧
      w.passAnswer Sample.resource .zero Sample.now = .ok .nothingToDo ∧
      (w.afterPass Sample.resource .zero Sample.now).cluster.marker? Sample.resource .sfc "a" =
        some o.version := by
  let w := Sample.sfcWorld "2" [Sample.worker "a" [(.loader, "2"), (.sfc, "2"), (.ready, "2")]]
  let o := Cluster.admitted (Sample.sfcOnload "2") 1
  have hk : w.cluster.Keyed := Sample.keyed_sfcWorld ..
  have ho : w.cluster.onloads.get? Sample.resource = some o := by decide +kernel
  have hanswer : w.passAnswer Sample.resource .zero Sample.now = .ok .nothingToDo := by decide +kernel
  have hm : (w.afterPass Sample.resource .zero Sample.now).cluster.Matches o.spec.selector "a" := by
    decide +kernel
  have ⟨_, hversion⟩ := sfcMarker_of_nothingToDo hk ho rfl rfl hanswer hm
  exact ⟨w, o, hk, ho, rfl, hanswer, hversion.mpr (by decide +kernel)⟩

-- An SFC marker that an earlier version left on a worker with a current module stays there.
theorem nothingToDo_leaves_sfcMarker :
    ∃ (w : World Cluster) (o : Onload), w.cluster.Keyed ∧
      w.cluster.onloads.get? Sample.resource = some o ∧ o.metadata.terminating = false ∧
      o.validate = .ok () ∧ o.spec.onload.usesSfc = true ∧
      w.passAnswer Sample.resource .zero Sample.now = .ok .nothingToDo ∧
      (w.afterPass Sample.resource .zero Sample.now).cluster.Matches o.spec.selector "a" ∧
      (w.afterPass Sample.resource .zero Sample.now).cluster.marker? Sample.resource .sfc "a" ≠
        some o.version := by
  let w := Sample.sfcWorld "2" [Sample.worker "a" [(.loader, "2"), (.sfc, "1"), (.ready, "2")]]
  let o := Cluster.admitted (Sample.sfcOnload "2") 1
  refine ⟨w, o, Sample.keyed_sfcWorld .., by decide +kernel, rfl, ?_, rfl, ?_, ?_, ?_⟩
  all_goals decide +kernel

end KernelRollout
