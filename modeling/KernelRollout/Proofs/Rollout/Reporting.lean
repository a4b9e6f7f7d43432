import KernelRollout.Proofs.Cluster.Log
import KernelRollout.Proofs.Rollout.Fixpoint
import KernelRollout.Proofs.Rollout.Remit

namespace KernelRollout

open Pass
open Cluster (Calls)
open Reconcile (Reported readyCondition reports withReady)

variable {id : Identity} {c c' : Cluster} {o o' : Onload} {t : Target} {p : ConfigProblem}
variable {delay : Duration} {now : Timestamp} {w : World Cluster}
variable {r : Except OperatorError StepOutcome}

-- What is said of a resource.
structure Verdict where
  ready   : Bool
  reason  : String
  message : String

namespace Verdict

variable {v : Verdict}

def rejected (p : ConfigProblem) : Verdict :=
  ⟨false, "InvalidConfig", "Invalid configuration: " ++ p.message⟩

-- Passes that have to go on, or that fail for another reason, say nothing.
def of? : Except OperatorError StepOutcome → Option Verdict
  | .ok .nothingToDo          => some ⟨true, "Reconciled", "Onload is rolled out on every selected node"⟩
  | .error (.invalidConfig p) => some (rejected p)
  | _                         => none

-- A condition says so.
structure Stands (v : Verdict) (condition : Condition) : Prop where
  status  : condition.status = if v.ready then "True" else "False"
  reason  : condition.reason = some v.reason
  message : condition.message = some v.message

-- The first ready condition of the resource does.
def Holds (v : Verdict) (o : Onload) : Prop :=
  ∃ ready, o.condition? "Ready" = some ready ∧ v.Stands ready

theorem stands_iff {condition : Condition} :
    v.Stands condition ↔ reports v.ready v.reason v.message condition = true := by
  simp only [reports, Bool.and_eq_true, decide_eq_true_eq]
  exact ⟨fun h => ⟨⟨h.status, h.reason⟩, h.message⟩, fun h => ⟨h.left.left, h.left.right, h.right⟩⟩

theorem holds_iff :
    v.Holds o ↔ (o.condition? readyCondition).any (reports v.ready v.reason v.message) = true := by
  rw [Option.any_eq_true]
  exact exists_congr fun _ => and_congr_right fun _ => stands_iff

end Verdict

def Onload.conditions (o : Onload) : List Condition := (o.status.map (·.conditions)).getD []

-- The same resource, with the verdict behind the conditions of other types.
structure Restated (v : Verdict) (o o' : Onload) : Prop where
  declared   : o'.declared = o.declared
  conditions : ∃ ready, ready.type = "Ready" ∧ v.Stands ready ∧
    o'.conditions = o.conditions.filter (·.type ≠ "Ready") ++ [ready]

-- No status is written.
structure StatusesKept (c c' : Cluster) : Prop where
  onloads : c'.onloads = c.onloads
  log     : ∃ as, c'.actions = c.actions ++ as ∧ ∀ j, .patchOnloadStatus j ∉ as

-- What becomes of the statuses of resources in a pass, by its answer.
inductive StatusesAfter (id : Identity) (c : Cluster) (r : Except OperatorError StepOutcome)
    (c' : Cluster) : Prop
  | kept (h : StatusesKept c c')
  | written (o o' : Onload) (v : Verdict) (ho : c.onloads.get? id = some o) (hv : Verdict.of? r = some v)
    (hnew : ¬v.Holds o) (hrestated : Restated v o o') (ho' : c'.onloads = c.onloads.insert id o')
    (hlog : c'.actions = c.actions ++ [.patchOnloadStatus id])

theorem StatusesKept.refl : StatusesKept c c := ⟨rfl, [], by simp⟩

-- The rollout of a resource has nothing to do with statuses.
theorem StatusesKept.of_calls (h : c.Calls (.rollout id) c') : StatusesKept c c' where
  onloads := Dict.ext_get? fun j => h.within.onloads j fun hj => hj
  log := h.statuses

namespace Reconcile

theorem restated_withReady (o : Onload) (v : Verdict) (now : Timestamp) (version : Nat) :
    Restated v o { o with
      status := some (withReady o v.ready v.reason v.message now)
      metadata := Cluster.withVersion o.metadata version } where
  declared := rfl
  conditions := ⟨_, rfl, ⟨rfl, rfl, rfl⟩, rfl⟩

theorem statuses_report {v : Verdict} (ho : w.cluster.onloads.get? t.id = some t.onload)
    (hv : Verdict.of? r = some v) :
    Succeeds (report (.inMemory delay now) t v.ready v.reason v.message) w fun _ w' =>
      StatusesAfter t.id w.cluster r w'.cluster := by
  rw [report]
  split
  case isTrue => exact .pure ⟨(), rfl, .kept .refl⟩
  case isFalse hnew =>
    rw [← Verdict.holds_iff] at hnew
    let status := withReady t.onload v.ready v.reason v.message now
    have hwritten : (w.cluster.patchOnloadStatus t.id status).2 = _ := Cluster.patchOnloadStatus_stored ho
    refine .attempt_bind rfl (.pure ⟨(), rfl, ?_⟩)
    refine .written _ _ v ho hv hnew (restated_withReady _ v now (w.cluster.version + 1)) ?_ ?_
    · exact congrArg (·.onloads) hwritten
    · exact congrArg (·.actions) hwritten

-- The steps write no status.
theorem statuses_valid (hk : w.cluster.Keyed) (ho : w.cluster.onloads.get? t.id = some t.onload) :
    Ensures (valid (.inMemory delay now) t) w fun r w' =>
      StatusesAfter t.id w.cluster r w'.cluster := by
  have hidle : Ensures (steps (.inMemory delay now) t) w fun r w' => r = .ok .nothingToDo → w' = w :=
    Ensures.mono (steps_settles hk) fun r w' h hr => by
      obtain ⟨_, hw, _⟩ | ⟨hr', _⟩ := h
      · exact hw
      · exact absurd hr hr'
  have hboth : Ensures (steps (.inMemory delay now) t) w fun r w' =>
      (r = .ok .nothingToDo → w' = w) ∧ w.cluster.Calls (.rollout t.id) w'.cluster :=
    ⟨hidle, keepsTo_steps w hk⟩
  refine hboth.bind ?ok fun _ _ h => .kept (.of_calls h.right)
  rintro outcome w₁ ⟨hidle, hcalls⟩
  cases outcome with
  | requeueNow | requeueAfter => exact .pure (.kept (.of_calls hcalls))
  | nothingToDo =>
    have hw := hidle rfl
    subst hw
    exact (statuses_report (r := .ok .nothingToDo) ho rfl).bind fun _ _ h => .pure h

theorem keepsTo_gone : KeepsTo (.rollout id) (gone (.inMemory delay now) id) :=
  .bind Sweep.keepsTo_allMarkers fun _ => .bind (fun w _ => .refl w.cluster) fun _ => .pure _

end Reconcile

-- Blank versions, and both ways into the pods at once.
def Onload.Unusable (o : Onload) : Prop :=
  Text.allBlank o.version = true ∨
    (o.spec.devicePlugin.setPreload = some true ∧ o.spec.devicePlugin.mountOnload = some true)

def Onload.Named (o : Onload) : Prop := o.metadata.name.isSome = true ∧ o.metadata.ns.isSome = true

theorem Onload.unusable_iff : o.Unusable ↔ ∃ p, o.validate = .error (.invalidConfig p) := by
  rw [validate, Unusable]
  split
  case isTrue hblank => exact ⟨fun _ => ⟨_, rfl⟩, fun _ => .inl hblank⟩
  case isFalse hblank =>
    rw [or_iff_right hblank]
    split
    case isTrue hboth => exact ⟨fun _ => ⟨_, rfl⟩, fun _ => hboth⟩
    case isFalse hboth => exact ⟨fun h => absurd h hboth, by simp⟩

theorem Target.of_named (h : o.Named) : ∃ t, Target.of o = .ok t := by
  obtain ⟨name, hname⟩ := Option.isSome_iff_exists.mp h.left
  obtain ⟨ns, hns⟩ := Option.isSome_iff_exists.mp h.right
  exact ⟨_, by rw [Target.of, hname, hns]⟩

theorem Target.of_nameless (h : ¬o.Named) : ∃ f, Target.of o = .error (.missingField f) := by
  rw [Target.of]
  split
  case h_1 => exact ⟨_, rfl⟩
  case h_2 => exact ⟨_, rfl⟩
  case h_3 name ns hname hns =>
    have hnamed : o.Named := ⟨by rw [hname]; rfl, by rw [hns]; rfl⟩
    exact absurd hnamed h

namespace Reconcile

theorem statuses_pass (hk : w.cluster.Keyed) :
    Ensures (pass (.inMemory delay now) id) w fun r w' => StatusesAfter id w.cluster r w'.cluster := by
  have huncounted : Ensures (uncounted (.inMemory delay now) id) w fun r w' =>
      StatusesAfter id w.cluster r w'.cluster := by
    refine .read rfl ?_
    split
    case h_1 => exact (keepsTo_gone w hk).mono fun _ _ h => .kept (.of_calls h)
    case h_2 o ho =>
      rw [present]
      split
      case isTrue => exact .pure (.kept .refl)
      case isFalse =>
        refine .ofExcept_bind (fun t ht => ?_) fun _ _ => .kept .refl
        obtain ⟨hto, hid⟩ := Target.of_eq ht
        have hid' : t.id = id := hid.trans (hk.onloads id o ho)
        subst hto
        subst hid'
        split
        case h_1 => exact statuses_valid hk ho
        case h_2 e he =>
          obtain ⟨p, rfl⟩ := Onload.exists_problem he
          exact (statuses_report (r := .error (.invalidConfig p)) ho rfl).bind fun _ _ h => .throw h
  exact huncounted

-- The resource is there and stays, but a pass for it does not run the steps.
structure Rejects (c : Cluster) (id : Identity) (t : Target) (p : ConfigProblem) : Prop where
  stored  : c.onloads.get? id = some t.onload
  kept    : t.onload.metadata.terminating = false
  target  : Target.of t.onload = .ok t
  invalid : t.onload.validate = .error (.invalidConfig p)

theorem Rejects.id_eq (hk : c.Keyed) (h : Rejects c id t p) : t.id = id :=
  (Target.of_eq h.target).right.trans (hk.onloads id _ h.stored)

-- A new status makes no difference.
theorem Rejects.reported (h : Rejects c t.id t p) (status : OnloadStatus) :
    Rejects (c.patchOnloadStatus t.id status).2 t.id (t.reported status (c.version + 1)) p where
  stored := Cluster.onloads_patchOnloadStatus h.stored
  kept := h.kept
  target := Target.of_reported h.target
  invalid := h.invalid

-- Such a pass reports the problem, and that is all.
theorem ensures_pass_rejected (post : Cluster → Prop) (h : Rejects w.cluster id t p)
    (hreport : let v := Verdict.rejected p
      Succeeds (report (.inMemory delay now) t v.ready v.reason v.message) w fun _ w' =>
        post w'.cluster) :
    w.passAnswer id delay now = .error (.invalidConfig p) ∧ post (w.afterPass id delay now).cluster := by
  refine ensures_pass_present (fun r c' => r = .error (.invalidConfig p) ∧ post c') h.stored ?_
  rw [present, if_neg (by simp [h.kept]), h.target]
  refine .read (a := t) rfl ?_
  rw [h.invalid]
  exact hreport.bind fun _ _ h => .throw ⟨rfl, h⟩

-- The next pass finds the problem reported.
theorem Rejects.after_report (hk : c.Keyed) (h : Rejects c id t p)
    (hr : let v := Verdict.rejected p
      Reported t v.ready v.reason v.message c c') :
    ∃ t', Rejects c' id t' p ∧ (Verdict.rejected p).Holds t'.onload := by
  have hid := h.id_eq hk
  subst hid
  cases hr with
  | already hsays => exact ⟨t, h, Verdict.holds_iff.mpr hsays⟩
  | written now => exact ⟨_, h.reported _, _, condition?_withReady, rfl, rfl, rfl⟩

theorem report_idle {v : Verdict} (h : v.Holds t.onload) :
    Succeeds (report (.inMemory delay now) t v.ready v.reason v.message) w fun _ w' =>
      w'.cluster = w.cluster := by
  rw [report, if_pos (Verdict.holds_iff.mp h)]
  exact .pure ⟨(), rfl, rfl⟩

end Reconcile

-- What a pass makes of a resource that is not valid.
structure Rejected (id : Identity) (w : World Cluster) (delay : Duration) (now : Timestamp)
    (p : ConfigProblem) : Prop where
  answer     : w.passAnswer id delay now = .error (.invalidConfig p)
  nodes      : (w.afterPass id delay now).cluster.nodes = w.cluster.nodes
  pods       : (w.afterPass id delay now).cluster.pods = w.cluster.pods
  modules    : (w.afterPass id delay now).cluster.modules = w.cluster.modules
  daemonSets : (w.afterPass id delay now).cluster.daemonSets = w.cluster.daemonSets
  others     : ∀ j ≠ id, (w.afterPass id delay now).cluster.onloads.get? j = w.cluster.onloads.get? j
  said       : ∃ o, (w.afterPass id delay now).cluster.onloads.get? id = some o ∧
    (Verdict.rejected p).Holds o
  again      : ∀ delay₁ now₁,
    (w.afterPass id delay now).passAnswer id delay₁ now₁ = .error (.invalidConfig p) ∧
    ((w.afterPass id delay now).afterPass id delay₁ now₁).cluster = (w.afterPass id delay now).cluster

theorem StatusesAfter.other (h : StatusesAfter id c r c') {j : Identity} (hj : j ≠ id) :
    c'.onloads.get? j = c.onloads.get? j := by
  cases h with
  | kept h => rw [h.onloads]
  | written _ _ _ _ _ _ _ ho' => rw [ho', Dict.get?_insert_other _ _ hj]

-- Without a name there is nothing to report on.
theorem passAnswer_nameless (ho : w.cluster.onloads.get? id = some o)
    (hkept : o.metadata.terminating = false) (h : ¬o.Named) (delay : Duration) (now : Timestamp) :
    (∃ f, w.passAnswer id delay now = .error (.missingField f)) ∧
      (w.afterPass id delay now).cluster = w.cluster := by
  obtain ⟨f, hf⟩ := Target.of_nameless h
  refine Reconcile.ensures_pass_present
    (fun r c' => (∃ f, r = .error (.missingField f)) ∧ c' = w.cluster) ho ?_
  rw [Reconcile.present, if_neg (by simp [hkept]), hf]
  exact ⟨⟨f, rfl⟩, rfl⟩

theorem Reconcile.Rejects.rejected (hk : w.cluster.Keyed) (h : Rejects w.cluster id t p) :
    Rejected id w delay now p := by
  obtain ⟨hanswer, hreported⟩ : w.passAnswer id delay now = .error (.invalidConfig p) ∧ _ :=
    ensures_pass_rejected (Reported t _ _ _ w.cluster) h (ensures_report ..)
  have hstatuses : StatusesAfter id w.cluster _ (w.afterPass id delay now).cluster := statuses_pass hk
  obtain ⟨t', ht', hholds⟩ := h.after_report hk hreported
  constructor
  case answer => exact hanswer
  case nodes => rw [hreported.eq]
  case pods => rw [hreported.eq]
  case modules => rw [hreported.eq]
  case daemonSets => rw [hreported.eq]
  case others => exact fun _ hj => hstatuses.other hj
  case said => exact ⟨t'.onload, ht'.stored, hholds⟩
  case again =>
    intro delay₁ now₁
    exact ensures_pass_rejected (· = (w.afterPass id delay now).cluster) ht' (report_idle hholds)

-- A resource that has a name and is not valid is told so, once and for all, and nothing else is
-- changed. What is written on any resource is what has come of the pass.
theorem invalid_reported (hk : w.cluster.Keyed) (id : Identity) (delay : Duration) (now : Timestamp) :
    (∀ o, w.cluster.onloads.get? id = some o → o.metadata.terminating = false → o.Named →
      o.Unusable → ∃ p, Rejected id w delay now p) ∧
    (∀ o, w.cluster.onloads.get? id = some o → o.metadata.terminating = false → ¬o.Named →
      (∃ f, w.passAnswer id delay now = .error (.missingField f)) ∧
        (w.afterPass id delay now).cluster = w.cluster) ∧
    StatusesAfter id w.cluster (w.passAnswer id delay now) (w.afterPass id delay now).cluster := by
  refine ⟨fun o ho hkept hnamed hunusable => ?_, fun o ho hkept hnamed => ?_, ?_⟩
  · obtain ⟨t, ht⟩ := Target.of_named hnamed
    obtain ⟨p, hp⟩ := Onload.unusable_iff.mp hunusable
    have hto := (Reconcile.Target.of_eq ht).left
    subst hto
    have h : Reconcile.Rejects w.cluster id t p := ⟨ho, hkept, ht, hp⟩
    exact ⟨p, h.rejected hk⟩
  · exact passAnswer_nameless ho hkept hnamed delay now
  · exact Reconcile.statuses_pass hk

namespace Sample

def condition (type status : String) : Condition := { type, status, reason := some "Reconciled" }

-- The resource without a version, on which other things were reported.
def blankOnload : Onload := { onload " " with
  status := some {
    conditions := [condition "Ready" "True", condition "Degraded" "False", condition "Ready" "False"] } }

def blankWorld (o : Onload) : World Cluster where
  cluster := Edit.applyAll [.putOnload o, .putNode (worker "a" [])] {}
  metrics := {}
  backoff := { min := .zero, max := .zero }

theorem keyed_blankWorld (o : Onload) : (blankWorld o).cluster.Keyed := Cluster.Keyed.empty.applyAll _

end Sample

-- Of two ready conditions, with another one between them, one is left at the end.
theorem invalid_reported_blank :
    ∃ (w : World Cluster) (o : Onload), w.cluster.Keyed ∧
      w.cluster.onloads.get? Sample.resource = some o ∧ o.metadata.terminating = false ∧ o.Named ∧
      o.Unusable ∧ o.conditions.map (·.type) = ["Ready", "Degraded", "Ready"] ∧
      (∃ p, Rejected Sample.resource w .zero Sample.now p) ∧
      ((w.afterPass Sample.resource .zero Sample.now).cluster.onloads.get? Sample.resource).map
        (·.conditions.map (·.type)) = some ["Degraded", "Ready"] := by
  let w := Sample.blankWorld Sample.blankOnload
  let o := Cluster.admitted Sample.blankOnload 1
  have hk : w.cluster.Keyed := Sample.keyed_blankWorld _
  have ho : w.cluster.onloads.get? Sample.resource = some o := by decide +kernel
  have hunusable : o.Unusable := .inl (by decide +kernel)
  have hrejected := (invalid_reported hk Sample.resource .zero Sample.now).left o ho rfl ⟨rfl, rfl⟩ hunusable
  exact ⟨w, o, hk, ho, rfl, ⟨rfl, rfl⟩, hunusable, by decide +kernel, hrejected, by decide +kernel⟩

-- A resource without a namespace is not looked at any further.
theorem invalid_unreported :
    ∃ (w : World Cluster) (id : Identity) (o : Onload), w.cluster.Keyed ∧
      w.cluster.onloads.get? id = some o ∧ o.metadata.terminating = false ∧ o.Unusable ∧
      ∀ p, w.passAnswer id .zero Sample.now ≠ .error (.invalidConfig p) := by
  let nameless : Onload := { Sample.blankOnload with metadata.ns := none }
  let w := Sample.blankWorld nameless
  let id : Identity := ⟨"", "onload"⟩
  have ho : w.cluster.onloads.get? id = some (Cluster.admitted nameless 1) := by decide +kernel
  have hanswer : w.passAnswer id .zero Sample.now = .error (.missingField (.ns "onload")) := by decide +kernel
  refine ⟨w, id, _, Sample.keyed_blankWorld _, ho, rfl, .inl (by decide +kernel), fun p => ?_⟩
  rw [hanswer]
  nofun

end KernelRollout
