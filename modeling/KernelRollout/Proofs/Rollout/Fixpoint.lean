import KernelRollout.Proofs.Rollout.Lockstep
import KernelRollout.Proofs.Rollout.Settled

namespace KernelRollout

open Pass
open Cluster (Starts Within)
open Sweep (Bare)
open Reconcile (Handles Reported readyCondition reports rolledOut)

variable {id : Identity} {c c' : Cluster} {t : Target} {o : Onload} {n : Node} {m : Marker}
variable {delay : Duration} {now : Timestamp} {w w₁ : World Cluster}

namespace Sweep

theorem allMarkers_bare (hk : w.cluster.Keyed) :
    Succeeds (allMarkers (.inMemory delay now) id) w fun _ w' => Bare id w'.cluster :=
  (ensures_allMarkers hk).mono fun _ _ h => h.right

-- A sweep finds nothing to take from nodes without the marker.
theorem label_idle {keep : Node → Bool} (hk : w.cluster.Keyed) (hb : Bare id w.cluster) :
    Succeeds (label (.inMemory delay now) (m.key id) keep) w fun _ w' => w'.cluster = w.cluster := by
  refine (ensures_label (fun _ _ _ => False) hk fun n hn _ hl hf => ?_).mono fun _ w' ⟨hrel, _⟩ => ?_
  · rw [hb n hn hf m] at hl
    cases hl
  · exact hrel.preserves (P := (· = w.cluster)) rfl fun _ _ _ _ _ _ hrule => hrule.elim

theorem allMarkers_idle (hk : w.cluster.Keyed) (hb : Bare id w.cluster) :
    Succeeds (allMarkers (.inMemory delay now) id) w fun _ w' => w'.cluster = w.cluster := by
  refine (label_idle hk hb).bind fun _ w₁ h₁ => ?_
  rw [← h₁] at hk hb
  refine (label_idle hk hb).bind fun _ w₂ h₂ => ?_
  rw [← h₂] at hk hb
  refine (label_idle hk hb).bind fun _ w₃ h₃ => ?_
  exact .pure ⟨(), rfl, h₃.trans (h₂.trans h₁)⟩

end Sweep

section Reported

variable {s : Setup Cluster} {status : OnloadStatus} {version : Nat}

theorem Step.andThen_congr {first second : Step Cluster} {t' : Target} (h₁ : first s t' = first s t)
    (h₂ : second s t' = second s t) : first.andThen second s t' = first.andThen second s t := by
  rw [Step.andThen, Step.andThen, h₁, h₂]

theorem Marking.requestOnNodes_reported (ns : List Node) :
    requestOnNodes s (t.reported status version) ns = requestOnNodes s t ns := by
  induction ns with
  | nil => rfl
  | cons n ns hi =>
    rw [requestOnNodes, requestOnNodes, hi]
    rfl

theorem Marking.markReady_reported (ns : List Node) :
    markReady s (t.reported status version) ns = markReady s t ns := by
  induction ns with
  | nil => rfl
  | cons n ns hi =>
    rw [markReady, markReady, hi]
    rfl

-- The steps look at what the resource declares and at its identifier only.
theorem Reconcile.steps_reported : steps s (t.reported status version) = steps s t := by
  have hloader : Marking.loaderMarkers s (t.reported status version) = Marking.loaderMarkers s t := by
    simp only [Marking.loaderMarkers, Marking.requestOnNodes_reported]
    rfl
  have hready : Marking.readyMarkers s (t.reported status version) = Marking.readyMarkers s t := by
    simp only [Marking.readyMarkers, Marking.markReady_reported]
    rfl
  refine Step.andThen_congr hloader (Step.andThen_congr ?_ (Step.andThen_congr hready ?_))
  all_goals rfl

end Reported

namespace Reconcile

-- The status of a resource, and nothing else.
def statusOf (id : Identity) : Territory where
  labels _     := False
  onloads j    := j = id
  modules _    := False
  daemonSets _ := False

theorem outside_statusOf : t.Outside (statusOf id) :=
  ⟨fun _ h => h, fun _ _ _ h => h, fun _ h => h, fun _ _ h => h⟩

-- A resource that stays and has nothing left to do has run all steps, and they have changed nothing.
theorem valid_settled (hk : w.cluster.Keyed) :
    Ensures (valid (.inMemory delay now) t) w fun r w' => r = .ok .nothingToDo →
      exec (steps (.inMemory delay now) t) w = (.ok .nothingToDo, w) ∧
      Reported t true "Reconciled" rolledOut w.cluster w'.cluster := by
  refine Ensures.bind (Step.Settles.settled (steps_settles hk)) ?ok fun _ _ _ => nofun
  rintro outcome w₁ (⟨hr, hw, hsteps, _⟩ | ⟨hr, _⟩)
  case inl =>
    cases hr
    subst hw
    exact (ensures_report ..).bind fun _ _ h => .pure fun _ => ⟨hsteps, h⟩
  case inr =>
    cases outcome with
    | nothingToDo => exact absurd rfl hr
    | requeueNow | requeueAfter => exact .pure nofun

-- A report leaves the resource with the condition, which the next pass finds there.
theorem handles_reported (hk : c.Keyed) (ht : Handles c id t)
    (h : Reported t true "Reconciled" rolledOut c c') :
    Within (statusOf id) c c' ∧ ∃ t', Handles c' id t' ∧
      (∀ s : Setup Cluster, steps s t' = steps s t) ∧
      (t'.onload.condition? readyCondition).any (reports true "Reconciled" rolledOut) = true := by
  have hid := ht.id_eq hk
  subst hid
  cases h with
  | already h => exact ⟨.refl, t, ht, fun _ => rfl, h⟩
  | written now =>
    refine ⟨.patchOnloadStatus _ rfl, _, ht.reported _, fun s => steps_reported, ?_⟩
    have hcondition : (t.reported (withReady t.onload true "Reconciled" rolledOut now)
        (c.version + 1)).onload.condition? readyCondition = _ := condition?_withReady
    rw [hcondition, Option.any_some]
    simp [reports]

-- Steps that have changed nothing before a report change nothing after it.
theorem steps_again (h : Starts (statusOf id) w.cluster w₁.cluster)
    (hsteps : exec (steps (.inMemory delay now) t) w = (.ok .nothingToDo, w)) (now₁ : Timestamp) :
    exec (steps (.inMemory delay now₁) t) w₁ = (.ok .nothingToDo, w₁) := by
  have hboth : Lockstep _ (steps (.inMemory delay now) t) (steps (.inMemory delay now₁) t) w w₁ Same :=
    lockstep_steps h outside_statusOf
  have hanswer := hboth.same.left
  rw [hsteps] at hanswer
  have hsettles : Step.Settles steps (.inMemory delay now₁) t w₁ _ _ := steps_settles h.keyed₁
  obtain ⟨hr, hw, _⟩ | ⟨hr, _⟩ := hsettles
  · exact Prod.ext hr hw
  · exact absurd hanswer hr

theorem valid_idle (hsteps : exec (steps (.inMemory delay now) t) w = (.ok .nothingToDo, w))
    (hreports : (t.onload.condition? readyCondition).any (reports true "Reconciled" rolledOut) = true) :
    Ensures (valid (.inMemory delay now) t) w fun r w' => r = .ok .nothingToDo ∧ w'.cluster = w.cluster := by
  refine .read hsteps ?_
  show Ensures (report (.inMemory delay now) t true "Reconciled" rolledOut >>= fun _ => pure _) w _
  rw [report, if_pos hreports]
  exact ⟨rfl, rfl⟩

end Reconcile

-- Passes for a resource that is gone, or on its way, at any time.
theorem ensures_pass_gone (post : Cluster → Prop) (ho : w.cluster.onloads.get? id = none)
    (h : Succeeds (Sweep.allMarkers (.inMemory delay now) id) w fun _ w' => post w'.cluster) :
    w.passAnswer id delay now = .ok .nothingToDo ∧ post (w.afterPass id delay now).cluster := by
  have huncounted : Ensures (Reconcile.uncounted (.inMemory delay now) id) w fun r w' =>
      r = .ok .nothingToDo ∧ post w'.cluster := by
    have hread : exec (call (.inMemory delay now) (.getOnload id)) w = (.ok none, w) :=
      congrArg (fun o => (Except.ok o, w)) ho
    exact .read hread (h.bind fun _ _ h => ⟨rfl, h⟩)
  exact huncounted

theorem passAnswer_terminating (ho : w.cluster.onloads.get? id = some o)
    (hterminating : o.metadata.terminating = true) (delay : Duration) (now : Timestamp) :
    w.passAnswer id delay now = .ok .nothingToDo ∧
      (w.afterPass id delay now).cluster = w.cluster := by
  refine Reconcile.ensures_pass_present (fun r c' => r = .ok .nothingToDo ∧ c' = w.cluster) ho ?_
  rw [Reconcile.present, if_pos hterminating]
  exact .pure ⟨rfl, rfl⟩

-- Once a pass has nothing to do, the next one finds everything as it should be.
theorem nothingToDo_again (hk : w.cluster.Keyed) (h : w.passAnswer id delay now = .ok .nothingToDo)
    (now₁ : Timestamp) :
    (w.afterPass id delay now).passAnswer id delay now₁ = .ok .nothingToDo ∧
    ((w.afterPass id delay now).afterPass id delay now₁).cluster =
      (w.afterPass id delay now).cluster := by
  have hk' : (w.afterPass id delay now).cluster.Keyed := keyed_afterPass delay now hk
  cases ho : w.cluster.onloads.get? id with
  | none =>
    have ⟨_, hbare⟩ : _ ∧ Bare id (w.afterPass id delay now).cluster :=
      ensures_pass_gone (Bare id) ho (Sweep.allMarkers_bare hk)
    have ho' : (w.afterPass id delay now).cluster.onloads.get? id = none := by
      have hspec := (effect_afterPass id delay now hk).spec?_eq id
      simpa [Cluster.spec?, ho] using hspec
    exact ensures_pass_gone (· = _) ho' (Sweep.allMarkers_idle hk' hbare)
  | some o =>
    cases hterminating : o.metadata.terminating with
    | true =>
      obtain ⟨_, hsame⟩ := passAnswer_terminating ho hterminating delay now
      exact passAnswer_terminating (hsame ▸ ho) hterminating delay now₁
    | false =>
      obtain ⟨t, ht, rfl⟩ := Reconcile.handles_of_nothingToDo ho hterminating h
      have hvalid : Ensures (Reconcile.pass (.inMemory delay now) id) w _ :=
        Reconcile.ensures_pass (fun r c' => r = .ok .nothingToDo →
          exec (Reconcile.steps (.inMemory delay now) t) w = (.ok .nothingToDo, w) ∧
          Reported t true "Reconciled" rolledOut w.cluster c') ht (Reconcile.valid_settled hk)
      obtain ⟨hsteps, hreported⟩ := hvalid h
      obtain ⟨hwithin, t', ht', hsame, hreports⟩ := Reconcile.handles_reported hk ht hreported
      have hsteps' := Reconcile.steps_again ⟨hwithin, hk, hk'⟩ hsteps now₁
      rw [← hsame] at hsteps'
      exact Reconcile.ensures_pass (fun r c' => r = .ok .nothingToDo ∧ c' = _) ht'
        (Reconcile.valid_idle hsteps' hreports)

-- The first of two passes writes the condition of the resource. The second leaves it alone, and the
-- ready marker of the node that refuses patches too.
theorem nothingToDo_again_refusing :
    ∃ w : World Cluster, w.cluster.Keyed ∧
      w.passAnswer Sample.resource .zero Sample.now = .ok .nothingToDo ∧
      (w.afterPass Sample.resource .zero Sample.now).cluster.writes = w.cluster.writes + 1 ∧
      (w.afterPass Sample.resource .zero Sample.now).passAnswer Sample.resource .zero Sample.now =
        .ok .nothingToDo ∧
      ((w.afterPass Sample.resource .zero Sample.now).afterPass Sample.resource .zero
        Sample.now).cluster = (w.afterPass Sample.resource .zero Sample.now).cluster := by
  let left : Node := .labelled "b" (Dict.empty.insert (Marker.ready.key Sample.resource) "1")
  let start := Sample.world "2" "2" [Sample.openWorker "a" "2", left]
  let w := { start with cluster := start.cluster.failNodePatches "b" }
  have hk : w.cluster.Keyed := (Sample.keyed_world ..).edit (.failNodePatches "b")
  have hanswer : w.passAnswer Sample.resource .zero Sample.now = .ok .nothingToDo := by decide +kernel
  exact ⟨w, hk, hanswer, by decide +kernel, nothingToDo_again hk hanswer Sample.now⟩

end KernelRollout
