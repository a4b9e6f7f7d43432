import KernelRollout.Proofs.Cluster.Log
import KernelRollout.Proofs.Rollout.Remit
import KernelRollout.Proofs.Rollout.Settled

namespace KernelRollout

open Pass
open Reconcile (Handled Reported)

variable {α β : Type} {delay : Duration} {now : Timestamp} {t : Target} {id : Identity} {n : Node}
variable {w : World Cluster} {s : Setup Cluster}

def Pass.NeverWaits (p : Pass Cluster StepOutcome) : Prop :=
  ∀ w delay, (exec p w).1 ≠ .ok (.requeueAfter delay)

namespace Pass.NeverWaits

variable {p : Pass Cluster α} {f : α → Pass Cluster StepOutcome}

theorem nothingToDo : NeverWaits (Pure.pure .nothingToDo) := fun _ _ => nofun

theorem requeueNow : NeverWaits (Pure.pure .requeueNow) := fun _ _ => nofun

theorem bind (h : ∀ a, NeverWaits (f a)) : NeverWaits (p >>= f) := by
  intro w delay
  rw [exec_bind]
  split
  case h_1 a w' _ => exact h a w' delay
  case h_2 => exact nofun

theorem ofChanged {p : Pass Cluster Bool} : NeverWaits (StepOutcome.ofChanged <$> p) := by
  rw [map_eq_pure_bind]
  refine bind fun changed => ?_
  cases changed with
  | true => exact requeueNow
  | false => exact nothingToDo

theorem andThen {first second : Step Cluster} (h₁ : NeverWaits (first s t))
    (h₂ : NeverWaits (second s t)) : NeverWaits (first.andThen second s t) := by
  intro w delay
  rw [Step.andThen, exec_bind]
  have h₁ := h₁ w
  generalize exec (first s t) w = o at h₁
  obtain ⟨r, w'⟩ := o
  cases r with
  | error => simp
  | ok outcome =>
    cases outcome with
    | nothingToDo => exact h₂ w' delay
    | requeueNow => exact requeueNow w' delay
    | requeueAfter delay => exact absurd rfl (h₁ delay)

end Pass.NeverWaits

namespace Provision

theorem kernelModule_neverWaits (kind : ModuleKind) : NeverWaits (kernelModule s t kind) := by
  refine .bind fun m => ?_
  split
  case h_1 => exact .bind fun _ => .bind fun _ => .requeueNow
  case h_2 => exact .bind fun _ => .requeueNow
  case h_3 => exact .nothingToDo

theorem daemonSet_neverWaits (name : String) (d : DaemonSet) : NeverWaits (daemonSet s t name d) := by
  refine .bind fun found => ?_
  cases found with
  | some => exact .nothingToDo
  | none => exact .bind fun _ => .requeueNow

end Provision

namespace Renewal

theorem daemonSet_neverWaits (built : DaemonSet) : NeverWaits (daemonSet s t built) := by
  refine .bind fun live => ?_
  cases live with
  | none => exact .nothingToDo
  | some live =>
    dsimp only
    split
    case isTrue => exact .nothingToDo
    case isFalse => exact .bind fun _ => .requeueNow

theorem kernelModule_neverWaits (kind : ModuleKind) : NeverWaits (kernelModule s t kind) := by
  refine .bind fun live => ?_
  cases live with
  | none => exact .nothingToDo
  | some live =>
    dsimp only
    split
    case isTrue => exact .bind fun _ => .requeueNow
    case isFalse =>
      split
      case isTrue => exact .nothingToDo
      case isFalse => exact .bind fun _ => .bind fun _ => .requeueNow

theorem operands_neverWaits : NeverWaits (operands s t) :=
  .andThen (.bind daemonSet_neverWaits) <|
  .andThen (kernelModule_neverWaits .onload) <|
  .andThen (kernelModule_neverWaits .sfc) <|
  .bind daemonSet_neverWaits

end Renewal

namespace Marking

theorem readyMarkers_neverWaits : NeverWaits (readyMarkers s t) := by
  refine .bind fun ns => ?_
  split
  case h_1 => exact .ofChanged
  case h_2 => exact .bind fun _ => .requeueNow

end Marking

-- A pod that a pass waits for: it loads or unloads a module of the resource, belongs to the device
-- plugin, or may still use Onload.
inductive Blocks (id j : Identity) (p : Pod) : Prop
  | loader (kind : ModuleKind) (hns : j.ns = id.ns)
    (h : p.metadata.label? loaderPodLabel = some (kind.resourceName id.name))
  | plugin (hns : j.ns = id.ns)
    (h : p.metadata.label? operandNameLabel = some (Operand.devicePluginName id.name))
  | user (hf : p.finished = false) (hr : p.requestsOnload = true)

-- There is such a pod on a node.
def Cluster.Blocked (c : Cluster) (id : Identity) (node : String) : Prop :=
  ∃ j p, c.pods.get? j = some p ∧ p.nodeName? = some node ∧ Blocks id j p

namespace Cluster

variable {c : Cluster} {node : String}

theorem blocked_of_loaderPods {kind : ModuleKind}
    (h : c.listPods (Marking.loaderPods t kind node) ≠ []) : c.Blocked t.id node := by
  have ⟨p, hp⟩ := List.exists_mem_of_ne_nil _ h
  have ⟨j, hj, hnode, hns, hlabel⟩ := mem_listPods_labelled.mp hp
  exact ⟨j, p, hj, hnode, .loader kind hns hlabel⟩

theorem blocked_of_pluginPods (h : c.listPods (Drain.pluginPods t node) ≠ []) :
    c.Blocked t.id node := by
  have ⟨p, hp⟩ := List.exists_mem_of_ne_nil _ h
  have ⟨j, hj, hnode, hns, hlabel⟩ := mem_listPods_labelled.mp hp
  exact ⟨j, p, hj, hnode, .plugin hns hlabel⟩

theorem blocked_of_users (h : (c.listPods (.onNode node)).filter Drain.isUser ≠ []) :
    c.Blocked id node := by
  have ⟨p, hp⟩ := List.exists_mem_of_ne_nil _ h
  have ⟨hlisted, huser⟩ := List.mem_filter.mp hp
  have ⟨j, hj, _, _, hnode⟩ := mem_listPods.mp hlisted
  simp only [Drain.isUser, Bool.and_eq_true, Bool.not_eq_true'] at huser
  exact ⟨j, p, hj, by simpa [PodQuery.onNode] using hnode, .user huser.left huser.right⟩

end Cluster

-- A selected node has a pod that is waited for.
def HeldUp (t : Target) (c : Cluster) : Prop :=
  ∃ n, c.Stores n ∧ t.selects n = true ∧ c.Blocked t.id n.name

namespace Marking

theorem requestSfc_blocked (hs : w.cluster.Stores n) :
    Ensures (requestSfc (.inMemory delay now) t n) w fun r _ =>
      r = .ok none → w.cluster.Blocked t.id n.name := by
  rw [requestSfc]
  split
  case isFalse => exact .pure (by simp)
  case isTrue =>
    refine (ensures_request hs .sfc).bind (fun _ _ h => ?_) (by simp)
    cases h with
    | waiting hp => exact .pure fun _ => Cluster.blocked_of_loaderPods hp
    | marked => exact .pure (by simp)

theorem requestModules_blocked (hs : w.cluster.Stores n) :
    Ensures (requestModules (.inMemory delay now) t n) w fun r _ =>
      r = .ok none → w.cluster.Blocked t.id n.name := by
  rw [requestModules]
  split
  case isTrue => exact requestSfc_blocked hs
  case isFalse =>
    refine (ensures_request hs .onload).bind (fun _ _ h => ?_) (by simp)
    cases h with
    | waiting hp => exact .pure fun _ => Cluster.blocked_of_loaderPods hp
    | marked =>
      -- The patch in between has changed no pods.
      refine (requestSfc_blocked Cluster.stores_relabelled).bind (fun r w' h => ?_) (by simp)
      refine .pure fun hr => h ?_
      cases r with
      | none => rfl
      | some => cases hr

theorem requestOnNodes_blocked {ns : List Node} (hs : ∀ n ∈ ns, w.cluster.Stores n)
    (hsel : ∀ n ∈ ns, t.selects n = true) (hd : ns.Pairwise (·.name ≠ ·.name)) :
    Ensures (requestOnNodes (.inMemory delay now) t ns) w fun r _ =>
      r = .ok none → ∃ n ∈ ns, w.cluster.Blocked t.id n.name := by
  induction ns generalizing w with
  | nil => exact .pure nofun
  | cons n ns hi =>
    have ⟨hne, hd⟩ := List.pairwise_cons.mp hd
    have hn := hs n (by simp)
    have hrequest : Ensures (requestModules (.inMemory delay now) t n) w fun r w' =>
        Requesting t (·.name = n.name) ((t.marker? .loader n).isSome = true ∧ needsSfc t n = false) w r w' ∧
        (r = .ok none → w.cluster.Blocked t.id n.name) :=
      ⟨ensures_requestModules hn (hsel n (by simp)), requestModules_blocked hn⟩
    refine hrequest.bind (fun changed? w₁ ⟨h, hblocked⟩ => ?_) fun _ _ _ => nofun
    cases changed? with
    | none => exact .pure fun _ => ⟨n, by simp, hblocked rfl⟩
    | some changed =>
      have hs₁ : ∀ x ∈ ns, w₁.cluster.Stores x :=
        fun x hx => h.others x (hs x (by simp [hx])) (hne x hx).symm
      refine (hi hs₁ (fun x hx => hsel x (by simp [hx])) hd).bind (fun rest w' hrest => ?_)
        fun _ _ _ => nofun
      refine .pure fun hr => ?_
      have hnone : rest = none := by
        cases rest with
        | none => rfl
        | some => cases hr
      have ⟨x, hx, j, p, hj, hp⟩ := hrest (congrArg _ hnone)
      exact ⟨x, by simp [hx], j, p, h.relabelling.pods ▸ hj, hp⟩

end Marking

-- The step has written something if it asks for the next pass at once, and it waits for a pod.
structure Accounts (delay : Duration) (t : Target) (c : Cluster) (r : Except OperatorError StepOutcome)
    (c' : Cluster) : Prop where
  wrote : r = .ok .requeueNow → c.writes < c'.writes
  waits : ∀ d, r = .ok (.requeueAfter d) → d = delay ∧ HeldUp t c

namespace Accounts

variable {c c' : Cluster}

theorem error (e : OperatorError) : Accounts delay t c (.error e) c' := ⟨nofun, nofun⟩

theorem nothingToDo : Accounts delay t c (.ok .nothingToDo) c' := ⟨nofun, nofun⟩

theorem requeueNow (h : c.writes < c'.writes) : Accounts delay t c (.ok .requeueNow) c' :=
  ⟨fun _ => h, nofun⟩

theorem requeueAfter (h : HeldUp t c) : Accounts delay t c (.ok (.requeueAfter delay)) c' where
  wrote := nofun
  waits d hd := by
    cases hd
    exact ⟨rfl, h⟩

end Accounts

theorem Marking.loaderMarkers_waits (hk : w.cluster.Keyed) :
    Ensures (loaderMarkers (.inMemory delay now) t) w fun r _ =>
      ∀ d, r = .ok (.requeueAfter d) → d = delay ∧ HeldUp t w.cluster := by
  refine ensures_selectedNodes_bind hk ?_
  have hmem : ∀ n ∈ w.cluster.listNodes t.selector, w.cluster.Stores n ∧ t.selects n = true :=
    fun n => (Cluster.mem_listNodes hk).mp
  have hnames := (Cluster.listNodes_pairwise (q := t.selector) hk).imp String.ne_of_lt
  refine (requestOnNodes_blocked (fun n hn => (hmem n hn).left) (fun n hn => (hmem n hn).right)
    hnames).bind (fun changed? w₁ h => ?_) fun _ _ _ => nofun
  cases changed? with
  | none =>
    refine .pure fun d hd => ?_
    cases hd
    have ⟨n, hn, hblocked⟩ := h rfl
    exact ⟨rfl, n, (hmem n hn).left, (hmem n hn).right, hblocked⟩
  | some changed =>
    cases changed with
    | true => exact .pure nofun
    | false => exact fun d hd => absurd hd (NeverWaits.ofChanged w₁ d)

namespace Drain

theorem removeMarker_accounts {m : Marker} (hs : w.cluster.Stores n) (a : DrainAction) :
    Ensures (removeMarker (.inMemory delay now) t m a n) w fun r w' =>
      Accounts delay t w.cluster r w'.cluster := by
  refine (ensures_patch hs none).bind (fun _ _ h => ?_) fun e _ _ => .error e
  cases h with
  | changed =>
    have hwrote : w.cluster.writes < (w.cluster.relabel n (t.key m) none).writes := by simp
    exact .requeueNow hwrote

theorem node_accounts (hs : w.cluster.Stores n) (hsel : t.selects n = true) :
    Ensures (node (.inMemory delay now) t n) w fun r w' =>
      Accounts delay t w.cluster r w'.cluster := by
  rw [node]
  split
  case isTrue => exact removeMarker_accounts hs _
  case isFalse =>
    refine .read rfl ?_
    split
    case isTrue hp =>
      have hp : w.cluster.listPods (pluginPods t n.name) ≠ [] := by simpa using hp
      exact .pure (.requeueAfter ⟨n, hs, hsel, Cluster.blocked_of_pluginPods hp⟩)
    case isFalse =>
      refine .read rfl ?_
      split
      case h_1 =>
        rw [removeModules]
        split <;> exact removeMarker_accounts hs _
      case h_2 hu =>
        refine (evictAll_eq _).bind (fun _ _ _ => ?_) fun e _ _ => .error e
        exact .pure (.requeueAfter ⟨n, hs, hsel, Cluster.blocked_of_users hu⟩)

theorem staleNodes_accounts (hk : w.cluster.Keyed) :
    Ensures (staleNodes (.inMemory delay now) t) w fun r w' =>
      Accounts delay t w.cluster r w'.cluster := by
  refine ensures_staleNode?_bind hk ?none ?some
  case none => exact fun _ => .pure .nothingToDo
  case some => exact fun n hn => node_accounts hn.stored hn.selected

end Drain

namespace Reconcile

-- Only the loader markers make the preparation wait.
theorem prepare_waits (hk : w.cluster.Keyed) :
    Ensures (prepare (.inMemory delay now) t) w fun r _ =>
      ∀ d, r = .ok (.requeueAfter d) → d = delay ∧ HeldUp t w.cluster := by
  refine (Marking.loaderMarkers_waits hk).bind (fun outcome w₁ h => ?_) fun _ _ _ => nofun
  cases outcome with
  | requeueNow => exact .pure nofun
  | requeueAfter => exact .pure h
  | nothingToDo =>
    have hrest : NeverWaits ((Provision.kernelModules.andThen <|
        Step.andThen Marking.readyMarkers <|
        Step.andThen Provision.daemonSets Renewal.operands) (.inMemory delay now) t) := by
      refine .andThen (.andThen (Provision.kernelModule_neverWaits .onload)
        (Provision.kernelModule_neverWaits .sfc)) ?_
      refine .andThen Marking.readyMarkers_neverWaits (.andThen ?_ Renewal.operands_neverWaits)
      exact .bind fun _ => .bind fun _ =>
        .andThen (Provision.daemonSet_neverWaits _ _) (Provision.daemonSet_neverWaits _ _)
    exact fun d hd => absurd hd (hrest w₁ d)

theorem steps_accounts (hk : w.cluster.Keyed) :
    Ensures (steps (.inMemory delay now) t) w fun r w' =>
      Accounts delay t w.cluster r w'.cluster := by
  have hprepare : Step.Settles prepare (.inMemory delay now) t w True fun r w' =>
      Accounts delay t w.cluster r w'.cluster := by
    have hsettles : Step.Settles prepare (.inMemory delay now) t w _ _ := prepare_settles hk
    refine Or.imp ?_ ?_ hsettles
    · exact fun ⟨hr, hw, _⟩ => ⟨hr, hw, trivial⟩
    · exact fun ⟨hr, h⟩ => ⟨hr, h.progress.wrote, prepare_waits hk⟩
  rw [steps_eq]
  refine Ensures.bind hprepare ?ok ?error
  case ok =>
    rintro outcome w₁ (⟨hr, hw, _⟩ | ⟨hr, h⟩)
    case inl =>
      cases hr
      subst hw
      exact Drain.staleNodes_accounts hk
    case inr =>
      cases outcome with
      | nothingToDo => exact absurd rfl hr
      | requeueNow | requeueAfter => exact .pure h
  case error => exact fun e _ _ => .error e

theorem valid_accounts (hk : w.cluster.Keyed) :
    Ensures (valid (.inMemory delay now) t) w fun r w' =>
      Accounts delay t w.cluster r w'.cluster := by
  refine (steps_accounts hk).bind (fun outcome w₁ h => ?_) fun _ _ h => h
  cases outcome with
  | nothingToDo => exact (ensures_report ..).bind fun _ _ _ => .pure .nothingToDo
  | requeueNow | requeueAfter => exact .pure h

-- A report writes the status of the resource or nothing.
theorem Reported.actions {ready : Bool} {reason message : String} {c c' : Cluster}
    (ht : c.onloads.get? t.id = some t.onload) (h : Reported t ready reason message c c') :
    c'.actions = c.actions ∨ c'.actions = c.actions ++ [.patchOnloadStatus t.id] := by
  cases h with
  | already => exact .inl rfl
  | written =>
    refine .inr ?_
    rw [Cluster.patchOnloadStatus]
    split
    case h_1 hnone => cases hnone.symm.trans ht
    case h_2 => rfl

end Reconcile

-- A pass that does not fail for a resource that stays: what it asks for is due to what it has written
-- or to what it has found.
theorem passAnswer_accounts {o : Onload} (hk : w.cluster.Keyed)
    (ho : w.cluster.onloads.get? id = some o) (hkept : o.metadata.terminating = false) :
    (w.passAnswer id delay now = .ok .requeueNow →
      ∃ a as, (w.afterPass id delay now).cluster.actions = w.cluster.actions ++ a :: as) ∧
    (∀ d, w.passAnswer id delay now = .ok (.requeueAfter d) →
      d = delay ∧ ∃ name, w.cluster.Matches o.spec.selector name ∧ w.cluster.Blocked id name) ∧
    (w.passAnswer id delay now = .ok .nothingToDo →
      (w.afterPass id delay now).cluster.actions = w.cluster.actions ∨
      (w.afterPass id delay now).cluster.actions = w.cluster.actions ++ [.patchOnloadStatus id]) := by
  have haccounts {t : Target} (ht : Reconcile.Handles w.cluster id t) :
      Accounts delay t w.cluster (w.passAnswer id delay now) (w.afterPass id delay now).cluster :=
    Reconcile.ensures_pass _ ht (Reconcile.valid_accounts hk)
  refine ⟨fun h => ?_, fun d h => ?_, fun h => ?_⟩
  case refine_1 =>
    have ⟨t, ht, _⟩ := Reconcile.handles_of_ok ho hkept h
    have hcalls : w.cluster.Calls (.of id) (w.afterPass id delay now).cluster := Reconcile.calls_pass hk
    exact hcalls.exists_actions_eq ((haccounts ht).wrote h)
  case refine_2 =>
    have ⟨t, ht, hto⟩ := Reconcile.handles_of_ok ho hkept h
    have ⟨hd, n, hs, hsel, hblocked⟩ := (haccounts ht).waits d h
    have hid := ht.id_eq hk
    subst hid hto
    exact ⟨hd, n.name, ⟨n, hs, hsel⟩, hblocked⟩
  case refine_3 =>
    have ⟨t, ht, _⟩ := Reconcile.handles_of_ok ho hkept h
    have ⟨_, hr⟩ := Reconcile.finished_of_nothingToDo hk ht h
    have hid := ht.id_eq hk
    subst hid
    exact hr.actions ht.stored

-- A closed worker with an outdated module waits for a pod that may still use Onload.
theorem passAnswer_accounts_occupied :
    ∃ (w : World Cluster) (o : Onload), w.cluster.Keyed ∧
      w.cluster.onloads.get? Sample.resource = some o ∧ o.metadata.terminating = false ∧
      w.passAnswer Sample.resource .zero Sample.now = .ok (.requeueAfter .zero) ∧
      ∃ name, w.cluster.Matches o.spec.selector name ∧ w.cluster.Blocked Sample.resource name := by
  let user := (Pod.onNode ⟨"other", "user"⟩ "a" .empty).requesting onloadResource "1"
  let start := Sample.world "2" "2" [Sample.worker "a" [(.loader, "1")]]
  let w := { start with cluster := start.cluster.putPod user }
  let o := Cluster.admitted (Sample.onload "2") 1
  have hk : w.cluster.Keyed := (Sample.keyed_world ..).edit (.putPod user)
  have ho : w.cluster.onloads.get? Sample.resource = some o := by decide +kernel
  have hkept : o.metadata.terminating = false := rfl
  have hanswer : w.passAnswer Sample.resource .zero Sample.now = .ok (.requeueAfter .zero) := by
    decide +kernel
  have ⟨_, hblocked⟩ := (passAnswer_accounts hk ho hkept).right.left .zero hanswer
  exact ⟨w, o, hk, ho, hkept, hanswer, hblocked⟩

end KernelRollout
