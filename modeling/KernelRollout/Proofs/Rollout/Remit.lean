import KernelRollout.Proofs.Cluster.Territory
import KernelRollout.Proofs.Rollout.Run

namespace KernelRollout

open Pass

variable {α β : Type} {T : Territory} {delay : Duration} {now : Timestamp} {t : Target} {id : Identity}
variable {key : String} {w : World Cluster}

-- A part of a pass all of whose calls keep to a territory, wherever it ends.
def Pass.KeepsTo (T : Territory) (p : Pass Cluster α) : Prop :=
  ∀ w : World Cluster, w.cluster.Keyed → Ensures p w fun _ w' => w.cluster.Calls T w'.cluster

namespace Pass.KeepsTo

variable {p : Pass Cluster α} {f : α → Pass Cluster β}

theorem pure (a : α) : KeepsTo T (Pure.pure a) := fun _ _ => .pure (.refl _)

theorem throw (e : OperatorError) : KeepsTo T (MonadExcept.throw e : Pass Cluster α) :=
  fun _ _ => .throw (.refl _)

theorem bind (h : KeepsTo T p) (hf : ∀ a, KeepsTo T (f a)) : KeepsTo T (p >>= f) := by
  intro w hk
  refine (h w hk).bind (fun a w' hc => ?_) fun _ _ hc => hc
  exact (hf a w' (hc.keyed hk)).mono fun _ _ hc' => hc.trans hc'

theorem ofExcept_bind {r : Except OperatorError α} (hf : ∀ a, r = .ok a → KeepsTo T (f a)) :
    KeepsTo T (Pass.ofExcept r >>= f) :=
  fun w hk => .ofExcept_bind (fun a ha => hf a ha w hk) fun _ _ => .refl _

theorem map (h : KeepsTo T p) (g : α → β) : KeepsTo T (g <$> p) := by
  rw [map_eq_pure_bind]
  exact h.bind fun a => .pure (g a)

theorem call {c : Call α} (h : T.Admits c) : KeepsTo T (Pass.call (.inMemory delay now) c) :=
  fun _ _ => .call rfl (fun _ _ => .single c h) fun _ _ => .single c h

theorem attempt_bind {c : Call α} {g : Except ClusterError α → Pass Cluster β} (h : T.Admits c)
    (hg : ∀ r, KeepsTo T (g r)) : KeepsTo T (Pass.attempt (.inMemory delay now) c >>= g) := by
  intro w hk
  have hc : w.cluster.Calls T (w.cluster.answer c).2 := .single c h
  exact .attempt_bind rfl ((hg _ _ (hc.keyed hk)).mono fun _ _ hc' => hc.trans hc')

theorem of_rollout {p : Pass Cluster α} (h : KeepsTo (.rollout id) p) : KeepsTo (.of id) p :=
  fun w hk => (h w hk).mono fun _ _ hc => hc.mono fun _ => .of_rollout

-- What is found in a place is stored there under its own name.
theorem getModule_bind {j : Identity} {f : Option KernelModule → Pass Cluster β} (hnone : KeepsTo T (f none))
    (hsome : ∀ m, Cluster.idOf m = j → KeepsTo T (f (some m))) :
    KeepsTo T (Pass.call (.inMemory delay now) (.getModule j) >>= f) := by
  intro w hk
  refine .read (a := w.cluster.modules.get? j) rfl ?_
  cases hm : w.cluster.modules.get? j with
  | none => exact hnone w hk
  | some m => exact hsome m (hk.modules j m hm) w hk

theorem getDaemonSet_bind {j : Identity} {f : Option DaemonSet → Pass Cluster β} (hnone : KeepsTo T (f none))
    (hsome : ∀ d, Cluster.idOf d = j → KeepsTo T (f (some d))) :
    KeepsTo T (Pass.call (.inMemory delay now) (.getDaemonSet j) >>= f) := by
  intro w hk
  refine .read (a := w.cluster.daemonSets.get? j) rfl ?_
  cases hd : w.cluster.daemonSets.get? j with
  | none => exact hnone w hk
  | some d => exact hsome d (hk.daemonSets j d hd) w hk

theorem andThen {first second : Step Cluster} {s : Setup Cluster} (h₁ : KeepsTo T (first s t))
    (h₂ : KeepsTo T (second s t)) : KeepsTo T (first.andThen second s t) := by
  refine h₁.bind fun outcome => ?_
  cases outcome with
  | nothingToDo => exact h₂
  | requeueNow | requeueAfter => exact .pure _

end Pass.KeepsTo

namespace Sweep

theorem keepsTo_nodes (h : T.labels key) (ns : List Node) :
    KeepsTo T (nodes (.inMemory delay now) key ns) := by
  induction ns with
  | nil => exact .pure _
  | cons n ns hi => exact .attempt_bind ⟨key, none, h, rfl⟩ fun _ => hi.bind fun _ => .pure _

theorem keepsTo_label (h : T.labels key) (keep : Node → Bool) :
    KeepsTo T (label (.inMemory delay now) key keep) :=
  .bind (.call trivial) fun _ => keepsTo_nodes h _

theorem keepsTo_allMarkers : KeepsTo (.rollout id) (allMarkers (.inMemory delay now) id) :=
  .bind (keepsTo_label (Territory.marker_mem .ready) _) fun _ =>
  .bind (keepsTo_label (Territory.marker_mem .sfc) _) fun _ =>
  .bind (keepsTo_label (Territory.marker_mem .loader) _) fun _ => .pure _

end Sweep

namespace Marking

theorem keepsTo_setLabel (h : T.labels key) (n : Node) (value : String) :
    KeepsTo T (setLabel (.inMemory delay now) n key value) :=
  .call ⟨key, some value, h, rfl⟩

theorem keepsTo_request (kind : ModuleKind) (n : Node) :
    KeepsTo (.rollout t.id) (request (.inMemory delay now) t kind n) := by
  refine .bind (.bind (.call trivial) fun _ => .pure _) fun lingers => ?_
  cases lingers with
  | true => exact .pure _
  | false => exact .map (keepsTo_setLabel (Territory.marker_mem kind.marker) _ _) _

theorem keepsTo_requestSfc (n : Node) :
    KeepsTo (.rollout t.id) (requestSfc (.inMemory delay now) t n) := by
  rw [requestSfc]
  split
  case isTrue => exact .bind (keepsTo_request _ _) fun _ => .pure _
  case isFalse => exact .pure _

theorem keepsTo_requestModules (n : Node) :
    KeepsTo (.rollout t.id) (requestModules (.inMemory delay now) t n) := by
  rw [requestModules]
  split
  case isTrue => exact keepsTo_requestSfc n
  case isFalse =>
    refine .bind (keepsTo_request _ _) fun marked => ?_
    cases marked with
    | none => exact .pure _
    | some n => exact .bind (keepsTo_requestSfc n) fun _ => .pure _

theorem keepsTo_requestOnNodes (ns : List Node) :
    KeepsTo (.rollout t.id) (requestOnNodes (.inMemory delay now) t ns) := by
  induction ns with
  | nil => exact .pure _
  | cons n ns hi =>
    refine .bind (keepsTo_requestModules n) fun changed => ?_
    cases changed with
    | none => exact .pure _
    | some _ => exact hi.bind fun _ => .pure _

theorem keepsTo_selectedNodes : KeepsTo T (selectedNodes (.inMemory delay now) t) :=
  .map (.call (c := .listNodes t.selector) trivial) _

theorem keepsTo_dropStale : KeepsTo (.rollout t.id) (dropStale (.inMemory delay now) t) :=
  .bind (Sweep.keepsTo_label (Territory.marker_mem .ready) _) fun _ =>
  .bind (Sweep.keepsTo_label (Territory.marker_mem .sfc) _) fun _ =>
  .bind (Sweep.keepsTo_label (Territory.marker_mem .loader) _) fun _ => .pure _

theorem keepsTo_loaderMarkers : KeepsTo (.rollout t.id) (loaderMarkers (.inMemory delay now) t) := by
  refine .bind keepsTo_selectedNodes fun ns => .bind (keepsTo_requestOnNodes ns) fun changed => ?_
  cases changed with
  | none => exact .pure _
  | some changed =>
    cases changed with
    | true => exact .pure _
    | false => exact .map keepsTo_dropStale _

theorem keepsTo_markReady (ns : List Node) :
    KeepsTo (.rollout t.id) (markReady (.inMemory delay now) t ns) := by
  induction ns with
  | nil => exact .pure _
  | cons n ns hi => exact .bind (keepsTo_setLabel (Territory.marker_mem .ready) _ _) fun _ => hi

theorem keepsTo_readyMarkers : KeepsTo (.rollout t.id) (readyMarkers (.inMemory delay now) t) := by
  refine .bind keepsTo_selectedNodes fun ns => ?_
  split
  case h_1 => exact .map (Sweep.keepsTo_label (Territory.marker_mem .ready) _) _
  case h_2 => exact .bind (keepsTo_markReady _) fun _ => .pure _

end Marking

namespace Operand

theorem cplane_mem : (Territory.rollout t.id).daemonSets ⟨t.id.ns, cplaneName t.id.name⟩ :=
  ⟨_, by simp, rfl⟩

theorem devicePlugin_mem : (Territory.rollout t.id).daemonSets ⟨t.id.ns, devicePluginName t.id.name⟩ :=
  ⟨_, by simp, rfl⟩

theorem module_mem (kind : ModuleKind) : (Territory.rollout t.id).modules (t.moduleId kind) := ⟨kind, rfl⟩

end Operand

namespace Provision

theorem keepsTo_kernelModule (kind : ModuleKind) :
    KeepsTo (.rollout t.id) (kernelModule (.inMemory delay now) t kind) := by
  refine .bind (.call trivial) fun m => ?_
  split
  case h_1 =>
    refine .ofExcept_bind fun m hm => ?_
    have hadmits : (Territory.rollout t.id).modules (Cluster.idOf m) :=
      (Operand.of_kernelModule hm).left ▸ Operand.module_mem kind
    exact .bind (.call hadmits) fun _ => .pure _
  case h_2 => exact .bind (.call (Operand.module_mem kind)) fun _ => .pure _
  case h_3 => exact .pure _

theorem keepsTo_daemonSet {name : String} {d : DaemonSet} (h : T.daemonSets (Cluster.idOf d)) :
    KeepsTo T (daemonSet (.inMemory delay now) t name d) := by
  refine .bind (.call trivial) fun found => ?_
  cases found with
  | some => exact .pure _
  | none => exact .bind (.call h) fun _ => .pure _

theorem keepsTo_daemonSets : KeepsTo (.rollout t.id) (daemonSets (.inMemory delay now) t) := by
  refine .ofExcept_bind fun cplane hcplane => .ofExcept_bind fun plugin hplugin => ?_
  have hcplane : (Territory.rollout t.id).daemonSets (Cluster.idOf cplane) :=
    (Operand.of_daemonSet hcplane).left ▸ Operand.cplane_mem
  have hplugin : (Territory.rollout t.id).daemonSets (Cluster.idOf plugin) :=
    (Operand.of_daemonSet hplugin).left ▸ Operand.devicePlugin_mem
  exact .andThen (keepsTo_daemonSet hcplane) (keepsTo_daemonSet hplugin)

end Provision

namespace Renewal

-- What is renewed keeps its name.
theorem keepsTo_daemonSet {built : DaemonSet} (h : T.daemonSets ⟨t.id.ns, built.metadata.name.getD ""⟩) :
    KeepsTo T (daemonSet (.inMemory delay now) t built) := by
  refine .getDaemonSet_bind (.pure _) fun live hlive => ?_
  have hadmits : T.daemonSets (Cluster.idOf (renewedDaemonSet live built)) := hlive ▸ h
  dsimp only
  split
  case isTrue => exact .pure _
  case isFalse => exact .bind (.call hadmits) fun _ => .pure _

theorem keepsTo_kernelModule (kind : ModuleKind) :
    KeepsTo (.rollout t.id) (kernelModule (.inMemory delay now) t kind) := by
  refine .getModule_bind (.pure _) fun live hlive => ?_
  dsimp only
  split
  case isTrue => exact .bind (.call (Operand.module_mem kind)) fun _ => .pure _
  case isFalse =>
    split
    case isTrue => exact .pure _
    case isFalse =>
      refine .ofExcept_bind fun built _ => ?_
      have hadmits : (Territory.rollout t.id).modules (Cluster.idOf (renewedModule live built)) :=
        hlive ▸ Operand.module_mem kind
      exact .bind (.call hadmits) fun _ => .pure _

-- A daemon set is renewed under the name that it was built with.
theorem keepsTo_built {name : String} {r : Except OperatorError DaemonSet}
    (hr : ∀ d, r = .ok d → Cluster.idOf d = ⟨t.id.ns, name⟩) (h : T.daemonSets ⟨t.id.ns, name⟩) :
    KeepsTo T (Pass.ofExcept r >>= daemonSet (.inMemory delay now) t) := by
  refine .ofExcept_bind fun built hbuilt => ?_
  have hname : built.metadata.name.getD "" = name := congrArg (·.name) (hr built hbuilt)
  exact keepsTo_daemonSet (hname ▸ h)

theorem keepsTo_operands : KeepsTo (.rollout t.id) (operands (.inMemory delay now) t) :=
  .andThen (keepsTo_built (fun _ h => (Operand.of_daemonSet h).left) Operand.devicePlugin_mem) <|
  .andThen (keepsTo_kernelModule .onload) <|
  .andThen (keepsTo_kernelModule .sfc) <|
  keepsTo_built (fun _ h => (Operand.of_daemonSet h).left) Operand.cplane_mem

end Renewal

namespace Drain

theorem keepsTo_evict (p : Pod) : KeepsTo T (evict (.inMemory delay now) p) := by
  refine .attempt_bind trivial fun r => ?_
  split
  case h_1 => exact fun w _ => Cluster.Calls.refl w.cluster
  case h_2 => exact .pure _
  case h_3 => exact .throw _

theorem keepsTo_evictAll (ps : List Pod) : KeepsTo T (evictAll (.inMemory delay now) ps) := by
  induction ps with
  | nil => exact .pure _
  | cons p ps hi => exact .bind (keepsTo_evict p) fun _ => hi

theorem keepsTo_removeMarker (m : Marker) (a : DrainAction) (n : Node) :
    KeepsTo (.rollout t.id) (removeMarker (.inMemory delay now) t m a n) := by
  refine .bind (.call ⟨t.key m, none, Territory.marker_mem m, rfl⟩) fun _ => .bind ?_ fun _ => .pure _
  exact fun w _ => Cluster.Calls.refl w.cluster

theorem keepsTo_node (n : Node) : KeepsTo (.rollout t.id) (node (.inMemory delay now) t n) := by
  rw [node]
  split
  case isTrue => exact keepsTo_removeMarker _ _ _
  case isFalse =>
    refine .bind (.call trivial) fun plugins => ?_
    split
    case isTrue => exact .pure _
    case isFalse =>
      refine .bind (.call trivial) fun pods => ?_
      split
      case h_1 =>
        rw [removeModules]
        split <;> exact keepsTo_removeMarker _ _ _
      case h_2 => exact .bind (keepsTo_evictAll _) fun _ => .pure _

theorem keepsTo_staleNodes : KeepsTo (.rollout t.id) (staleNodes (.inMemory delay now) t) := by
  refine .bind (.bind (.call trivial) fun _ => .pure _) fun stale => ?_
  cases stale with
  | none => exact .pure _
  | some n => exact keepsTo_node n

end Drain

namespace Reconcile

theorem keepsTo_steps : KeepsTo (.rollout t.id) (steps (.inMemory delay now) t) :=
  .andThen Marking.keepsTo_loaderMarkers <|
  .andThen (.andThen (Provision.keepsTo_kernelModule .onload) (Provision.keepsTo_kernelModule .sfc)) <|
  .andThen Marking.keepsTo_readyMarkers <|
  .andThen Provision.keepsTo_daemonSets <|
  .andThen Renewal.keepsTo_operands Drain.keepsTo_staleNodes

theorem keepsTo_report (ready : Bool) (reason message : String) :
    KeepsTo (.of t.id) (report (.inMemory delay now) t ready reason message) := by
  rw [report]
  split
  case isTrue => exact .pure _
  case isFalse => exact .attempt_bind rfl fun _ => .pure _

theorem keepsTo_valid : KeepsTo (.of t.id) (valid (.inMemory delay now) t) := by
  refine .bind keepsTo_steps.of_rollout fun outcome => ?_
  cases outcome with
  | nothingToDo => exact .bind (keepsTo_report _ _ _) fun _ => .pure _
  | requeueNow | requeueAfter => exact .pure _

theorem keepsTo_present (o : Onload) :
    KeepsTo (.of (Cluster.idOf o)) (present (.inMemory delay now) o) := by
  rw [present]
  split
  case isTrue => exact .pure _
  case isFalse =>
    refine .ofExcept_bind fun t ht => ?_
    obtain ⟨_, hid⟩ := Target.of_eq ht
    rw [← hid]
    split
    case h_1 => exact keepsTo_valid
    case h_2 => exact .bind (keepsTo_report _ _ _) fun _ => .throw _

theorem calls_pass (hk : w.cluster.Keyed) :
    Ensures (pass (.inMemory delay now) id) w fun _ w' => w.cluster.Calls (.of id) w'.cluster := by
  have h : Ensures (uncounted (.inMemory delay now) id) w fun _ w' =>
      w.cluster.Calls (.of id) w'.cluster := by
    refine .read rfl ?_
    cases ho : w.cluster.onloads.get? id with
    | none =>
      refine KeepsTo.bind Sweep.keepsTo_allMarkers.of_rollout (fun _ => .bind ?_ fun _ => .pure _) w hk
      exact fun w _ => Cluster.Calls.refl w.cluster
    | some o => exact hk.onloads id o ho ▸ keepsTo_present o w hk
  exact h

end Reconcile

-- A pass changes nothing that does not belong to its resource, so that other resources do not
-- notice it.
theorem within_afterPass (hk : w.cluster.Keyed) (id : Identity) (delay : Duration) (now : Timestamp) :
    w.cluster.Within (.of id) (w.afterPass id delay now).cluster ∧
    ∀ j, j ≠ id → '.' ∉ j.ns.toList → '.' ∉ id.ns.toList →
      Cluster.Untouched j w.cluster (w.afterPass id delay now).cluster := by
  have hcalls : w.cluster.Calls (.of id) (w.afterPass id delay now).cluster := Reconcile.calls_pass hk
  refine ⟨hcalls.within, fun j hj hns hns' => ?_⟩
  exact hcalls.within.untouched (Territory.apart_of_ne hns hns' hj)

-- A worker gets its loader marker. It has one of another resource too, the key of which differs from
-- the key of an SFC marker only in a character.
theorem within_afterPass_alike :
    ∃ (w : World Cluster) (other : Identity), w.cluster.Keyed ∧ other ≠ Sample.resource ∧
      '.' ∉ other.ns.toList ∧ '.' ∉ Sample.resource.ns.toList ∧
      w.cluster.marker? Sample.resource .loader "a" = none ∧
      (w.afterPass Sample.resource .zero Sample.now).cluster.marker? Sample.resource .loader "a" =
        some "2" ∧
      w.cluster.marker? other .loader "a" = some "7" ∧
      Cluster.Untouched other w.cluster (w.afterPass Sample.resource .zero Sample.now).cluster := by
  let other : Identity := ⟨Sample.resource.ns, Sample.resource.name ++ "-sfc"⟩
  let node : Node :=
    .labelled "a" ((Dict.empty.insert "role" "worker").insert (Marker.loader.key other) "7")
  let w := Sample.world "2" "2" [node]
  have hk : w.cluster.Keyed := Sample.keyed_world ..
  have hne : other ≠ Sample.resource := by decide
  have hns : '.' ∉ Sample.resource.ns.toList := by decide
  have ⟨_, huntouched⟩ := within_afterPass hk Sample.resource .zero Sample.now
  refine ⟨w, other, hk, hne, hns, hns, ?_, ?_, ?_, huntouched other hne hns hns⟩
  all_goals decide +kernel

end KernelRollout
