import KernelRollout.Proofs.Rollout.Ensures
import KernelRollout.Rollout.Reconcile

namespace KernelRollout

open Pass

variable {σ α β : Type} {s : Setup σ} {t : Target} {w : World σ}

-- Parts of a pass that are put together from calls, and from counts of drain actions if they drain.
inductive Pass.Routine (s : Setup σ) (drains : Prop) : {α : Type} → Pass σ α → Prop
  | pure {α : Type} (a : α) : Routine s drains (Pure.pure a)
  | throw {α : Type} (e : OperatorError) : Routine s drains (MonadExcept.throw e : Pass σ α)
  | attempt {α : Type} (c : Call α) : Routine s drains (Pass.attempt s c)
  | countDrain (h : drains) (a : DrainAction) : Routine s drains (Pass.countDrain a)
  | bind {α β : Type} {p : Pass σ α} {f : α → Pass σ β} (h : Routine s drains p)
    (hf : ∀ a, Routine s drains (f a)) : Routine s drains (p >>= f)

variable {drains : Prop}

namespace Pass.Routine

variable {p : Pass σ α} {f : α → Pass σ β}

-- What neither calls nor counts can change is as it was.
theorem frame {γ : Type} {f : World σ → γ} (h : Routine s drains p)
    (hcluster : ∀ w c, f { w with cluster := c } = f w)
    (hcounts : drains → ∀ w a, f { w with metrics := w.metrics.recordDrain a } = f w) (w : World σ) :
    f (exec p w).2 = f w := by
  induction h generalizing w with
  | pure | throw => rfl
  | attempt => exact hcluster ..
  | countDrain h => exact hcounts h ..
  | @bind _ _ p g _ _ hi hig =>
    have hp := hi w
    rw [exec_bind]
    generalize exec p w = o at hp
    obtain ⟨r, w'⟩ := o
    cases r with
    | ok a => exact (hig a w').trans hp
    | error e => exact hp

-- Failures in a row are counted elsewhere.
theorem backoff_exec (h : Routine s drains p) (w : World σ) : (exec p w).2.backoff = w.backoff :=
  h.frame (f := (·.backoff)) (fun _ _ => rfl) (fun _ _ _ => rfl) w

theorem passes_exec (h : Routine s drains p) (w : World σ) :
    (exec p w).2.metrics.passes = w.metrics.passes :=
  h.frame (f := (·.metrics.passes)) (fun _ _ => rfl) (fun _ _ _ => rfl) w

-- Nothing but a drain counts what it does.
theorem metrics_exec (h : Routine s False p) (w : World σ) : (exec p w).2.metrics = w.metrics :=
  h.frame (f := (·.metrics)) (fun _ _ => rfl) nofun w

end Pass.Routine

-- The module that a call asks to create, or to put in the place of the one that is there.
def Call.module? : {α : Type} → Call α → Option KernelModule
  | _, .createModule m  => some m
  | _, .replaceModule m => some m
  | _, _                => none

-- Parts of a pass that are put together in the same way, from calls that submit modules of one sort only.
inductive Pass.Submits (s : Setup σ) (P : KernelModule → Prop) (drains : Prop) :
    {α : Type} → Pass σ α → Prop
  | pure {α : Type} (a : α) : Submits s P drains (Pure.pure a)
  | throw {α : Type} (e : OperatorError) : Submits s P drains (MonadExcept.throw e : Pass σ α)
  | attempt_of {α : Type} (c : Call α) (h : ∀ m, c.module? = some m → P m) :
    Submits s P drains (Pass.attempt s c)
  | countDrain (h : drains) (a : DrainAction) : Submits s P drains (Pass.countDrain a)
  | bind {α β : Type} {p : Pass σ α} {f : α → Pass σ β} (h : Submits s P drains p)
    (hf : ∀ a, Submits s P drains (f a)) : Submits s P drains (p >>= f)

variable {P : KernelModule → Prop}

namespace Pass.Submits

variable {p : Pass σ α} {f : α → Pass σ β}

theorem routine (h : Submits s P drains p) : Routine s drains p := by
  induction h with
  | pure a => exact .pure a
  | throw e => exact .throw e
  | attempt_of c => exact .attempt c
  | countDrain h a => exact .countDrain h a
  | bind _ _ hi hif => exact .bind hi hif

theorem call_of (c : Call α) (h : ∀ m, c.module? = some m → P m) :
    Submits s P drains (Pass.call s c) := by
  refine .bind (.attempt_of c h) fun r => ?_
  cases r with
  | ok a => exact .pure a
  | error e => exact .throw _

-- Most calls submit no module.
theorem attempt {c : Call α} (h : c.module? = none) : Submits s P drains (Pass.attempt s c) :=
  .attempt_of c (by simp [h])

theorem call {c : Call α} (h : c.module? = none) : Submits s P drains (Pass.call s c) :=
  .call_of c (by simp [h])

theorem submit {c : Call α} {m : KernelModule} (h : c.module? = some m) (hm : P m) :
    Submits s P drains (Pass.call s c) :=
  .call_of c fun _ hc => Option.some.inj (h.symm.trans hc) ▸ hm

theorem ofExcept_bind {r : Except OperatorError α} (hf : ∀ a, r = .ok a → Submits s P drains (f a)) :
    Submits s P drains (Pass.ofExcept r >>= f) := by
  cases r with
  | ok a => exact hf a rfl
  | error e => exact .throw e

theorem map (h : Submits s P drains p) (g : α → β) : Submits s P drains (g <$> p) := by
  rw [map_eq_pure_bind]
  exact .bind h fun a => .pure (g a)

theorem andThen {first second : Step σ} (h₁ : Submits s P drains (first s t))
    (h₂ : Submits s P drains (second s t)) : Submits s P drains (first.andThen second s t) := by
  refine .bind h₁ fun outcome => ?_
  cases outcome with
  | nothingToDo => exact h₂
  | requeueNow | requeueAfter => exact .pure _

end Pass.Submits

namespace Sweep

theorem submits_nodes (key : String) (ns : List Node) : Submits s P drains (nodes s key ns) := by
  induction ns with
  | nil => exact .pure _
  | cons n ns hi => exact .bind (.attempt rfl) fun _ => .bind hi fun _ => .pure _

theorem submits_label (key : String) (keep : Node → Bool) : Submits s P drains (label s key keep) :=
  .bind (.call rfl) fun _ => submits_nodes key _

theorem submits_allMarkers (id : Identity) : Submits s P drains (allMarkers s id) :=
  .bind (submits_label _ _) fun _ => .bind (submits_label _ _) fun _ =>
  .bind (submits_label _ _) fun _ => .pure _

theorem routine_allMarkers (id : Identity) : Routine s drains (allMarkers s id) :=
  (submits_allMarkers (P := fun _ => True) id).routine

end Sweep

namespace Marking

theorem submits_selectedNodes : Submits s P drains (selectedNodes s t) := .map (.call rfl) _

theorem submits_request (kind : ModuleKind) (n : Node) : Submits s P drains (request s t kind n) := by
  refine .bind (.bind (.call rfl) fun _ => .pure _) fun lingers => ?_
  cases lingers with
  | true => exact .pure _
  | false => exact .map (.call rfl) _

theorem submits_requestSfc (n : Node) : Submits s P drains (requestSfc s t n) := by
  rw [requestSfc]
  split
  case isTrue => exact .bind (submits_request _ _) fun _ => .pure _
  case isFalse => exact .pure _

theorem submits_requestModules (n : Node) : Submits s P drains (requestModules s t n) := by
  rw [requestModules]
  split
  case isTrue => exact submits_requestSfc n
  case isFalse =>
    refine .bind (submits_request _ _) fun marked => ?_
    cases marked with
    | none => exact .pure _
    | some n => exact .bind (submits_requestSfc n) fun _ => .pure _

theorem submits_requestOnNodes (ns : List Node) : Submits s P drains (requestOnNodes s t ns) := by
  induction ns with
  | nil => exact .pure _
  | cons n ns hi =>
    refine .bind (submits_requestModules n) fun changed => ?_
    cases changed with
    | none => exact .pure _
    | some _ => exact .bind hi fun _ => .pure _

theorem submits_dropStale : Submits s P drains (dropStale s t) :=
  .bind (Sweep.submits_label _ _) fun _ => .bind (Sweep.submits_label _ _) fun _ =>
  .bind (Sweep.submits_label _ _) fun _ => .pure _

theorem submits_loaderMarkers : Submits s P drains (loaderMarkers s t) := by
  refine .bind submits_selectedNodes fun ns => .bind (submits_requestOnNodes ns) fun changed => ?_
  split
  case h_1 | h_2 => exact .pure _
  case h_3 => exact .map submits_dropStale _

theorem submits_markReady (ns : List Node) : Submits s P drains (markReady s t ns) := by
  induction ns with
  | nil => exact .pure _
  | cons n ns hi => exact .bind (.call rfl) fun _ => hi

theorem submits_readyMarkers : Submits s P drains (readyMarkers s t) := by
  refine .bind submits_selectedNodes fun ns => ?_
  split
  case h_1 => exact .map (Sweep.submits_label _ _) _
  case h_2 => exact .bind (submits_markReady _) fun _ => .pure _

end Marking

namespace Operand

-- A module of a kind that a resource wants, with the specification that is made of the resource.
structure MadeFor (t : Target) (kind : ModuleKind) (m : KernelModule) : Prop where
  wanted : kind.wanted t.spec = true
  spec   : m.spec = moduleSpec t kind

def Made (m : KernelModule) : Prop := ∃ t kind, MadeFor t kind m

theorem madeFor_of_kernelModule {kind : ModuleKind} {m : KernelModule}
    (hw : kind.wanted t.spec = true) (h : kernelModule t kind = .ok m) : MadeFor t kind m := by
  rw [kernelModule] at h
  cases howner : owner t <;> rw [howner] at h <;> cases h
  exact ⟨hw, rfl⟩

-- The metadata of a module has no part in this.
theorem MadeFor.congr {kind : ModuleKind} {m m' : KernelModule} (h : MadeFor t kind m)
    (hs : m'.spec = m.spec) : MadeFor t kind m' := ⟨h.wanted, hs.trans h.spec⟩

end Operand

open Operand (Made)

namespace Provision

theorem submits_kernelModule (kind : ModuleKind) : Submits s Made drains (kernelModule s t kind) := by
  refine .bind (.call rfl) fun m => ?_
  split
  case h_1 hwanted =>
    refine .ofExcept_bind fun built hb => .bind (.submit rfl ?_) fun _ => .pure _
    exact ⟨t, kind, Operand.madeFor_of_kernelModule hwanted hb⟩
  case h_2 => exact .bind (.call rfl) fun _ => .pure _
  case h_3 => exact .pure _

theorem submits_daemonSet (name : String) (d : DaemonSet) :
    Submits s P drains (daemonSet s t name d) := by
  refine .bind (.call rfl) fun found => ?_
  cases found with
  | some => exact .pure _
  | none => exact .bind (.call rfl) fun _ => .pure _

theorem submits_daemonSets : Submits s P drains (daemonSets s t) :=
  .ofExcept_bind fun _ _ => .ofExcept_bind fun _ _ =>
  .andThen (submits_daemonSet _ _) (submits_daemonSet _ _)

end Provision

namespace Renewal

theorem submits_daemonSet (built : DaemonSet) : Submits s P drains (daemonSet s t built) := by
  refine .bind (.call rfl) fun live => ?_
  cases live with
  | none => exact .pure _
  | some live =>
    dsimp only
    split
    case isTrue => exact .pure _
    case isFalse => exact .bind (.call rfl) fun _ => .pure _

theorem submits_kernelModule (kind : ModuleKind) : Submits s Made drains (kernelModule s t kind) := by
  refine .bind (.call rfl) fun live => ?_
  cases live with
  | none => exact .pure _
  | some live =>
    dsimp only
    split
    case isTrue => exact .bind (.call rfl) fun _ => .pure _
    case isFalse hwanted =>
      split
      case isTrue => exact .pure _
      case isFalse =>
        refine .ofExcept_bind fun built hb => .bind (.submit rfl ?_) fun _ => .pure _
        have hwanted : kind.wanted t.spec = true := by simpa using hwanted
        exact ⟨t, kind, (Operand.madeFor_of_kernelModule hwanted hb).congr rfl⟩

theorem submits_operands : Submits s Made drains (operands s t) :=
  .andThen (.ofExcept_bind fun _ _ => submits_daemonSet _) <|
  .andThen (submits_kernelModule .onload) <|
  .andThen (submits_kernelModule .sfc) (.ofExcept_bind fun _ _ => submits_daemonSet _)

end Renewal

namespace Drain

theorem submits_evict (p : Pod) : Submits s P True (evict s p) := by
  refine .bind (.attempt rfl) fun r => ?_
  split
  case h_1 => exact .countDrain trivial _
  case h_2 => exact .pure _
  case h_3 => exact .throw _

theorem submits_evictAll (ps : List Pod) : Submits s P True (evictAll s ps) := by
  induction ps with
  | nil => exact .pure _
  | cons p ps hi => exact .bind (submits_evict p) fun _ => hi

theorem submits_removeMarker (m : Marker) (a : DrainAction) (n : Node) :
    Submits s P True (removeMarker s t m a n) :=
  .bind (.call rfl) fun _ => .bind (.countDrain trivial a) fun _ => .pure _

theorem submits_node (n : Node) : Submits s P True (node s t n) := by
  rw [node]
  split
  case isTrue => exact submits_removeMarker _ _ _
  case isFalse =>
    refine .bind (.call rfl) fun plugins => ?_
    split
    case isTrue => exact .pure _
    case isFalse =>
      refine .bind (.call rfl) fun pods => ?_
      split
      case h_1 =>
        rw [removeModules]
        split <;> exact submits_removeMarker _ _ _
      case h_2 => exact .bind (submits_evictAll _) fun _ => .pure _

theorem submits_staleNodes : Submits s P True (staleNodes s t) := by
  refine .bind (.bind (.call rfl) fun _ => .pure _) fun stale => ?_
  cases stale with
  | none => exact .pure _
  | some n => exact submits_node n

end Drain

namespace Reconcile

theorem submits_steps : Submits s Made True (steps s t) :=
  .andThen Marking.submits_loaderMarkers <|
  .andThen (.andThen (Provision.submits_kernelModule .onload) (Provision.submits_kernelModule .sfc)) <|
  .andThen Marking.submits_readyMarkers <|
  .andThen Provision.submits_daemonSets <|
  .andThen Renewal.submits_operands Drain.submits_staleNodes

theorem submits_report (ready : Bool) (reason message : String) :
    Submits s P drains (report s t ready reason message) := by
  rw [report]
  split
  case isTrue => exact .pure _
  case isFalse => exact .bind (.attempt rfl) fun _ => .pure _

theorem submits_valid : Submits s Made True (valid s t) := by
  refine .bind submits_steps fun outcome => ?_
  cases outcome with
  | nothingToDo => exact .bind (submits_report _ _ _) fun _ => .pure _
  | requeueNow | requeueAfter => exact .pure _

-- What a pass does for a resource that exists is routine, and the modules that it creates or
-- replaces are made for the resource.
theorem submits_present (o : Onload) : Submits s Made True (present s o) := by
  rw [present]
  split
  case isTrue => exact .pure _
  case isFalse =>
    refine .ofExcept_bind fun t _ => ?_
    split
    case h_1 => exact submits_valid
    case h_2 => exact .bind (submits_report _ _ _) fun _ => .throw _

theorem routine_report (ready : Bool) (reason message : String) :
    Routine s drains (report s t ready reason message) :=
  (submits_report (P := fun _ => True) ready reason message).routine

theorem routine_present (o : Onload) : Routine s True (present s o) := (submits_present o).routine

end Reconcile

end KernelRollout
