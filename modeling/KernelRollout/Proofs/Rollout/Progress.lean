import KernelRollout.Proofs.Rollout.Ensures
import KernelRollout.Proofs.Rollout.Relabelling

namespace KernelRollout

variable {t : Target} {w w₁ w' : World Cluster} {a b : Bool}

-- A part of a pass reports whether it has changed anything.
structure Changes (w : World Cluster) (changed : Bool) (w' : World Cluster) : Prop where
  unchanged : changed = false → w' = w
  changed   : changed = true → w.cluster.writes < w'.cluster.writes

namespace Changes

theorem refl : Changes w false w := ⟨fun _ => rfl, nofun⟩

theorem writes_le (h : Changes w a w') : w.cluster.writes ≤ w'.cluster.writes := by
  cases a with
  | false => exact h.unchanged rfl ▸ Nat.le_refl _
  | true => exact Nat.le_of_lt (h.changed rfl)

theorem trans (h₁ : Changes w a w₁) (h₂ : Changes w₁ b w') : Changes w (a || b) w' := by
  constructor
  case unchanged =>
    intro h
    have ⟨ha, hb⟩ := Bool.or_eq_false_iff.mp h
    exact (h₂.unchanged hb).trans (h₁.unchanged ha)
  case changed =>
    intro h
    cases a with
    | true => exact Nat.lt_of_lt_of_le (h₁.changed rfl) h₂.writes_le
    | false =>
      have hw := h₁.unchanged rfl
      subst hw
      exact h₂.changed h

end Changes

-- All patches go through, no loader pods linger, and operands can be built.
structure Smooth (t : Target) (c : Cluster) : Prop where
  patches : ∀ name, c.refuses name = false
  loaders : ∀ kind node, c.listPods (Marking.loaderPods t kind node) = []
  owned   : t.onload.metadata.uid.isSome = true

theorem Smooth.relabelling {id : Identity} {rule : Node → Marker → Option String → Prop}
    {c c' : Cluster} (h : Smooth t c) (hrel : Relabelling id rule c c') : Smooth t c' where
  patches _ := hrel.refuses.trans (h.patches _)
  loaders kind node := (Cluster.listPods_congr hrel.pods _).trans (h.loaders kind node)
  owned := h.owned

-- Why a pass fails.
inductive Failure (c : Cluster) : OperatorError → Prop
  | refused (name : String) (hf : c.refuses name = true) :
    Failure c (.cluster (Cluster.refusal name))
  | missing (f : NeededField) : Failure c (.missingField f)
  | invalid (p : ConfigProblem) : Failure c (.invalidConfig p)

-- Relabelling makes no node refuse patches.
theorem Failure.of_relabelling {id : Identity} {rule : Node → Marker → Option String → Prop}
    {c c' : Cluster} {e : OperatorError} (h : Failure c' e) (hrel : Relabelling id rule c c') :
    Failure c e := by
  cases h with
  | refused name hf => exact .refused name (hrel.refuses ▸ hf)
  | missing f => exact .missing f
  | invalid p => exact .invalid p

-- What a step that is not done answers.
structure Progress (t : Target) (c : Cluster) (r : Except OperatorError StepOutcome)
    (c' : Cluster) : Prop where
  wrote   : r = .ok .requeueNow → c.writes < c'.writes
  smooth  : Smooth t c → r = .ok .requeueNow
  failure : ∀ e, r = .error e → Failure c e

namespace Progress

variable {r : Except OperatorError StepOutcome} {c c' : Cluster}

theorem of_writes (h : c.writes < c'.writes) : Progress t c (.ok .requeueNow) c' :=
  ⟨fun _ => h, fun _ => rfl, nofun⟩

-- A step that has not got on.
theorem of_stopped (hr : r ≠ .ok .requeueNow) (h : ¬Smooth t c)
    (hf : ∀ e, r = .error e → Failure c e) : Progress t c r c' :=
  ⟨fun h => absurd h hr, fun hs => absurd hs h, hf⟩

end Progress

end KernelRollout
