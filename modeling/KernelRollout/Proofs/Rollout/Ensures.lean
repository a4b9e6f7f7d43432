import KernelRollout.Cluster.Memory
import KernelRollout.Rollout.Pass

namespace KernelRollout

namespace Pass

variable {σ α β : Type} {w : World σ}

-- What a pass answers in a world, and the world after it.
def exec (p : Pass σ α) (w : World σ) : Except OperatorError α × World σ := p w

theorem exec_bind (p : Pass σ α) (f : α → Pass σ β) :
    exec (p >>= f) w =
      match exec p w with
      | (.ok a, w')    => exec (f a) w'
      | (.error e, w') => (.error e, w') := by
  show ExceptT.bindCont f (exec p w).1 (exec p w).2 = _
  cases exec p w with
  | mk r w' => cases r <;> rfl

-- A relation between the answer of a pass and the world that it leaves behind.
def Ensures (p : Pass σ α) (w : World σ) (post : Except OperatorError α → World σ → Prop) : Prop :=
  post (exec p w).1 (exec p w).2

namespace Ensures

variable {p : Pass σ α} {f : α → Pass σ β} {mid mid' : Except OperatorError α → World σ → Prop}
variable {post : Except OperatorError β → World σ → Prop}

theorem mono (h : Ensures p w mid) (hm : ∀ r w', mid r w' → mid' r w') : Ensures p w mid' :=
  hm _ _ h

theorem pure {a : α} (h : mid (.ok a) w) : Ensures (Pure.pure a) w mid := h

theorem throw {e : OperatorError} (h : mid (.error e) w) : Ensures (MonadExcept.throw e) w mid := h

theorem bind (h : Ensures p w mid) (ok : ∀ a w', mid (.ok a) w' → Ensures (f a) w' post)
    (error : ∀ e w', mid (.error e) w' → post (.error e) w') : Ensures (p >>= f) w post := by
  rw [Ensures] at h ⊢
  rw [exec_bind]
  generalize exec p w = o at h
  obtain ⟨r, w'⟩ := o
  cases r with
  | ok a => exact ok a w' h
  | error e => exact error e w' h

-- A part of a pass that only reads leaves the world as it is.
theorem read {a : α} (h : exec p w = (.ok a, w)) (hf : Ensures (f a) w post) :
    Ensures (p >>= f) w post := by
  rw [Ensures, exec_bind, h]
  exact hf

theorem map {g : α → β} (h : Ensures p w mid) (ok : ∀ a w', mid (.ok a) w' → post (.ok (g a)) w')
    (error : ∀ e w', mid (.error e) w' → post (.error e) w') : Ensures (g <$> p) w post := by
  rw [map_eq_pure_bind]
  exact h.bind (fun a w' ha => .pure (ok a w' ha)) error

-- What was built without the cluster is there, or the pass fails with the world as it was.
theorem ofExcept_bind {r : Except OperatorError α} (ok : ∀ a, r = .ok a → Ensures (f a) w post)
    (error : ∀ e, r = .error e → post (.error e) w) : Ensures (Pass.ofExcept r >>= f) w post := by
  cases r with
  | ok a => exact ok a rfl
  | error e => exact error e rfl

end Ensures

-- The pass does not fail.
def Succeeds (p : Pass σ α) (w : World σ) (post : α → World σ → Prop) : Prop :=
  Ensures p w fun r w' => ∃ a, r = .ok a ∧ post a w'

namespace Succeeds

variable {p : Pass σ α} {f : α → Pass σ β} {mid mid' : α → World σ → Prop}
variable {post : Except OperatorError β → World σ → Prop}

theorem mono (h : Succeeds p w mid) (hm : ∀ a w', mid a w' → mid' a w') : Succeeds p w mid' :=
  Ensures.mono h fun _ _ ⟨a, ha, h⟩ => ⟨a, ha, hm a _ h⟩

theorem bind (h : Succeeds p w mid) (hf : ∀ a w', mid a w' → Ensures (f a) w' post) :
    Ensures (p >>= f) w post := by
  refine Ensures.bind h ?ok ?error
  case ok =>
    intro a w' ⟨_, ha, h⟩
    cases ha
    exact hf a w' h
  case error => exact fun _ _ ⟨_, h, _⟩ => nomatch h

theorem map {g : α → β} (h : Succeeds p w mid) (hg : ∀ a w', mid a w' → post (.ok (g a)) w') :
    Ensures (g <$> p) w post := by
  rw [map_eq_pure_bind]
  exact h.bind fun a w' ha => .pure (hg a w' ha)

end Succeeds

end Pass

namespace Pass

variable {σ α β : Type} {s : Setup σ} {w : World σ} {c : Call α}

theorem exec_attempt :
    exec (attempt s c) w =
      (.ok (s.client.answer c w.cluster).1, { w with cluster := (s.client.answer c w.cluster).2 }) := rfl

theorem exec_call :
    exec (call s c) w =
      ((s.client.answer c w.cluster).1.mapError .cluster,
        { w with cluster := (s.client.answer c w.cluster).2 }) := by
  rw [call, exec_bind, exec_attempt]
  cases (s.client.answer c w.cluster).1 <;> rfl

namespace Ensures

variable {f : α → Pass σ β} {mid : Except OperatorError α → World σ → Prop}
variable {post : Except OperatorError β → World σ → Prop}

theorem call {result : Except ClusterError α} {c' : σ} (h : s.client.answer c w.cluster = (result, c'))
    (ok : ∀ a, result = .ok a → mid (.ok a) { w with cluster := c' })
    (error : ∀ e, result = .error e → mid (.error (.cluster e)) { w with cluster := c' }) :
    Ensures (Pass.call s c) w mid := by
  have ha : Ensures (attempt s c) w fun r w' => r = .ok result ∧ w' = { w with cluster := c' } := by
    rw [Ensures, exec_attempt, h]
    exact ⟨rfl, rfl⟩
  refine ha.bind ?ok ?error
  case ok =>
    rintro _ _ ⟨h, rfl⟩
    cases h
    cases result with
    | ok a => exact ok a rfl
    | error e => exact error e rfl
  case error =>
    rintro _ _ ⟨h, _⟩
    cases h

theorem attempt_bind {g : Except ClusterError α → Pass σ β} {result : Except ClusterError α}
    {c' : σ} (h : s.client.answer c w.cluster = (result, c'))
    (hg : Ensures (g result) { w with cluster := c' } post) : Ensures (attempt s c >>= g) w post := by
  rw [Ensures, exec_bind, exec_attempt, h]
  exact hg

end Ensures

end Pass

-- Passes over the cluster in memory.
def Setup.inMemory (delay : Duration) (now : Timestamp) : Setup Cluster where
  client       := Cluster.client
  requeueDelay := delay
  now          := now

namespace Step

open Pass

variable {σ : Type} {s : Setup σ} {t : Target} {w : World σ} {first second : Step σ}
variable {done done' : Prop} {work : Except OperatorError StepOutcome → World σ → Prop}

-- Either the step has nothing to do, and then `done` holds of the world as it was before and is
-- now, or it has done some `work`.
def Settles (step : Step σ) (s : Setup σ) (t : Target) (w : World σ) (done : Prop)
    (work : Except OperatorError StepOutcome → World σ → Prop) : Prop :=
  Ensures (step s t) w fun r w' =>
    (r = .ok .nothingToDo ∧ w' = w ∧ done) ∨ (r ≠ .ok .nothingToDo ∧ work r w')

theorem Settles.andThen (h₁ : first.Settles s t w done work)
    (h₂ : done → second.Settles s t w done' work) :
    (first.andThen second).Settles s t w (done ∧ done') work := by
  refine Ensures.bind h₁ ?ok ?error
  case ok =>
    rintro outcome w' (⟨h, rfl, hd⟩ | ⟨h, hw⟩)
    case inl =>
      cases h
      refine Ensures.mono (h₂ hd) fun r w' h => ?_
      exact h.imp_left fun ⟨hr, hw, hd'⟩ => ⟨hr, hw, hd, hd'⟩
    case inr =>
      cases outcome with
      | nothingToDo => exact absurd rfl h
      | requeueNow => exact .inr ⟨h, hw⟩
      | requeueAfter delay => exact .inr ⟨h, hw⟩
  case error =>
    rintro e w' (⟨h, _⟩ | h)
    case inl => cases h
    case inr => exact .inr h

theorem Settles.mono {work' : Except OperatorError StepOutcome → World σ → Prop}
    (h : first.Settles s t w done work) (hd : done → done') (hw : ∀ r w', work r w' → work' r w') :
    first.Settles s t w done' work' := by
  refine Ensures.mono h fun r w' h => ?_
  cases h
  case inl h =>
    have ⟨hr, hw, hdone⟩ := h
    exact .inl ⟨hr, hw, hd hdone⟩
  case inr h =>
    have ⟨hr, hwork⟩ := h
    exact .inr ⟨hr, hw _ _ hwork⟩

-- A step that has nothing to do has answered so.
theorem Settles.settled (h : first.Settles s t w done work) :
    first.Settles s t w (exec (first s t) w = (.ok .nothingToDo, w) ∧ done) work := by
  refine Or.imp_left ?_ h
  exact fun ⟨hr, hw, hd⟩ => ⟨hr, hw, Prod.ext hr hw, hd⟩

end Step

end KernelRollout
