import KernelRollout.Proofs.Rollout.Draining
import KernelRollout.Proofs.Rollout.Routine

namespace KernelRollout

open Pass
open Reconcile (Handles Prepared Prepares Reported)

variable {id : Identity} {c c₁ c' : Cluster} {n : Node} {m : Marker} {t : Target} {name : String}
variable {delay : Duration} {now : Timestamp} {w w₁ w' : World Cluster}

namespace Cluster

def WantsSfc (c : Cluster) (id : Identity) : Prop :=
  ∃ spec, c.spec? id = some spec ∧ spec.onload.usesSfc = true

instance : Decidable (c.WantsSfc id) :=
  inferInstanceAs (Decidable (∃ spec, spec ∈ c.spec? id ∧ spec.onload.usesSfc = true))

-- The removal of a marker from a node that the resource selects.
def isRemoval (c : Cluster) (id : Identity) (m : Marker) : Action → Bool
  | .patchNode name changes => c.Selected id name && changes.get? (m.key id) = some none
  | _                       => false

-- The entries of an action of a drain. An SFC marker counts while the module is wanted.
def isEntry (c : Cluster) (id : Identity) : DrainAction → Action → Bool
  | .evict, .evictPod _ => true
  | .evict, _           => false
  | .removeReady, a     => c.isRemoval id .ready a
  | .removeSfc, a       => c.WantsSfc id && c.isRemoval id .sfc a
  | .removeLoader, a    => c.isRemoval id .loader a

end Cluster

def DrainAction.removal : Marker → DrainAction
  | .ready  => .removeReady
  | .sfc    => .removeSfc
  | .loader => .removeLoader

namespace Cluster

theorem isEntry_change {v : Option String} (a : DrainAction) :
    c.isEntry id a (.patchNode name (Node.change (m.key id) v)) = true ↔
      a = .removal m ∧ v = none ∧ c.Selected id name ∧ (m = .sfc → c.WantsSfc id) := by
  have hchange (m' : Marker) : (Node.change (m.key id) v).get? (m'.key id) = some none ↔
      m' = m ∧ v = none := by
    rw [Node.change, Dict.get?_insert]
    by_cases h : m' = m <;> simp [h, Marker.key_inj]
  cases a <;> cases m <;> simp [isEntry, isRemoval, DrainAction.removal, hchange] <;> grind

theorem isEntry_evictPod {j : Identity} (a : DrainAction) :
    c.isEntry id a (.evictPod j) = true ↔ a = .evict := by
  cases a <;> simp [isEntry, isRemoval]

-- In between two clusters the log got no entry of a drain.
def Undrained (c : Cluster) (id : Identity) (c₁ c' : Cluster) : Prop :=
  ∃ entries, c'.actions = c₁.actions ++ entries ∧ ∀ e ∈ entries, ∀ a, c.isEntry id a e = false

namespace Undrained

theorem refl : c.Undrained id c₁ c₁ := ⟨[], by simp, by simp⟩

theorem single {e : Action} (ha : c'.actions = c₁.actions ++ [e]) (he : ∀ a, c.isEntry id a e = false) :
    c.Undrained id c₁ c' :=
  ⟨[e], ha, fun _ hm => List.mem_singleton.mp hm ▸ he⟩

theorem trans {c₂ : Cluster} (h₁ : c.Undrained id c₁ c₂) (h₂ : c.Undrained id c₂ c') :
    c.Undrained id c₁ c' := by
  have ⟨entries₁, ha₁, he₁⟩ := h₁
  have ⟨entries₂, ha₂, he₂⟩ := h₂
  refine ⟨entries₁ ++ entries₂, by rw [ha₂, ha₁, List.append_assoc], fun e he => ?_⟩
  exact (List.mem_append.mp he).elim (he₁ e) (he₂ e)

-- Whoever takes markers from unselected nodes only, or SFC markers that are not wanted, does not drain.
theorem relabelling {rule : Node → Marker → Option String → Prop} (ha : c.SelectsApart t.id)
    (ht : c.spec? t.id = some t.spec) (hrel : Relabelling t.id rule c c')
    (hrule : ∀ n m v, rule n m v → v = none → t.selects n = false ∨ m = .sfc ∧ t.sfcWanted = false) :
    c.Undrained t.id c c' := by
  have hall := hrel.preserves (P := fun c₁ => c₁.spec? t.id = c.spec? t.id ∧
    (∀ name, c₁.Selected t.id name ↔ c.Selected t.id name) ∧ c.Undrained t.id c c₁)
    ⟨rfl, fun _ => .rfl, .refl⟩ ?_
  · exact hall.right.right
  · intro c₁ n m v ⟨hspec, hselected, h⟩ hs hr
    refine ⟨hspec, fun name => (selected_relabel (ha.congr hspec) hs).trans (hselected name),
      h.trans (.single actions_relabel fun a => ?_)⟩
    rw [Bool.eq_false_iff, ne_eq, isEntry_change]
    intro ⟨_, hv, hsel, hwanted⟩
    cases hrule n m v hr hv
    case inl hu => simp [hs.selects (hspec.trans ht) ((hselected _).mpr hsel)] at hu
    case inr hu =>
      have ⟨spec, hs', hw⟩ := hwanted hu.left
      cases hs'.symm.trans ht
      cases hw.symm.trans hu.right

-- Nodes of a resource that is not there are not selected.
theorem gone {rule : Node → Marker → Option String → Prop} (ho : c.onloads.get? id = none)
    (hrel : Relabelling id rule c c') : c.Undrained id c c' := by
  have ⟨entries, ha, he⟩ := hrel.log
  refine ⟨entries, ha, fun e hm a => ?_⟩
  have ⟨n, m, v, _, he⟩ := he e hm
  rw [he, Bool.eq_false_iff, ne_eq, isEntry_change]
  intro ⟨_, _, ⟨_, hspec, _⟩, _⟩
  simp [spec?, ho] at hspec

theorem operated (h : Operand.Operated t c c') : c.Undrained id c c' := by
  cases h with
  | unwritten => exact .refl
  | brought p _ h =>
    have ⟨e, hoperand, ha⟩ := h.sets.log
    refine .single ha fun a => ?_
    cases hoperand <;> cases a <;> simp [isEntry, isRemoval]

theorem reported {ready : Bool} {reason message : String} (h : Reported t ready reason message c₁ c') :
    c.Undrained id c₁ c' := by
  cases h with
  | already => exact .refl
  | written =>
    rw [patchOnloadStatus]
    split
    case h_1 => exact .refl
    case h_2 => exact .single rfl fun a => by cases a <;> simp [isEntry, isRemoval]

theorem prepares (hk : c.Keyed) (ha : c.SelectsApart id) (ht : Handles c id t) (h : Prepares t c c') :
    c.Undrained id c c' := by
  have hid := ht.id_eq hk
  subst hid
  cases h with
  | requested hrel =>
    refine .relabelling ha ht.spec? hrel fun n m v hr hv => ?_
    cases hr <;> cases hv
  | dropped hrel =>
    refine .relabelling ha ht.spec? hrel fun n m v hr _ => ?_
    cases hr with
    | ready hs => exact .inl hs
    | loader hkeep => exact .inl (Marking.keepsModules_eq_false.mp hkeep).left
    | sfc hkeep =>
      cases Bool.and_eq_false_iff.mp hkeep
      case inl hw => exact .inr ⟨rfl, hw⟩
      case inr hkeep => exact .inl (Marking.keepsModules_eq_false.mp hkeep).left
  | opened hrel =>
    refine .relabelling ha ht.spec? hrel fun n m v hr hv => ?_
    cases hr
    cases hv
  | operated h => exact .operated h

end Undrained

end Cluster

-- In between two worlds each action of a drain was counted as often as the log got an entry of it.
def Tallies (isEntry : DrainAction → Action → Bool) (w w' : World Cluster) : Prop :=
  ∃ entries, w'.cluster.actions = w.cluster.actions ++ entries ∧
    ∀ a, w'.metrics.drainCount a = w.metrics.drainCount a + entries.countP (isEntry a)

namespace Tallies

variable {isEntry : DrainAction → Action → Bool}

theorem refl : Tallies isEntry w w := ⟨[], by simp, by simp⟩

theorem trans (h₁ : Tallies isEntry w w₁) (h₂ : Tallies isEntry w₁ w') : Tallies isEntry w w' := by
  have ⟨entries₁, ha₁, hc₁⟩ := h₁
  have ⟨entries₂, ha₂, hc₂⟩ := h₂
  refine ⟨entries₁ ++ entries₂, by rw [ha₂, ha₁, List.append_assoc], fun a => ?_⟩
  rw [hc₂, hc₁, List.countP_append, Nat.add_assoc]

theorem counted {b : DrainAction} {e : Action} (ha : w'.cluster.actions = w.cluster.actions ++ [e])
    (hm : w'.metrics = w.metrics.recordDrain b) (he : ∀ a, isEntry a e = true ↔ a = b) :
    Tallies isEntry w w' := by
  refine ⟨[e], ha, fun a => ?_⟩
  rw [hm, List.countP_singleton]
  by_cases h : a = b
  case pos => rw [h, Metrics.drainCount_recordDrain_self, if_pos ((he b).mpr rfl)]
  case neg => rw [Metrics.drainCount_recordDrain_other _ h, if_neg (mt (he a).mp h), Nat.add_zero]

theorem of_undrained (h : c.Undrained id w.cluster w'.cluster) (hm : w'.metrics = w.metrics) :
    Tallies (c.isEntry id) w w' := by
  have ⟨entries, ha, he⟩ := h
  refine ⟨entries, ha, fun a => ?_⟩
  rw [hm, List.countP_eq_zero.mpr fun e hm => by simp [he e hm a], Nat.add_zero]

end Tallies

namespace Drain

-- A marker that is taken from a selected node is counted.
theorem removeMarker_tallies (hs : w.cluster.Stores n) (hsel : w.cluster.Selected t.id n.name)
    (hw : m = .sfc → w.cluster.refuses n.name = false → w.cluster.WantsSfc t.id) :
    Ensures (removeMarker (.inMemory delay now) t m (.removal m) n) w fun _ w' =>
      Tallies (w.cluster.isEntry t.id) w w' := by
  refine (ensures_patch hs none).bind ?ok ?error
  case error =>
    intro _ _ h
    cases h with
    | refused => exact .refl
  case ok =>
    intro _ _ h
    cases h with
    | changed hf =>
      refine .counted Cluster.actions_relabel rfl fun a => ?_
      rw [Cluster.isEntry_change]
      exact and_iff_left ⟨rfl, hsel, fun hm => hw hm hf⟩

-- The eviction of a pod that stays is counted, unless it is blocked. Other pods are as they were.
theorem evict_tallies {p : Pod} (hp : w.cluster.pods.get? p.metadata.identity = some p)
    (hstays : p.metadata.terminating = false) :
    Ensures (evict (.inMemory delay now) p) w fun _ w' => Tallies (c.isEntry id) w w' ∧
      ∀ j, j ≠ p.metadata.identity → w'.cluster.pods.get? j = w.cluster.pods.get? j := by
  cases hb : w.cluster.blockedEvictions.contains p.metadata.identity with
  | true =>
    obtain ⟨detail, hanswer⟩ : ∃ detail, w.cluster.answer (.evictPod p.metadata.identity) =
        (.error (.evictionBlocked detail), w.cluster) :=
      ⟨_, by rw [Cluster.answer, Cluster.evictPod, if_pos hb]⟩
    exact .attempt_bind hanswer (.pure ⟨.refl, fun _ _ => rfl⟩)
  | false =>
    have hcluster := Cluster.evictPod_going hb hp hstays
    have hanswer : w.cluster.answer (.evictPod p.metadata.identity) =
        (.ok (), (w.cluster.evictPod p.metadata.identity).2) := by
      refine Prod.ext ?_ rfl
      simp only [Cluster.answer, Cluster.evictPod, hb, hp, hstays, Bool.false_eq_true, if_false]
    rw [hcluster] at hanswer
    refine .attempt_bind hanswer ⟨.counted rfl rfl Cluster.isEntry_evictPod, fun j hj => ?_⟩
    exact Dict.get?_insert_other _ _ hj

theorem evictAll_tallies {ps : List Pod}
    (hs : ∀ p ∈ ps, w.cluster.pods.get? p.metadata.identity = some p ∧ p.metadata.terminating = false)
    (hd : ps.Pairwise (·.metadata.identity ≠ ·.metadata.identity)) :
    Ensures (evictAll (.inMemory delay now) ps) w fun _ w' => Tallies (c.isEntry id) w w' := by
  induction ps generalizing w with
  | nil => exact .pure .refl
  | cons p ps hi =>
    have ⟨⟨hp, hstays⟩, hs⟩ := List.forall_mem_cons.mp hs
    have ⟨hne, hd⟩ := List.pairwise_cons.mp hd
    refine (evict_tallies hp hstays).bind (fun _ w₁ ⟨h₁, hothers⟩ => ?_) fun _ _ h => h.left
    refine (hi (fun x hx => ?_) hd).mono fun _ _ h => h₁.trans h
    rw [hothers _ (hne x hx).symm]
    exact hs x hx

theorem node_tallies (hk : w.cluster.Keyed) (hs : w.cluster.Stores n)
    (hsel : w.cluster.Selected t.id n.name)
    (hw : (t.marker? .sfc n).isSome = true → w.cluster.refuses n.name = false → w.cluster.WantsSfc t.id) :
    Ensures (node (.inMemory delay now) t n) w fun _ w' => Tallies (w.cluster.isEntry t.id) w w' := by
  rw [node]
  split
  case isTrue => exact removeMarker_tallies (m := .ready) hs hsel (by simp)
  case isFalse =>
    refine .read rfl ?_
    split
    case isTrue => exact .pure .refl
    case isFalse =>
      refine .read rfl ?_
      split
      case h_1 =>
        rw [removeModules]
        split
        case isTrue hsfc => exact removeMarker_tallies (m := .sfc) hs hsel fun _ => hw hsfc
        case isFalse => exact removeMarker_tallies (m := .loader) hs hsel (by simp)
      case h_2 =>
        refine (evictAll_tallies (fun p hp => ?_) ?_).bind (fun _ _ h => .pure h) fun _ _ h => h
        · obtain ⟨hstored, _, hstays⟩ := (mem_stayingUsers hk).mp hp
          exact ⟨hstored, hstays⟩
        · exact ((Cluster.listPods_pairwise hk).filter _).filter _

end Drain

namespace Reconcile

theorem submits_prepare {s : Setup Cluster} {drains : Prop} : Submits s Operand.Made drains (prepare s t) :=
  .andThen Marking.submits_loaderMarkers <|
  .andThen (.andThen (Provision.submits_kernelModule .onload) (Provision.submits_kernelModule .sfc)) <|
  .andThen Marking.submits_readyMarkers <|
  .andThen Provision.submits_daemonSets Renewal.submits_operands

theorem steps_tallies (hk : w.cluster.Keyed) (ha : w.cluster.SelectsApart id)
    (ht : Handles w.cluster id t) :
    Ensures (steps (.inMemory delay now) t) w fun _ w' => Tallies (w.cluster.isEntry id) w w' := by
  have hid := ht.id_eq hk
  subst hid
  have hsilent := (submits_prepare (s := .inMemory delay now) (t := t)).routine.metrics_exec w
  have hprepare : Step.Settles prepare (.inMemory delay now) t w
      (Prepared (.inMemory delay now) t w ∧ InPlace t w.cluster)
      fun _ w' => Tallies (w.cluster.isEntry t.id) w w' :=
    Or.imp_right (fun ⟨hr, h⟩ => ⟨hr, .of_undrained (.prepares hk ha ht h.prepares) hsilent⟩)
      (prepare_settles hk).settled
  rw [steps_eq]
  refine hprepare.bind (fun outcome w₁ h => ?ok) fun _ _ h => ?error
  case error =>
    cases h
    case inl h => cases h.left
    case inr h => exact h.right
  case ok =>
    cases h
    case inr h =>
      cases outcome with
      | nothingToDo => exact absurd rfl h.left
      | requeueNow | requeueAfter => exact .pure h.right
    case inl h =>
      obtain ⟨hr, hw, hprepared, hplace⟩ := h
      cases hr
      subst hw
      refine Drain.ensures_staleNode?_bind hk (fun _ => .pure .refl) fun n hn => ?_
      refine Drain.node_tallies hk hn.stored (ht.selected hn) fun hsfc hf => ⟨t.spec, ht.spec?, ?_⟩
      -- Where the module is not wanted, the preparation has left no SFC marker that could go.
      by_contra hw
      have hgone := hplace.stripped.unwanted (eq_false_of_ne_true hw) n hn.stored hf
      simp [hgone] at hsfc

theorem report_tallies {ready : Bool} {reason message : String} :
    Ensures (report (.inMemory delay now) t ready reason message) w fun _ w' =>
      Tallies (c.isEntry id) w w' := by
  have hsilent := (routine_report (s := .inMemory delay now) (t := t) ready reason message).metrics_exec w
  have hreport : Succeeds (report (.inMemory delay now) t ready reason message) w _ := ensures_report ..
  have ⟨_, _, h⟩ := hreport
  exact .of_undrained (.reported h) hsilent

theorem uncounted_tallies (hk : w.cluster.Keyed) (ha : w.cluster.SelectsApart id) :
    Ensures (uncounted (.inMemory delay now) id) w fun _ w' => Tallies (w.cluster.isEntry id) w w' := by
  refine .read rfl ?_
  split
  case h_1 ho =>
    have hsilent := (Sweep.routine_allMarkers (s := .inMemory delay now) id).metrics_exec w
    have hswept : Succeeds (Sweep.allMarkers (.inMemory delay now) id) w _ := Sweep.ensures_allMarkers hk
    have htallies : Succeeds (Sweep.allMarkers (.inMemory delay now) id) w fun _ w' =>
        Tallies (w.cluster.isEntry id) w w' := by
      have ⟨a, hr, hrel, _⟩ := hswept
      exact ⟨a, hr, .of_undrained (.gone ho hrel) hsilent⟩
    exact htallies.bind fun _ _ h => h
  case h_2 o ho =>
    rw [present]
    split
    case isTrue => exact .pure .refl
    case isFalse hkept =>
      refine .ofExcept_bind (fun t ht => ?_) fun _ _ => .refl
      have hto := (Target.of_eq ht).left
      subst hto
      split
      case h_2 => exact report_tallies.bind (fun _ _ h => .throw h) fun _ _ h => h
      case h_1 hv =>
        have ht : Handles w.cluster id t := ⟨ho, by simpa using hkept, ht, hv⟩
        refine (steps_tallies hk ha ht).bind (fun outcome w₁ h => ?_) fun _ _ h => h
        cases outcome with
        | nothingToDo =>
          exact report_tallies.bind (fun _ _ h' => .pure (h.trans h')) fun _ _ h' => h.trans h'
        | requeueNow | requeueAfter => exact .pure h

theorem passes_uncounted {σ : Type} (s : Setup σ) (id : Identity) (w : World σ) :
    Ensures (uncounted s id) w fun _ w' => w'.metrics.passes = w.metrics.passes := by
  have hroutine : Routine s False (call s (.getOnload id)) :=
    (Submits.call (P := fun _ => True) rfl).routine
  have hread : Ensures (call s (.getOnload id)) w fun _ w' => w'.metrics.passes = w.metrics.passes :=
    hroutine.passes_exec w
  refine hread.bind (fun found w₁ h => ?_) fun _ _ h => h
  cases found with
  | some o => exact ((routine_present o).passes_exec w₁).trans h
  | none =>
    have hroutine : Routine s False (Sweep.allMarkers s id) := Sweep.routine_allMarkers id
    have hsweep : Ensures (Sweep.allMarkers s id) w₁ fun _ w' => w'.metrics.passes = w.metrics.passes :=
      (hroutine.passes_exec w₁).trans h
    exact hsweep.bind (fun _ _ h => h) fun _ _ h => h

end Reconcile

-- What a pass counts: itself, by its result, and what it drains.
structure World.Counts (id : Identity) (w : World Cluster) (r : Except OperatorError StepOutcome)
    (w' : World Cluster) : Prop where
  result : w'.metrics.passCount (Reconcile.resultOf r) = w.metrics.passCount (Reconcile.resultOf r) + 1
  others : ∀ result, result ≠ Reconcile.resultOf r →
    w'.metrics.passCount result = w.metrics.passCount result
  drains : Tallies (w.cluster.isEntry id) w w'
  blocked : ∀ j ∈ w.cluster.blockedEvictions, ¬w.cluster.Evicts w'.cluster j

theorem counts_afterPass (hk : w.cluster.Keyed) (ha : w.cluster.SelectsApart id) :
    w.Counts id (w.passAnswer id delay now) (w.afterPass id delay now) := by
  have hpasses := Reconcile.passes_uncounted (.inMemory delay now) id w
  have hcount (result : PassResult) :
      (exec (Reconcile.uncounted (.inMemory delay now) id) w).2.metrics.passCount result =
        w.metrics.passCount result := congrArg (fun passes => (passes.get? result.label).getD 0) hpasses
  refine ⟨?result, fun result hne => ?others, Reconcile.uncounted_tallies hk ha, fun j hj he => ?blocked⟩
  case result => exact (Metrics.passCount_recordPass_self ..).trans (congrArg (· + 1) (hcount _))
  case others => exact (Metrics.passCount_recordPass_other _ hne).trans (hcount _)
  case blocked =>
    have ⟨t, n, h⟩ := emptying_of_evicts hk he
    have ⟨_, _, _, _, hfree⟩ := (h.evicts_iff hk).mp he
    exact hfree hj

-- Passes for any resources, one after the other, and whatever others do to the cluster in between.
inductive Rounds (w : World Cluster) : World Cluster → Type
  | start : Rounds w w
  | pass {w₁ : World Cluster} (r : Rounds w w₁) (id : Identity) (delay : Duration) (now : Timestamp) :
    Rounds w (w₁.afterPass id delay now)
  | step {w₁ : World Cluster} (r : Rounds w w₁) (c : Cluster) (hk : c.Keyed) :
    Rounds w { w₁ with cluster := c }

namespace Rounds

-- What holds of every pass: of its resource, the world before it, its answer and the world after it.
def Passes (P : Identity → World Cluster → Except OperatorError StepOutcome → World Cluster → Prop)
    {w' : World Cluster} : Rounds w w' → Prop
  | start => True
  | @pass _ w₁ r id delay now =>
    r.Passes P ∧ P id w₁ (w₁.passAnswer id delay now) (w₁.afterPass id delay now)
  | step r _ _ => r.Passes P

def results {w' : World Cluster} : Rounds w w' → List PassResult
  | start => []
  | @pass _ w₁ r id delay now => Reconcile.resultOf (w₁.passAnswer id delay now) :: r.results
  | step r _ _ => r.results

-- How many entries of an action of a drain the log got by passes.
def entries (a : DrainAction) {w' : World Cluster} : Rounds w w' → Nat
  | start => 0
  | @pass _ w₁ r id delay now => r.entries a +
    ((w₁.afterPass id delay now).cluster.actions.drop w₁.cluster.writes).countP (w₁.cluster.isEntry id a)
  | step r _ _ => r.entries a

theorem keyed (r : Rounds w w') (hk : w.cluster.Keyed) : w'.cluster.Keyed := by
  induction r with
  | start => exact hk
  | pass r id delay now hi => exact keyed_afterPass delay now hi
  | step r c hk => exact hk

end Rounds

-- Every pass counts itself and what it drains, so that the counts are those of all passes together.
theorem counts_of_rounds (r : Rounds w w') (hk : w.cluster.Keyed)
    (ha : r.Passes fun id w₁ _ _ => w₁.cluster.SelectsApart id) :
    (r.Passes fun id w₁ answer w₂ => w₁.Counts id answer w₂) ∧
    (∀ result, w'.metrics.passCount result = w.metrics.passCount result + r.results.count result) ∧
    ∀ a, w'.metrics.drainCount a = w.metrics.drainCount a + r.entries a := by
  induction r with
  | start => exact ⟨trivial, fun _ => rfl, fun _ => rfl⟩
  | step r c _ hi => exact hi ha
  | @pass w₁ r id delay now hi =>
    have ⟨ha, hapart⟩ := ha
    have ⟨hpasses, hresults, hentries⟩ := hi ha
    have hcounts : w₁.Counts id (w₁.passAnswer id delay now) (w₁.afterPass id delay now) :=
      counts_afterPass (r.keyed hk) hapart
    refine ⟨⟨hpasses, hcounts⟩, fun result => ?_, fun a => ?_⟩
    · rw [Rounds.results, List.count_cons, ← Nat.add_assoc, ← hresults]
      by_cases h : result = Reconcile.resultOf (w₁.passAnswer id delay now)
      case pos => rw [h, hcounts.result, if_pos (beq_self_eq_true _)]
      case neg => rw [hcounts.others result h, if_neg (by simpa using Ne.symm h), Nat.add_zero]
    · have ⟨added, hactions, hadded⟩ := hcounts.drains
      rw [hadded, hentries, Rounds.entries, hactions, Cluster.writes, List.drop_left, Nat.add_assoc]

-- A pass takes the ready marker from a node, and the next one evicts one of two users on it, and is
-- refused the other one.
theorem counts_of_rounds_refused :
    ∃ (w w' : World Cluster) (r : Rounds w w'), w.cluster.Keyed ∧
      (r.Passes fun id w₁ _ _ => w₁.cluster.SelectsApart id) ∧
      (r.Passes fun id w₁ answer w₂ => w₁.Counts id answer w₂) ∧ r.results = [.wait, .requeue] ∧
      w'.metrics.passCount .wait = 1 ∧ w'.metrics.drainCount .removeReady = 1 ∧
      w'.metrics.drainCount .evict = 1 := by
  let user (name : String) := (Pod.onNode ⟨"other", name⟩ "a" .empty).requesting onloadResource "1"
  let edits : List Edit :=
    [.putPod (user "free"), .putPod (user "guarded"), .blockEviction ⟨"other", "guarded"⟩]
  let before := Sample.world "2" "2" [Sample.openWorker "a" "1"]
  let w := { before with cluster := Edit.applyAll edits before.cluster }
  let r : Rounds w _ :=
    Rounds.start.pass Sample.resource .zero Sample.now |>.pass Sample.resource .zero Sample.now
  have hk : w.cluster.Keyed := (Sample.keyed_world ..).applyAll _
  have ha : r.Passes fun id w₁ _ _ => w₁.cluster.SelectsApart id :=
    ⟨⟨trivial, by decide +kernel⟩, by decide +kernel⟩
  have hresults : r.results = [.wait, .requeue] := by decide +kernel
  have hready : r.entries .removeReady = 1 := by decide +kernel
  have hevict : r.entries .evict = 1 := by decide +kernel
  have ⟨hcounts, hpasses, hdrains⟩ := counts_of_rounds r hk ha
  refine ⟨w, _, r, hk, ha, hcounts, hresults, ?_, ?_, ?_⟩
  · rw [hpasses, hresults]
    rfl
  · rw [hdrains, hready]
    rfl
  · rw [hdrains, hevict]
    rfl

end KernelRollout
