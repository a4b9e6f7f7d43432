import KernelRollout.Proofs.Rollout.Drain
import KernelRollout.Rollout.Reconcile

namespace KernelRollout

open Pass
open Cluster (Aside Thins)

variable {delay : Duration} {now : Timestamp} {w : World Cluster} {t : Target} {id : Identity}
variable {c : Cluster} {n : Node} {m : Marker}

theorem Step.andThen_assoc {σ : Type} (a b c : Step σ) :
    (a.andThen b).andThen c = a.andThen (b.andThen c) := by
  funext s t
  simp only [Step.andThen, bind_assoc]
  refine congrArg (a s t >>= ·) (funext fun outcome => ?_)
  cases outcome with
  | nothingToDo => rfl
  | requeueNow | requeueAfter => simp

theorem Onload.exists_problem {o : Onload} {e : OperatorError} (h : o.validate = .error e) :
    ∃ p, e = .invalidConfig p := by
  rw [validate] at h
  repeat' split at h
  all_goals cases h
  all_goals exact ⟨_, rfl⟩

theorem Target.exists_missing {o : Onload} {e : OperatorError} (h : Target.of o = .error e) :
    ∃ f, e = .missingField f := by
  rw [Target.of] at h
  split at h <;> cases h
  all_goals exact ⟨_, rfl⟩

namespace Reconcile

-- The steps before nodes are drained.
def prepare : Step Cluster :=
  Step.andThen Marking.loaderMarkers <|
  Step.andThen Provision.kernelModules <|
  Step.andThen Marking.readyMarkers <|
  Step.andThen Provision.daemonSets Renewal.operands

theorem steps_eq : steps = Step.andThen prepare Drain.staleNodes := by
  simp only [prepare, steps, upgrade, Step.andThen_assoc]

-- All steps before the drain have nothing to do.
def Prepared (s : Setup Cluster) (t : Target) (w : World Cluster) : Prop :=
  exec (prepare s t) w = (.ok .nothingToDo, w)

-- What the steps before the drain do.
inductive Prepares (t : Target) (c c' : Cluster) : Prop
  | requested (h : Relabelling t.id (Marking.Requests t) c c')
  | dropped (h : Relabelling t.id (Marking.Drops t) c c')
  | opened (h : Relabelling t.id (Marking.Opens t) c c')
  | operated (h : Operand.Operated t c c')

-- A part of the preparation that is not done.
structure Preparing (t : Target) (c : Cluster) (r : Except OperatorError StepOutcome) (c' : Cluster) :
    Prop where
  prepares : Prepares t c c'
  progress : Progress t c r c'

-- Markers are as they should be, but for modules that are out of date, and operands are current.
structure InPlace (t : Target) (c : Cluster) : Prop where
  supplied : Marking.Supplied t c
  stripped : Marking.Stripped t c
  opened   : Marking.Opened t c
  operands : ∀ p ∈ Operand.parts t, p.Current t c

theorem prepare_settles (hk : w.cluster.Keyed) :
    Step.Settles prepare (.inMemory delay now) t w (InPlace t w.cluster) fun r w' =>
      Preparing t w.cluster r w'.cluster := by
  have hloader : Step.Settles Marking.loaderMarkers (.inMemory delay now) t w
      (Marking.Supplied t w.cluster ∧ Marking.Stripped t w.cluster)
      fun r w' => Preparing t w.cluster r w'.cluster :=
    (Marking.loaderMarkers_settles hk).mono (fun h => h)
      fun _ _ h => ⟨h.left.elim .requested .dropped, h.right⟩
  have hready : Step.Settles Marking.readyMarkers (.inMemory delay now) t w
      (Marking.Opened t w.cluster) fun r w' => Preparing t w.cluster r w'.cluster :=
    (Marking.readyMarkers_settles hk).mono (fun h => h)
      fun _ _ h => ⟨h.left.elim .opened .dropped, h.right⟩
  have hoperands {step : Step Cluster} {done : Prop} (h : step.Settles (.inMemory delay now) t w done
      fun r w' => Operand.Operates t w.cluster r w'.cluster) :
      step.Settles (.inMemory delay now) t w done fun r w' => Preparing t w.cluster r w'.cluster :=
    h.mono (fun h => h) fun _ _ h => ⟨.operated h.operated, h.progress⟩
  refine (hloader.andThen fun _ => (hoperands Provision.kernelModules_settles).andThen fun _ =>
    hready.andThen fun _ => (hoperands Provision.daemonSets_settles).andThen fun _ =>
    hoperands (Renewal.operands_settles hk)).mono ?_ fun _ _ h => h
  rintro ⟨⟨hsupplied, hstripped⟩, ⟨honload, hsfc⟩, hopened, ⟨hcplane, hplugin⟩, hrenewed⟩
  refine ⟨hsupplied, hstripped, hopened, ?_⟩
  simp only [Operand.parts, List.forall_mem_cons] at hrenewed ⊢
  obtain ⟨honload', hsfc', hcplane', hplugin', _⟩ := hrenewed
  exact ⟨honload' honload, hsfc' hsfc, hcplane' hcplane, hplugin' hplugin, by simp⟩

theorem Prepared.inPlace (hk : w.cluster.Keyed) (h : Prepared (.inMemory delay now) t w) :
    InPlace t w.cluster := by
  have hsettles : Step.Settles prepare (.inMemory delay now) t w _ _ := prepare_settles hk
  rw [Step.Settles, Ensures, h] at hsettles
  cases hsettles
  case inl hd => exact hd.right.right
  case inr hw => exact absurd rfl hw.left

-- Nothing is left to do.
structure Finished (t : Target) (c : Cluster) : Prop extends InPlace t c where
  drained : Drain.NoneOutdated t c

-- What the steps do that are not done.
inductive Advances (s : Setup Cluster) (t : Target) (w : World Cluster)
    (r : Except OperatorError StepOutcome) (c' : Cluster) : Prop
  | prepared (h : Preparing t w.cluster r c')
  | drained (n : Node) (hp : Prepared s t w) (hn : Drain.Next t w.cluster n)
    (h : Drain.Drained t n w.cluster r c')

theorem steps_settles (hk : w.cluster.Keyed) :
    Step.Settles steps (.inMemory delay now) t w (Finished t w.cluster) fun r w' =>
      Advances (.inMemory delay now) t w r w'.cluster := by
  have hprepare : Step.Settles prepare (.inMemory delay now) t w
      (Prepared (.inMemory delay now) t w ∧ InPlace t w.cluster)
      fun r w' => Advances (.inMemory delay now) t w r w'.cluster :=
    (prepare_settles hk).settled.mono (fun h => h) fun _ _ h => .prepared h
  have hdrain (hp : Prepared (.inMemory delay now) t w) :
      Step.Settles Drain.staleNodes (.inMemory delay now) t w (Drain.NoneOutdated t w.cluster)
        fun r w' => Advances (.inMemory delay now) t w r w'.cluster :=
    (Drain.staleNodes_settles hk).mono (fun h => h) fun _ _ ⟨n, hn, h⟩ => .drained n hp hn h
  rw [steps_eq]
  refine (hprepare.andThen fun h => hdrain h.left).mono ?_ fun _ _ h => h
  exact fun ⟨⟨_, hplace⟩, hdrained⟩ => ⟨hplace, hdrained⟩

-- What becomes of the condition of the resource.
inductive Reported (t : Target) (ready : Bool) (reason message : String) (c : Cluster) :
    Cluster → Prop
  | already (h : (t.onload.condition? readyCondition).any (reports ready reason message) = true) :
    Reported t ready reason message c c
  | written (now : Timestamp) : Reported t ready reason message c
    (c.patchOnloadStatus t.id (withReady t.onload ready reason message now)).2

theorem Reported.aside {ready : Bool} {reason message : String} {c' : Cluster}
    (h : Reported t ready reason message c c') : Aside c c' := by
  cases h with
  | already => exact .refl
  | written => exact .patchOnloadStatus ..

theorem Reported.eq {ready : Bool} {reason message : String} {c' : Cluster}
    (h : Reported t ready reason message c c') : c' = { c with
      onloads := c'.onloads, actions := c'.actions, version := c'.version } := by
  cases h with
  | already => rfl
  | written => exact Cluster.patchOnloadStatus_eq ..

theorem ensures_report (ready : Bool) (reason message : String) :
    Succeeds (report (.inMemory delay now) t ready reason message) w fun _ w' =>
      Reported t ready reason message w.cluster w'.cluster := by
  rw [report]
  split
  case isTrue h => exact .pure ⟨(), rfl, .already h⟩
  case isFalse => exact .attempt_bind rfl (.pure ⟨(), rfl, .written now⟩)

-- The resource is there, and a pass for it runs the steps.
structure Handles (c : Cluster) (id : Identity) (t : Target) : Prop where
  stored : c.onloads.get? id = some t.onload
  kept   : t.onload.metadata.terminating = false
  target : Target.of t.onload = .ok t
  valid  : t.onload.validate = .ok ()

theorem Target.of_eq {o : Onload} (h : Target.of o = .ok t) :
    t.onload = o ∧ t.id = Cluster.idOf o := by
  rw [Target.of] at h
  split at h
  case h_1 => cases h
  case h_2 => cases h
  case h_3 name ns hname hns =>
    cases h
    have hm : Resource.metadata o = o.metadata := rfl
    exact ⟨rfl, by simp [Cluster.idOf, Metadata.identity, hm, hname, hns]⟩

theorem Handles.id_eq (hk : c.Keyed) (h : Handles c id t) : t.id = id :=
  (Target.of_eq h.target).right.trans (hk.onloads id _ h.stored)

theorem Handles.spec? (h : Handles c id t) : c.spec? id = some t.spec := by
  rw [Cluster.spec?, h.stored]
  rfl

-- What a pass makes of the cluster.
inductive Effect (s : Setup Cluster) (id : Identity) (w : World Cluster) (c' : Cluster) : Prop
  | gone (ho : w.cluster.onloads.get? id = none)
    (h : Relabelling id (Sweep.Clears id) w.cluster c')
  | aside (h : Aside w.cluster c')
  | prepared (t : Target) (ht : Handles w.cluster id t) (h : Prepares t w.cluster c')
  | removed (t : Target) (n : Node) (m : Marker) (ht : Handles w.cluster id t) (hp : Prepared s t w)
    (hn : Drain.Next t w.cluster n) (hr : Drain.Removes t w.cluster n m)
    (hf : w.cluster.refuses n.name = false) (h : c' = w.cluster.relabel n (t.key m) none)

-- What a pass does that runs the steps.
inductive Handled (s : Setup Cluster) (t : Target) (w : World Cluster) :
    Except OperatorError StepOutcome → Cluster → Prop
  | settled {c'} (h : Finished t w.cluster)
    (hr : Reported t true "Reconciled" rolledOut w.cluster c') : Handled s t w (.ok .nothingToDo) c'
  | advanced {r c'} (hr : r ≠ .ok .nothingToDo) (h : Advances s t w r c') : Handled s t w r c'

theorem ensures_valid (hk : w.cluster.Keyed) :
    Ensures (valid (.inMemory delay now) t) w fun r w' =>
      Handled (.inMemory delay now) t w r w'.cluster := by
  refine (steps_settles hk).bind ?ok ?error
  case ok =>
    intro outcome w' h
    cases h
    case inl h =>
      have ⟨hr, hw, hfinished⟩ := h
      cases hr
      subst hw
      exact (ensures_report ..).bind fun _ _ h => .pure (.settled hfinished h)
    case inr h =>
      have ⟨hr, h⟩ := h
      cases outcome with
      | nothingToDo => exact absurd rfl hr
      | requeueNow | requeueAfter => exact .pure (.advanced hr h)
  case error =>
    intro e w' h
    cases h
    case inl h => cases h.left
    case inr h => exact .advanced nofun h.right

theorem Handled.effect {r : Except OperatorError StepOutcome} {c' : Cluster}
    (ht : Handles w.cluster id t) (h : Handled (.inMemory delay now) t w r c') :
    Effect (.inMemory delay now) id w c' := by
  cases h with
  | settled _ hr => exact .aside hr.aside
  | advanced _ h =>
    cases h with
    | prepared h => exact .prepared t ht h.prepares
    | drained n hp hn h =>
      cases h with
      | refused | occupied => exact .aside .refl
      | removed hr hf => exact .removed t n _ ht hp hn hr hf rfl
      | used _ _ _ _ h => exact .aside h.aside

-- The courses that a pass may take, each with its answer.
inductive Course (s : Setup Cluster) (id : Identity) (w : World Cluster) :
    Except OperatorError StepOutcome → Cluster → Prop
  | gone {c'} (ho : w.cluster.onloads.get? id = none)
    (h : Relabelling id (Sweep.Clears id) w.cluster c') : Course s id w (.ok .nothingToDo) c'
  | leaving (o : Onload) (ho : w.cluster.onloads.get? id = some o)
    (h : o.metadata.terminating = true) : Course s id w (.ok .nothingToDo) w.cluster
  | nameless (f : NeededField) : Course s id w (.error (.missingField f)) w.cluster
  | rejected {c'} (t : Target) (p : ConfigProblem)
    (h : Reported t false "InvalidConfig" ((OperatorError.invalidConfig p).message?.getD "")
      w.cluster c') : Course s id w (.error (.invalidConfig p)) c'
  | handled {r c'} (t : Target) (ht : Handles w.cluster id t) (h : Handled s t w r c') :
    Course s id w r c'

theorem ensures_uncounted (hk : w.cluster.Keyed) :
    Ensures (uncounted (.inMemory delay now) id) w fun r w' =>
      Course (.inMemory delay now) id w r w'.cluster := by
  refine .read rfl ?_
  split
  case h_1 ho =>
    exact (Sweep.ensures_allMarkers hk).bind fun _ _ h => .gone ho (h.left.mono fun _ _ _ hr => hr.clears)
  case h_2 o ho =>
    rw [present]
    split
    case isTrue hleaving => exact .pure (.leaving o ho hleaving)
    case isFalse hkept =>
      refine .ofExcept_bind (fun t ht => ?ok) fun e he => ?error
      case error =>
        obtain ⟨f, rfl⟩ := Target.exists_missing he
        exact .nameless f
      case ok =>
        have hto := (Target.of_eq ht).left
        subst hto
        split
        case h_1 hv =>
          have ht : Handles w.cluster id t := ⟨ho, by simpa using hkept, ht, hv⟩
          exact (ensures_valid hk).mono fun _ _ h => .handled t ht h
        case h_2 e he =>
          obtain ⟨p, rfl⟩ := Onload.exists_problem he
          exact (ensures_report ..).bind fun _ _ h => .throw (.rejected t p h)

-- What a pass can do to a cluster, whichever of its steps it gets to and wherever it fails.
theorem pass_course (hk : w.cluster.Keyed) :
    Course (.inMemory delay now) id w (exec (pass (.inMemory delay now) id) w).1
      (exec (pass (.inMemory delay now) id) w).2.cluster :=
  ensures_uncounted hk

theorem Course.effect {r : Except OperatorError StepOutcome} {c' : Cluster}
    (h : Course (.inMemory delay now) id w r c') : Effect (.inMemory delay now) id w c' := by
  cases h with
  | gone ho h => exact .gone ho h
  | leaving | nameless => exact .aside .refl
  | rejected _ _ h => exact .aside h.aside
  | handled t ht h => exact h.effect ht

theorem Handled.failure {r : Except OperatorError StepOutcome} {c' : Cluster} {e : OperatorError}
    (h : Handled (.inMemory delay now) t w r c') (hr : r = .error e) : Failure w.cluster e := by
  cases h with
  | settled => cases hr
  | advanced _ h =>
    cases h with
    | prepared h => exact h.progress.failure e hr
    | drained n _ _ h =>
      cases h with
      | refused hf =>
        cases hr
        exact .refused n.name hf
      | removed | occupied | used => cases hr

theorem Course.failure {r : Except OperatorError StepOutcome} {c' : Cluster} {e : OperatorError}
    (h : Course (.inMemory delay now) id w r c') (hr : r = .error e) : Failure w.cluster e := by
  cases h with
  | gone | leaving => cases hr
  | nameless f =>
    cases hr
    exact .missing f
  | rejected _ p =>
    cases hr
    exact .invalid p
  | handled _ _ h => exact h.failure hr

-- A prepared pass finds the next node closed and without pods of the device plugin, but there are
-- users of Onload on it.
structure Emptying (s : Setup Cluster) (id : Identity) (w : World Cluster) (t : Target) (n : Node) :
    Prop where
  handles  : Handles w.cluster id t
  prepared : Prepared s t w
  next     : Drain.Next t w.cluster n
  closed   : t.marker? .ready n = none
  noPlugin : w.cluster.listPods (Drain.pluginPods t n.name) = []
  users    : (w.cluster.listPods (.onNode n.name)).filter Drain.isUser ≠ []

-- A pass writes operands, or evicts users of Onload, or does neither.
inductive Moves (s : Setup Cluster) (id : Identity) (w : World Cluster) (c' : Cluster) : Prop
  | neither (hp : c'.pods = w.cluster.pods) (hm : c'.modules = w.cluster.modules)
    (hd : c'.daemonSets = w.cluster.daemonSets)
  | operates (t : Target) (ht : Handles w.cluster id t) (h : Operand.Operated t w.cluster c')
  | empties (t : Target) (n : Node) (he : Emptying s id w t n) (h : Thins w.cluster c')

theorem Moves.of_relabelling {s : Setup Cluster} {c' : Cluster} {i : Identity}
    {rule : Node → Marker → Option String → Prop} (h : Relabelling i rule w.cluster c') :
    Moves s id w c' :=
  .neither h.pods h.modules h.daemonSets

theorem Moves.of_reported {s : Setup Cluster} {c' : Cluster} {ready : Bool} {reason message : String}
    (h : Reported t ready reason message w.cluster c') : Moves s id w c' := by
  rw [h.eq]
  exact .neither rfl rfl rfl

theorem Course.moves {r : Except OperatorError StepOutcome} {c' : Cluster}
    (h : Course (.inMemory delay now) id w r c') : Moves (.inMemory delay now) id w c' := by
  cases h with
  | gone _ h => exact .of_relabelling h
  | leaving | nameless => exact .neither rfl rfl rfl
  | rejected _ _ h => exact .of_reported h
  | handled t ht h =>
    cases h with
    | settled _ h => exact .of_reported h
    | advanced _ h =>
      cases h with
      | prepared h =>
        cases h.prepares with
        | requested h | dropped h | opened h => exact .of_relabelling h
        | operated h => exact .operates t ht h
      | drained n hp hn h =>
        cases h with
        | refused | occupied => exact .neither rfl rfl rfl
        | removed =>
          exact .neither Cluster.pods_relabel Cluster.modules_relabel Cluster.daemonSets_relabel
        | used _ hready hplugin husers h =>
          exact .empties t n ⟨ht, hp, hn, hready, hplugin, husers⟩ h

namespace Effect

variable {s : Setup Cluster} {c' : Cluster}

theorem keyed (h : Effect s id w c') (hk : w.cluster.Keyed) : c'.Keyed := by
  cases h with
  | gone _ h => exact h.keyed hk
  | aside h => exact h.keyed hk
  | prepared t _ h =>
    cases h with
    | requested h | dropped h | opened h => exact h.keyed hk
    | operated h => exact h.aside.keyed hk
  | removed t n m _ _ _ _ _ h => exact h ▸ hk.relabel n

-- A pass does not change what resources declare.
theorem spec?_eq (h : Effect s id w c') (j : Identity) : c'.spec? j = w.cluster.spec? j := by
  rw [Cluster.spec?, Cluster.spec?]
  cases h with
  | gone _ h => rw [h.onloads]
  | aside h => exact h.specs j
  | prepared t _ h =>
    cases h with
    | requested h | dropped h | opened h => rw [h.onloads]
    | operated h => exact h.aside.specs j
  | removed t n m _ _ _ _ _ h => rw [h, Cluster.onloads_relabel]

end Effect

-- Such a pass is for the resource as it is stored, but for the count.
theorem ensures_pass_present {o : Onload} (post : Except OperatorError StepOutcome → Cluster → Prop)
    (ho : w.cluster.onloads.get? id = some o)
    (h : Ensures (present (.inMemory delay now) o) w fun r w' => post r w'.cluster) :
    Ensures (pass (.inMemory delay now) id) w fun r w' => post r w'.cluster := by
  have hread : exec (call (.inMemory delay now) (.getOnload id)) w = (.ok (some o), w) :=
    congrArg (fun o => (Except.ok o, w)) ho
  have huncounted : Ensures (uncounted (.inMemory delay now) id) w fun r w' => post r w'.cluster :=
    .read hread h
  exact huncounted

-- A pass for a resource that it handles is the valid part of the pass, but for the count.
theorem ensures_pass (post : Except OperatorError StepOutcome → Cluster → Prop)
    (ht : Handles w.cluster id t)
    (h : Ensures (valid (.inMemory delay now) t) w fun r w' => post r w'.cluster) :
    Ensures (pass (.inMemory delay now) id) w fun r w' => post r w'.cluster := by
  refine ensures_pass_present post ht.stored ?_
  rw [present, if_neg (by simp [ht.kept]), ht.target]
  refine .read (a := t) rfl ?_
  rw [ht.valid]
  exact h

theorem pass_handled (hk : w.cluster.Keyed) (ht : Handles w.cluster id t) :
    Handled (.inMemory delay now) t w (exec (pass (.inMemory delay now) id) w).1
      (exec (pass (.inMemory delay now) id) w).2.cluster :=
  ensures_pass _ ht (ensures_valid hk)

-- A prepared pass goes on to the drain.
theorem ensures_pass_prepared (post : Except OperatorError StepOutcome → Cluster → Prop)
    (ht : Handles w.cluster id t) (hp : Prepared (.inMemory delay now) t w)
    (h : Ensures (Drain.staleNodes (.inMemory delay now) t) w fun r w' =>
      r ≠ .ok .nothingToDo ∧ post r w'.cluster) :
    Ensures (pass (.inMemory delay now) id) w fun r w' => post r w'.cluster := by
  have hsteps : Ensures (steps (.inMemory delay now) t) w fun r w' =>
      r ≠ .ok .nothingToDo ∧ post r w'.cluster := by
    rw [steps_eq]
    exact .read hp h
  refine ensures_pass post ht (hsteps.bind ?ok fun _ _ h => h.right)
  intro outcome w' ⟨hr, h⟩
  cases outcome with
  | nothingToDo => exact absurd rfl hr
  | requeueNow | requeueAfter => exact .pure h

-- A prepared pass takes the ready marker from the next node, unless the node refuses patches.
theorem pass_removes_ready (hk : w.cluster.Keyed) (ht : Handles w.cluster id t)
    (hp : Prepared (.inMemory delay now) t w) (hn : Drain.Next t w.cluster n)
    (hr : (t.marker? .ready n).isSome = true) (hf : w.cluster.refuses n.name = false) :
    (exec (pass (.inMemory delay now) id) w).2.cluster =
      w.cluster.relabel n (t.key .ready) none :=
  ensures_pass_prepared (fun _ c' => c' = w.cluster.relabel n (t.key .ready) none) ht hp
    (Drain.ensures_staleNodes hk hn hr hf)

end Reconcile

end KernelRollout
