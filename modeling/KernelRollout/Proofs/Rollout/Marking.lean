import KernelRollout.Proofs.Rollout.Sweep

namespace KernelRollout

open Pass

variable {delay : Duration} {now : Timestamp} {w : World Cluster} {t : Target} {n : Node}

namespace Node

variable {key : String} {v : Option String} {k : Nat} {selector : Labels}

theorem matches_iff : (LabelQuery.ofLabels selector).selects n.metadata.labels = true ↔
    ∀ key v, selector.get? key = some v → n.label? key = some v := by
  simp only [LabelQuery.ofLabels, LabelQuery.selects, List.all_map, List.all_eq_true, Function.comp,
    LabelRequirement.holds, decide_eq_true_eq, ← label?_eq]
  constructor
  case mp => exact fun h key v hv => h (key, v) (Dict.get?_eq_some_iff.mp hv)
  case mpr => exact fun h e he => h e.1 e.2 (Dict.get?_eq_some_iff.mpr he)

-- A label that the selector does not ask for makes no difference.
theorem matches_relabelled (h : selector.get? key = none) :
    (LabelQuery.ofLabels selector).selects (n.relabelled key v k).metadata.labels =
      (LabelQuery.ofLabels selector).selects n.metadata.labels := by
  rw [Bool.eq_iff_iff, matches_iff, matches_iff]
  refine forall₃_congr fun key' v' hv => ?_
  rw [label?_relabelled, if_neg]
  intro he
  simp [he, h] at hv

end Node

-- The selector does not ask for a label that a selected node lacks.
theorem Target.selects_relabelled {key : String} {v : Option String} {k : Nat}
    (hs : t.selects n = true) (hl : n.label? key = none) :
    t.selects (n.relabelled key v k) = true := by
  refine (Node.matches_relabelled ?_).trans hs
  cases hv : t.spec.selector.get? key with
  | none => rfl
  | some v =>
    have := Node.matches_iff.mp hs key v hv
    simp [hl] at this

namespace Marking

-- Every selected node has the marker of each module that it needs.
def Supplied (t : Target) (c : Cluster) : Prop :=
  ∀ n, c.Stores n → t.selects n = true → (t.marker? .loader n).isSome = true ∧ needsSfc t n = false

-- The nodes that take patches have none of the markers that they should not keep.
structure Stripped (t : Target) (c : Cluster) : Prop where
  unselected : ∀ n, c.Stores n → t.selects n = false → c.refuses n.name = false →
    ∀ m, t.marker? m n = none
  unwanted   : t.sfcWanted = false → ∀ n, c.Stores n → c.refuses n.name = false →
    t.marker? .sfc n = none

-- Every selected node with a current module is open.
def Opened (t : Target) (c : Cluster) : Prop :=
  ∀ n, c.Stores n → t.selects n = true → becomesReady t n = false

theorem insertByName_of_first {ns : List Node} (h : ∀ m ∈ ns, n.name < m.name) :
    insertByName n ns = n :: ns := by
  cases ns with
  | nil => rfl
  | cons m ms => rw [insertByName, if_pos (String.not_lt.mp (String.lt_asymm (h m (by simp))))]

theorem sortByName_of_sorted {ns : List Node} (h : ns.Pairwise (·.name < ·.name)) :
    sortByName ns = ns := by
  induction ns with
  | nil => rfl
  | cons n ns hi =>
    have ⟨hn, hns⟩ := List.pairwise_cons.mp h
    rw [sortByName, hi hns, insertByName_of_first hn]

theorem ensures_selectedNodes_bind {β : Type} {f : List Node → Pass Cluster β}
    {post : Except OperatorError β → World Cluster → Prop} (hk : w.cluster.Keyed)
    (h : Ensures (f (w.cluster.listNodes t.selector)) w post) :
    Ensures (selectedNodes (.inMemory delay now) t >>= f) w post := by
  have hsorted := sortByName_of_sorted (Cluster.listNodes_pairwise (q := t.selector) hk)
  exact .read (congrArg (fun ns => (Except.ok ns, w)) hsorted) h

-- What comes of the request of a module on a node.
inductive Requested (t : Target) (kind : ModuleKind) (n : Node) (w : World Cluster) :
    Except OperatorError (Option Node) → World Cluster → Prop
  | waiting (hp : w.cluster.listPods (loaderPods t kind n.name) ≠ []) :
    Requested t kind n w (.ok none) w
  | refused (hp : w.cluster.listPods (loaderPods t kind n.name) = [])
    (hf : w.cluster.refuses n.name = true) :
    Requested t kind n w (.error (.cluster (Cluster.refusal n.name))) w
  | marked (hp : w.cluster.listPods (loaderPods t kind n.name) = [])
    (hf : w.cluster.refuses n.name = false) :
    Requested t kind n w
      (.ok (some (n.relabelled (t.key kind.marker) (some t.version) (w.cluster.version + 1))))
      { w with cluster := w.cluster.relabel n (t.key kind.marker) (some t.version) }

theorem ensures_request (hs : w.cluster.Stores n) (kind : ModuleKind) :
    Ensures (request (.inMemory delay now) t kind n) w (Requested t kind n w) := by
  refine .read rfl ?_
  cases hp : w.cluster.listPods (loaderPods t kind n.name) with
  | cons p ps => exact .pure (.waiting (by simp [hp]))
  | nil =>
    refine (ensures_patch hs (some t.version)).map ?ok ?error
    case ok =>
      intro _ _ h
      cases h with
      | changed hf => exact .marked hp hf
    case error =>
      intro _ _ h
      cases h with
      | refused hf => exact .refused hp hf

-- Where the requests on some nodes end, and what it means that nothing changed.
structure Requesting (t : Target) (on : Node → Prop) (needless : Prop) (w : World Cluster)
    (r : Except OperatorError (Option Bool)) (w' : World Cluster) : Prop where
  relabelling : Relabelling t.id (Requests t) w.cluster w'.cluster
  others      : ∀ x, w.cluster.Stores x → ¬on x → w'.cluster.Stores x
  changes     : ∀ changed, r = .ok (some changed) → Changes w changed w'
  needless    : r = .ok (some false) → needless
  smooth      : Smooth t w.cluster → ∃ changed, r = .ok (some changed)
  failure     : ∀ e, r = .error e → Failure w.cluster e

namespace Requesting

variable {on on' : Node → Prop} {needless needless' : Prop} {r : Except OperatorError (Option Bool)}
variable {m : Marker} {v : Option String} {w₁ w' : World Cluster} {changed : Bool}

theorem unneeded (h : needless) : Requesting t on needless w (.ok (some false)) w where
  relabelling := .refl
  others _ hx _ := hx
  changes _ h := by
    cases h
    exact .refl
  needless _ := h
  smooth _ := ⟨false, rfl⟩
  failure _ h := nomatch h

theorem waiting {kind : ModuleKind} {node : String}
    (h : w.cluster.listPods (loaderPods t kind node) ≠ []) :
    Requesting t on needless w (.ok none) w where
  relabelling := .refl
  others _ hx _ := hx
  changes _ h := nomatch h
  needless h := nomatch h
  smooth hs := absurd (hs.loaders kind node) h
  failure _ h := nomatch h

theorem refused {name : String} (h : w.cluster.refuses name = true) :
    Requesting t on needless w (.error (.cluster (Cluster.refusal name))) w where
  relabelling := .refl
  others _ hx _ := hx
  changes _ h := nomatch h
  needless h := nomatch h
  smooth hs := absurd h (by simp [hs.patches])
  failure _ he := by
    cases he
    exact .refused name h

-- Requests that go on after a marker was set.
theorem marked (hs : w.cluster.Stores n) (hr : Requests t n m v) (hon : ∀ x, x.name = n.name → on x)
    (h : Requesting t on needless { w with cluster := w.cluster.relabel n (t.key m) v } r w') :
    Requesting t on needless' w (r.map (·.map fun _ => true)) w' where
  relabelling := .step hs hr h.relabelling
  others x hx hn := h.others x (hx.relabel_other (hn <| hon x ·)) hn
  changes changed hr' := by
    have hw : w.cluster.writes < w'.cluster.writes := by
      refine Nat.lt_of_lt_of_le ?_ h.relabelling.writes_le
      rw [Cluster.writes_relabel]
      exact Nat.lt_succ_self _
    match r, hr' with
    | .ok (some _), hr' =>
      cases hr'
      exact ⟨nofun, fun _ => hw⟩
  needless hr' := match r, hr' with
    | .ok (some _), hr' => nomatch hr'
  smooth hsmooth := by
    have ⟨changed, hr⟩ := h.smooth (hsmooth.relabelling (.single hs hr))
    exact ⟨true, by rw [hr]; rfl⟩
  failure e he := match r, he with
    | .error _, he => by
      cases he
      exact (h.failure e rfl).of_relabelling (.single hs hr)

-- Requests that end here, with a node that has to wait or refuses patches.
theorem stop (h : Requesting t on needless w r w') (hon : ∀ x, on x → on' x)
    (hr : ∀ changed, r ≠ .ok (some changed)) : Requesting t on' needless' w r w' where
  relabelling := h.relabelling
  others x hx hn := h.others x hx (mt (hon x) hn)
  changes changed h := absurd h (hr changed)
  needless h := absurd h (hr false)
  smooth hs := h.smooth hs
  failure := h.failure

-- Requests on one node, and then on the nodes after it.
theorem cons {ns : List Node} {needless : Node → Prop}
    (h₁ : Requesting t (·.name = n.name) (needless n) w (.ok (some changed)) w₁)
    (h₂ : Requesting t (fun x => ∃ y ∈ ns, x.name = y.name) (∀ y ∈ ns, needless y) w₁ r w') :
    Requesting t (fun x => ∃ y ∈ n :: ns, x.name = y.name) (∀ y ∈ n :: ns, needless y) w
      (r.map (·.map (changed || ·))) w' where
  relabelling := h₁.relabelling.trans h₂.relabelling
  others x hx hn := by
    simp only [List.mem_cons, exists_eq_or_imp, not_or] at hn
    exact h₂.others x (h₁.others x hx hn.left) hn.right
  changes _ hr := match r, hr with
    | .ok (some rest), hr => by
      cases hr
      exact (h₁.changes changed rfl).trans (h₂.changes rest rfl)
  needless hr := match r, hr with
    | .ok (some rest), hr => by
      have hor : (changed || rest) = false := by simpa [Except.map] using hr
      have ⟨hc, hrest⟩ := Bool.or_eq_false_iff.mp hor
      subst hc hrest
      exact List.forall_mem_cons.mpr ⟨h₁.needless rfl, h₂.needless rfl⟩
  smooth hs := by
    have ⟨rest, hr⟩ := h₂.smooth (hs.relabelling h₁.relabelling)
    exact ⟨changed || rest, by rw [hr]; rfl⟩
  failure e he := match r, he with
    | .error _, he => by
      cases he
      exact (h₂.failure e rfl).of_relabelling h₁.relabelling

-- A step that stops at a node asks for the next pass later, if at all.
theorem progress {outcome : Except OperatorError StepOutcome}
    (h : Requesting t on needless w r w') (hr : ∀ changed, r ≠ .ok (some changed))
    (ho : outcome ≠ .ok .requeueNow) (he : ∀ e, outcome = .error e → r = .error e) :
    Progress t w.cluster outcome w'.cluster := by
  refine .of_stopped ho (fun hs => ?_) fun e h' => h.failure e (he e h')
  have ⟨changed, hchanged⟩ := h.smooth hs
  exact hr changed hchanged

end Requesting

theorem ensures_requestSfc (hs : w.cluster.Stores n) (hsel : t.selects n = true) :
    Ensures (requestSfc (.inMemory delay now) t n) w
      (Requesting t (·.name = n.name) (needsSfc t n = false) w) := by
  rw [requestSfc]
  split
  case isFalse h => exact .pure (.unneeded (by simpa using h))
  case isTrue h =>
    simp only [needsSfc, Bool.and_eq_true, Option.isNone_iff_eq_none, decide_eq_true_eq] at h
    have ⟨⟨hw, hn⟩, hl⟩ := h
    refine (ensures_request hs .sfc).bind ?ok ?error
    case ok =>
      intro _ _ h
      cases h with
      | waiting hp => exact .waiting hp
      | marked => exact .marked hs (.sfc hsel hw hn hl) (fun _ h => h) (.unneeded trivial)
    case error =>
      intro e _ h
      cases h with
      | refused _ hf => exact .refused hf

theorem ensures_requestModules (hs : w.cluster.Stores n) (hsel : t.selects n = true) :
    Ensures (requestModules (.inMemory delay now) t n) w
      (Requesting t (·.name = n.name)
        ((t.marker? .loader n).isSome = true ∧ needsSfc t n = false) w) := by
  rw [requestModules]
  split
  case isTrue h =>
    refine (ensures_requestSfc hs hsel).mono fun r w' hr => ?_
    exact ⟨hr.relabelling, hr.others, hr.changes, fun hf => ⟨h, hr.needless hf⟩, hr.smooth,
      hr.failure⟩
  case isFalse h =>
    have hl : t.marker? .loader n = none := by simpa using h
    refine (ensures_request hs .onload).bind ?ok ?error
    case ok =>
      intro _ _ h
      cases h with
      | waiting hp => exact .waiting hp
      | marked =>
        -- The second request is for the node as the first patch answered it.
        refine (ensures_requestSfc Cluster.stores_relabelled (t.selects_relabelled hsel hl)).bind ?_ ?_
        · exact fun r w' hr => .pure (hr.marked hs (.loader hsel hl) fun _ h => h)
        · exact fun e w' hr => hr.marked hs (.loader hsel hl) fun _ h => h
    case error =>
      intro e _ h
      cases h with
      | refused _ hf => exact .refused hf

theorem ensures_requestOnNodes {ns : List Node} (hs : ∀ n ∈ ns, w.cluster.Stores n)
    (hsel : ∀ n ∈ ns, t.selects n = true) (hd : ns.Pairwise (·.name ≠ ·.name)) :
    Ensures (requestOnNodes (.inMemory delay now) t ns) w
      (Requesting t (fun x => ∃ n ∈ ns, x.name = n.name)
        (∀ n ∈ ns, (t.marker? .loader n).isSome = true ∧ needsSfc t n = false) w) := by
  induction ns generalizing w with
  | nil => exact .unneeded (by simp)
  | cons n ns hi =>
    have ⟨hne, hd⟩ := List.pairwise_cons.mp hd
    have hn := hs n (by simp)
    have hon : ∀ x : Node, x.name = n.name → ∃ y ∈ n :: ns, x.name = y.name :=
      fun x hx => ⟨n, by simp, hx⟩
    refine (ensures_requestModules hn (hsel n (by simp))).bind ?ok ?error
    case error => exact fun e w' h => h.stop hon (by simp)
    case ok =>
      intro changed? w₁ h₁
      cases changed? with
      | none => exact .pure (h₁.stop hon (by simp))
      | some changed =>
        -- The nodes after this one are still as they were listed.
        have hs₁ : ∀ x ∈ ns, w₁.cluster.Stores x :=
          fun x hx => h₁.others x (hs x (by simp [hx])) (hne x hx).symm
        refine (hi hs₁ (fun x hx => hsel x (by simp [hx])) hd).bind ?ok ?error
        case ok => exact fun rest w' h₂ => .pure (h₁.cons h₂)
        case error => exact fun e w' h₂ => h₁.cons h₂

-- Three sweeps that leave everything as it is have found nothing to take.
theorem stripped_of_cleared {c : Cluster} (hready : Sweep.Cleared t.id .ready t.selects c c)
    (hsfc : Sweep.Cleared t.id .sfc (fun n => t.sfcWanted && keepsModules t n) c c)
    (hloader : Sweep.Cleared t.id .loader (keepsModules t) c c) : Stripped t c := by
  constructor
  case unselected =>
    intro n hn hsel hf
    have hr : t.marker? .ready n = none := hready.lost hn hf hsel
    have hkeep := keepsModules_eq_false.mpr ⟨hsel, hr⟩
    intro m
    cases m with
    | loader => exact hloader.lost hn hf hkeep
    | sfc => exact hsfc.lost hn hf (by simp [hkeep])
    | ready => exact hr
  case unwanted => exact fun hw n hn hf => hsfc.lost hn hf (by simp [hw])

theorem ensures_dropStale (hk : w.cluster.Keyed) :
    Succeeds (dropStale (.inMemory delay now) t) w fun changed w' =>
      Relabelling t.id (Drops t) w.cluster w'.cluster ∧ Changes w changed w' ∧
      (changed = false → Stripped t w.cluster) := by
  refine (Sweep.ensures_label (Drops t) hk fun n _ hkeep hp _ => .ready hkeep hp).bind ?_
  intro ready w₁ ⟨hrel₁, hready, hw₁⟩
  have hk₁ := hrel₁.keyed hk
  refine (Sweep.ensures_label (Drops t) hk₁ fun n _ hkeep hp _ => .sfc hkeep hp).bind ?_
  intro sfc w₂ ⟨hrel₂, hsfc, hw₂⟩
  have hk₂ := hrel₂.keyed hk₁
  have hdrops : ∀ n, w₂.cluster.Stores n → keepsModules t n = false →
      (n.label? (t.key .loader)).isSome = true → w₂.cluster.refuses n.name = false →
      Drops t n .loader none := by
    intro n hn hkeep hp hf
    exact .loader hkeep (hsfc.lost hn (hrel₂.refuses ▸ hf) (by simp [hkeep])) hp
  refine (Sweep.ensures_label (Drops t) hk₂ hdrops).bind ?_
  intro loader w₃ ⟨hrel₃, hloader, hw₃⟩
  refine .pure ⟨_, rfl, hrel₁.trans (hrel₂.trans hrel₃), (hw₁.trans hw₂).trans hw₃, fun h => ?_⟩
  simp only [Bool.or_eq_false_iff] at h
  have ⟨⟨hf₁, hf₂⟩, hf₃⟩ := h
  have he₁ := hw₁.unchanged hf₁
  have he₂ := hw₂.unchanged hf₂
  have he₃ := hw₃.unchanged hf₃
  subst he₃ he₂ he₁
  exact stripped_of_cleared hready hsfc hloader

theorem loaderMarkers_settles (hk : w.cluster.Keyed) :
    Step.Settles loaderMarkers (.inMemory delay now) t w
      (Supplied t w.cluster ∧ Stripped t w.cluster) fun r w' =>
      (Relabelling t.id (Requests t) w.cluster w'.cluster ∨
        Relabelling t.id (Drops t) w.cluster w'.cluster) ∧ Progress t w.cluster r w'.cluster := by
  refine ensures_selectedNodes_bind hk ?_
  have hmem : ∀ n, n ∈ w.cluster.listNodes t.selector ↔ w.cluster.Stores n ∧ t.selects n = true :=
    fun n => Cluster.mem_listNodes hk
  have hnames := (Cluster.listNodes_pairwise (q := t.selector) hk).imp String.ne_of_lt
  refine (ensures_requestOnNodes (fun n hn => ((hmem n).mp hn).left)
    (fun n hn => ((hmem n).mp hn).right) hnames).bind ?ok ?error
  case error =>
    refine fun e w' h => .inr ⟨nofun, .inl h.relabelling, h.progress nofun nofun fun e' he => ?_⟩
    cases he
    rfl
  case ok =>
    intro changed? w₁ h
    cases changed? with
    | none => exact .pure (.inr ⟨nofun, .inl h.relabelling, h.progress nofun nofun nofun⟩)
    | some changed =>
      cases changed with
      | true =>
        exact .pure (.inr ⟨nofun, .inl h.relabelling, .of_writes ((h.changes true rfl).changed rfl)⟩)
      | false =>
        have hw := (h.changes false rfl).unchanged rfl
        have hsupplied := h.needless rfl
        subst hw
        refine (ensures_dropStale hk).map ?_
        intro changed w' ⟨hrel, hchanges, hstripped⟩
        cases changed with
        | true => exact .inr ⟨nofun, .inr hrel, .of_writes (hchanges.changed rfl)⟩
        | false =>
          refine .inl ⟨rfl, hchanges.unchanged rfl, fun n hn hs => ?_, hstripped rfl⟩
          exact hsupplied n ((hmem n).mpr ⟨hn, hs⟩)

theorem ensures_markReady {ns : List Node} (hs : ∀ n ∈ ns, w.cluster.Stores n)
    (hr : ∀ n ∈ ns, Opens t n .ready (some t.version)) (hd : ns.Pairwise (·.name ≠ ·.name)) :
    Ensures (markReady (.inMemory delay now) t ns) w fun r w' =>
      Relabelling t.id (Opens t) w.cluster w'.cluster ∧
      (r = .ok () → w.cluster.writes + ns.length ≤ w'.cluster.writes) ∧
      (Smooth t w.cluster → r = .ok ()) ∧ (∀ e, r = .error e → Failure w.cluster e) := by
  induction ns generalizing w with
  | nil => exact ⟨.refl, fun _ => Nat.le_refl _, fun _ => rfl, nofun⟩
  | cons n ns hi =>
    have ⟨hne, hd⟩ := List.pairwise_cons.mp hd
    have hn := hs n (by simp)
    have hopens := hr n (by simp)
    refine (ensures_patch hn (some t.version)).bind ?ok ?error
    case ok =>
      intro _ _ h
      cases h
      have hs : ∀ x ∈ ns, (w.cluster.relabel n (t.key .ready) (some t.version)).Stores x :=
        fun x hx => (hs x (by simp [hx])).relabel_other (hne x hx).symm
      refine (hi hs (fun x hx => hr x (by simp [hx])) hd).mono ?_
      intro r w' ⟨hrel, hw, hsmooth, hfailure⟩
      have hfirst : Relabelling t.id (Opens t) w.cluster
          (w.cluster.relabel n (t.key .ready) (some t.version)) := .single hn hopens
      refine ⟨hfirst.trans hrel, fun h => ?_, fun h => hsmooth (h.relabelling hfirst),
        fun e h => (hfailure e h).of_relabelling hfirst⟩
      have hw := hw h
      simp only [Cluster.writes_relabel] at hw
      simp only [List.length_cons]
      omega
    case error =>
      intro _ _ h
      cases h with
      | refused hf =>
        refine ⟨.refl, nofun, fun h => absurd hf (by simp [h.patches]), fun e he => ?_⟩
        cases he
        exact .refused n.name hf

theorem readyMarkers_settles (hk : w.cluster.Keyed) :
    Step.Settles readyMarkers (.inMemory delay now) t w (Opened t w.cluster) fun r w' =>
      (Relabelling t.id (Opens t) w.cluster w'.cluster ∨
        Relabelling t.id (Drops t) w.cluster w'.cluster) ∧ Progress t w.cluster r w'.cluster := by
  refine ensures_selectedNodes_bind hk ?_
  have hmem : ∀ n, n ∈ (w.cluster.listNodes t.selector).filter (becomesReady t) ↔
      (w.cluster.Stores n ∧ t.selects n = true) ∧ becomesReady t n = true := by
    intro n
    rw [List.mem_filter, Cluster.mem_listNodes hk]
    rfl
  have hnames := ((Cluster.listNodes_pairwise (q := t.selector) hk).imp String.ne_of_lt).filter
    (becomesReady t)
  generalize (w.cluster.listNodes t.selector).filter (becomesReady t) = ns at hmem hnames ⊢
  cases ns with
  | nil =>
    refine (Sweep.ensures_label (Drops t) hk fun n _ hkeep hp _ => .ready hkeep hp).map ?_
    intro changed w' ⟨hrel, _, hchanges⟩
    cases changed with
    | true => exact .inr ⟨nofun, .inr hrel, .of_writes (hchanges.changed rfl)⟩
    | false =>
      refine .inl ⟨rfl, hchanges.unchanged rfl, fun n hn hs => ?_⟩
      have : ¬becomesReady t n = true := fun h => by simpa using (hmem n).mpr ⟨⟨hn, hs⟩, h⟩
      simpa using this
  | cons n ns =>
    have hopens : ∀ x ∈ n :: ns, Opens t x .ready (some t.version) := by
      intro x hx
      have ⟨⟨_, hs⟩, hb⟩ := (hmem x).mp hx
      simp only [becomesReady, Bool.and_eq_true, decide_eq_true_eq] at hb
      exact .ready hs hb.left hb.right
    refine (ensures_markReady (fun x hx => ((hmem x).mp hx).left.left) hopens hnames).bind ?ok ?error
    case ok =>
      intro _ w' ⟨hrel, hw, _⟩
      have hw : w.cluster.writes < w'.cluster.writes :=
        Nat.lt_of_lt_of_le (Nat.lt_add_of_pos_right (by simp)) (hw rfl)
      exact .pure (.inr ⟨nofun, .inl hrel, .of_writes hw⟩)
    case error =>
      intro _ _ ⟨hrel, _, hsmooth, hfailure⟩
      refine .inr ⟨nofun, .inl hrel, .of_stopped nofun (fun h => nomatch hsmooth h) fun e he => ?_⟩
      cases he
      exact hfailure _ rfl

end Marking

end KernelRollout
