import KernelRollout.Proofs.Cluster.Abreast
import KernelRollout.Proofs.Rollout.Effect

namespace KernelRollout

open Pass
open Cluster (Abreast Starts Together Twin)

variable {α β : Type} {T : Territory} {s s₁ : Cluster} {t : Target} {id : Identity} {n n₁ : Node}
variable {delay : Duration} {now now₁ : Timestamp} {key : String} {w w₁ : World Cluster}

-- Two passes go through with answers that go together, or they fail with the same error.
inductive InStep (R : Cluster → Cluster → Prop) (V : α → α → World Cluster → World Cluster → Prop) :
    Except OperatorError α → World Cluster → Except OperatorError α → World Cluster → Prop
  | ok {a a₁ : α} {w w₁ : World Cluster} (hv : V a a₁ w w₁) (h : R w.cluster w₁.cluster) :
    InStep R V (.ok a) w (.ok a₁) w₁
  | error {w w₁ : World Cluster} (e : OperatorError) (h : R w.cluster w₁.cluster) :
    InStep R V (.error e) w (.error e) w₁

-- The two ways in which parts of passes run from two worlds. `R` holds of the clusters at the end.
def Pass.Lockstep (R : Cluster → Cluster → Prop) (p p₁ : Pass Cluster α) (w w₁ : World Cluster)
    (V : α → α → World Cluster → World Cluster → Prop) : Prop :=
  InStep R V (exec p w).1 (exec p w).2 (exec p₁ w₁).1 (exec p₁ w₁).2

-- The answers are the same.
def Pass.Same (a a₁ : α) (_ _ : World Cluster) : Prop := a = a₁

namespace Pass.Lockstep

variable {R : Cluster → Cluster → Prop} {p p₁ : Pass Cluster α} {f f₁ : α → Pass Cluster β}
variable {V : α → α → World Cluster → World Cluster → Prop}
variable {U : β → β → World Cluster → World Cluster → Prop}

theorem ends (h : Lockstep R p p₁ w w₁ V) :
    (∃ a a₁ w' w₁', exec p w = (.ok a, w') ∧ exec p₁ w₁ = (.ok a₁, w₁') ∧ V a a₁ w' w₁' ∧
      R w'.cluster w₁'.cluster) ∨
    ∃ e w' w₁', exec p w = (.error e, w') ∧ exec p₁ w₁ = (.error e, w₁') ∧
      R w'.cluster w₁'.cluster := by
  rw [Lockstep] at h
  generalize exec p w = o, exec p₁ w₁ = o₁ at h
  obtain ⟨r, w'⟩ := o
  obtain ⟨r₁, w₁'⟩ := o₁
  cases h with
  | ok hv hr => exact .inl ⟨_, _, w', w₁', rfl, rfl, hv, hr⟩
  | error e hr => exact .inr ⟨e, w', w₁', rfl, rfl, hr⟩

theorem same (h : Lockstep R p p₁ w w₁ Same) :
    (exec p₁ w₁).1 = (exec p w).1 ∧ R (exec p w).2.cluster (exec p₁ w₁).2.cluster := by
  obtain ⟨a, a₁, w', w₁', he, he₁, hv, hr⟩ | ⟨e, w', w₁', he, he₁, hr⟩ := h.ends
  · rw [he, he₁]
    exact ⟨congrArg Except.ok (Eq.symm hv), hr⟩
  · rw [he, he₁]
    exact ⟨rfl, hr⟩

theorem pure {a a₁ : α} (hv : V a a₁ w w₁) (h : R w.cluster w₁.cluster) :
    Lockstep R (Pure.pure a) (Pure.pure a₁) w w₁ V :=
  .ok hv h

theorem throw (e : OperatorError) (h : R w.cluster w₁.cluster) :
    Lockstep R (MonadExcept.throw e) (MonadExcept.throw e) w w₁ V :=
  .error e h

theorem bind (h : Lockstep R p p₁ w w₁ V) (hf : ∀ a a₁ w' w₁', V a a₁ w' w₁' →
      R w'.cluster w₁'.cluster → Lockstep R (f a) (f₁ a₁) w' w₁' U) :
    Lockstep R (p >>= f) (p₁ >>= f₁) w w₁ U := by
  rw [Lockstep, exec_bind, exec_bind]
  obtain ⟨a, a₁, w', w₁', he, he₁, hv, hr⟩ | ⟨e, w', w₁', he, he₁, hr⟩ := h.ends
  · rw [he, he₁]
    exact hf a a₁ w' w₁' hv hr
  · rw [he, he₁]
    exact .error e hr

theorem bind_same (h : Lockstep R p p₁ w w₁ Same)
    (hf : ∀ a w' w₁', R w'.cluster w₁'.cluster → Lockstep R (f a) (f₁ a) w' w₁' U) :
    Lockstep R (p >>= f) (p₁ >>= f₁) w w₁ U := by
  refine h.bind fun a a₁ w' w₁' he hr => ?_
  have he : a = a₁ := he
  exact he ▸ hf a w' w₁' hr

-- What is only read goes into what follows.
theorem read {a a₁ : α} (h : exec p w = (.ok a, w)) (h₁ : exec p₁ w₁ = (.ok a₁, w₁))
    (hf : Lockstep R (f a) (f₁ a₁) w w₁ U) : Lockstep R (p >>= f) (p₁ >>= f₁) w w₁ U := by
  rw [Lockstep, exec_bind, exec_bind, h, h₁]
  exact hf

theorem map {g g₁ : α → β} (h : Lockstep R p p₁ w w₁ V)
    (hg : ∀ a a₁ w' w₁', V a a₁ w' w₁' → U (g a) (g₁ a₁) w' w₁') :
    Lockstep R (g <$> p) (g₁ <$> p₁) w w₁ U := by
  rw [map_eq_pure_bind, map_eq_pure_bind]
  exact h.bind fun a a₁ w' w₁' hv hr => .pure (hg a a₁ w' w₁' hv) hr

theorem ofExcept_bind {r : Except OperatorError α} (h : R w.cluster w₁.cluster)
    (hf : ∀ a, r = .ok a → Lockstep R (f a) (f₁ a) w w₁ U) :
    Lockstep R (Pass.ofExcept r >>= f) (Pass.ofExcept r >>= f₁) w w₁ U := by
  cases r with
  | ok a => exact .read rfl rfl (hf a rfl)
  | error e => exact .error e h

theorem attempt_bind {c c₁ : Call α} {g g₁ : Except ClusterError α → Pass Cluster β}
    {r r₁ : Except ClusterError α} {c' c₁' : Cluster} (h : w.cluster.answer c = (r, c'))
    (h₁ : w₁.cluster.answer c₁ = (r₁, c₁'))
    (hg : Lockstep R (g r) (g₁ r₁) { w with cluster := c' } { w₁ with cluster := c₁' } U) :
    Lockstep R (Pass.attempt (.inMemory delay now) c >>= g)
      (Pass.attempt (.inMemory delay now₁) c₁ >>= g₁) w w₁ U := by
  rw [Lockstep, exec_bind, exec_bind, exec_attempt, exec_attempt]
  simp only [Setup.inMemory, Cluster.client, h, h₁]
  exact hg

theorem countDrain (a : DrainAction) (h : R w.cluster w₁.cluster) :
    Lockstep R (Pass.countDrain a) (Pass.countDrain a) w w₁ Same :=
  .ok rfl h

-- What is known of each side by itself.
theorem and {post post₁ : Except OperatorError α → World Cluster → Prop}
    (h : Lockstep R p p₁ w w₁ V) (hp : Ensures p w post) (hp₁ : Ensures p₁ w₁ post₁) :
    Lockstep R p p₁ w w₁ fun a a₁ w' w₁' => V a a₁ w' w₁' ∧ post (.ok a) w' ∧ post₁ (.ok a₁) w₁' := by
  rw [Ensures] at hp hp₁
  rw [Lockstep]
  obtain ⟨a, a₁, w', w₁', he, he₁, hv, hr⟩ | ⟨e, w', w₁', he, he₁, hr⟩ := h.ends
  · rw [he] at hp ⊢
    rw [he₁] at hp₁ ⊢
    exact .ok ⟨hv, hp, hp₁⟩ hr
  · rw [he, he₁]
    exact .error e hr

-- Steps that have nothing to do leave both sides as they were.
theorem andThen {first second : Step Cluster} {s s₁ : Setup Cluster} {done done₁ : Prop}
    {work work₁ : Except OperatorError StepOutcome → World Cluster → Prop}
    (hs : first.Settles s t w done work) (hs₁ : first.Settles s₁ t w₁ done₁ work₁)
    (h : Lockstep R (first s t) (first s₁ t) w w₁ Same)
    (h₂ : Lockstep R (second s t) (second s₁ t) w w₁ Same) :
    Lockstep R (first.andThen second s t) (first.andThen second s₁ t) w w₁ Same := by
  refine (h.and hs hs₁).bind fun outcome outcome₁ w' w₁' hv hr => ?_
  obtain ⟨he, hdone, hdone₁⟩ := hv
  have he : outcome = outcome₁ := he
  subst he
  cases outcome with
  | requeueNow | requeueAfter => exact .pure rfl hr
  | nothingToDo =>
    obtain ⟨_, hw, _⟩ | ⟨hn, _⟩ := hdone
    · obtain ⟨_, hw₁, _⟩ | ⟨hn₁, _⟩ := hdone₁
      · subst hw hw₁
        exact h₂
      · exact absurd rfl hn₁
    · exact absurd rfl hn

end Pass.Lockstep

-- Nothing that the steps of a pass look at or write belongs to the territory.
structure Target.Outside (t : Target) (T : Territory) : Prop where
  markers    : ∀ m, ¬T.labels (t.key m)
  selector   : ∀ key v, t.spec.selector.get? key = some v → ¬T.labels key
  modules    : ∀ kind, ¬T.modules (t.moduleId kind)
  daemonSets : ∀ operand ∈ [Operand.cplaneName, Operand.devicePluginName],
    ¬T.daemonSets ⟨t.id.ns, operand t.id.name⟩

theorem Sweep.overlooks_hasKey (h : ¬T.labels key) : (LabelQuery.hasKey key).Overlooks T := by
  intro n n₁ hr
  rw [selects_hasKey, selects_hasKey, hr.labels key h]

namespace Target.Outside

theorem marker?_eq (h : t.Outside T) (hr : n.Remarked T.labels n₁) (m : Marker) :
    t.marker? m n₁ = t.marker? m n :=
  hr.labels _ (h.markers m)

theorem selector_overlooks (h : t.Outside T) : t.selector.Overlooks T := by
  intro n n₁ hr
  rw [Bool.eq_iff_iff, Target.selector, Node.matches_iff, Node.matches_iff]
  refine forall₃_congr fun key v hv => ?_
  rw [hr.labels key (h.selector key v hv)]

theorem selects_eq (h : t.Outside T) (hr : n.Remarked T.labels n₁) : t.selects n₁ = t.selects n :=
  h.selector_overlooks n n₁ hr

theorem stale_overlooks (h : t.Outside T) : (t.selector.andPresent (t.key .loader)).Overlooks T := by
  intro n n₁ hr
  have hpresent (n : Node) : (LabelRequirement.present (t.key .loader)).holds
      (n.metadata.labels.getD .empty) = (n.label? (t.key .loader)).isSome := by
    rw [Node.label?_eq]
    rfl
  rw [LabelQuery.selects_andPresent, LabelQuery.selects_andPresent, hpresent, hpresent,
    h.selector_overlooks n n₁ hr, hr.labels _ (h.markers .loader)]

end Target.Outside

-- The nodes other than one are still stored as they were.
def KeepsTwins (T : Territory) (n : Node) (w w₁ w' w₁' : World Cluster) : Prop :=
  ∀ m m₁, Twin T w.cluster w₁.cluster m m₁ → m.name ≠ n.name → Twin T w'.cluster w₁'.cluster m m₁

-- The nodes that are still to come are as they were listed.
theorem KeepsTwins.rest {w' w₁' : World Cluster} {ns ns₁ : List Node} (h : KeepsTwins T n w w₁ w' w₁')
    (hns : List.Forall₂ (Twin T w.cluster w₁.cluster) ns ns₁) (hne : ∀ m ∈ ns, n.name ≠ m.name) :
    List.Forall₂ (Twin T w'.cluster w₁'.cluster) ns ns₁ := by
  have hmem := (List.forall₂_and_left ns ns₁).mpr ⟨hne, hns⟩
  exact hmem.imp fun m m₁ ⟨hne, ht⟩ => h m m₁ ht hne.symm

theorem lockstep_patch (h : Abreast T s s₁ w.cluster w₁.cluster) (ht : Twin T w.cluster w₁.cluster n n₁)
    (key : String) (v : Option String) :
    Lockstep (Abreast T s s₁) (call (.inMemory delay now) (.patchNodeLabels n (Node.change key v)))
      (call (.inMemory delay now₁) (.patchNodeLabels n₁ (Node.change key v))) w w₁ fun a a₁ w' w₁' =>
      Twin T w'.cluster w₁'.cluster a a₁ ∧ KeepsTwins T n w w₁ w' w₁' := by
  obtain ⟨e, he, he₁⟩ | ⟨he, he₁⟩ := h.answer_patchNodeLabels ht key v
  · exact .attempt_bind he he₁ (.throw _ h)
  · refine .attempt_bind he he₁ (.pure ⟨ht.relabelled key v, fun m m₁ hm hne => ?_⟩ (h.relabel ht key v))
    exact ht.relabel_other hm hne

namespace Sweep

theorem lockstep_nodes {ns ns₁ : List Node} (h : Abreast T s s₁ w.cluster w₁.cluster)
    (hns : List.Forall₂ (Twin T w.cluster w₁.cluster) ns ns₁) (hd : ns.Pairwise (·.name ≠ ·.name)) :
    Lockstep (Abreast T s s₁) (nodes (.inMemory delay now) key ns) (nodes (.inMemory delay now₁) key ns₁)
      w w₁ Same := by
  induction ns generalizing ns₁ w w₁ with
  | nil =>
    cases hns
    exact .pure rfl h
  | cons n ns hi =>
    obtain _ | ⟨ht, hns⟩ := hns
    have ⟨hne, hd⟩ := List.pairwise_cons.mp hd
    obtain ⟨e, he, he₁⟩ | ⟨he, he₁⟩ := h.answer_patchNodeLabels ht key none
    · exact .attempt_bind he he₁ ((hi h hns hd).bind_same fun _ _ _ h => .pure rfl h)
    · have hkeeps : KeepsTwins T n w w₁ { w with cluster := w.cluster.relabel n key none }
          { w₁ with cluster := w₁.cluster.relabel _ key none } :=
        fun m m₁ hm hne => ht.relabel_other hm hne
      refine .attempt_bind he he₁ ((hi (h.relabel ht key none) (hkeeps.rest hns hne) hd).bind_same ?_)
      exact fun _ _ _ h => .pure rfl h

theorem lockstep_label {keep : Node → Bool} (h : Abreast T s s₁ w.cluster w₁.cluster)
    (hkey : ¬T.labels key) (hkeep : ∀ n n₁, n.Remarked T.labels n₁ → keep n₁ = keep n) :
    Lockstep (Abreast T s s₁) (label (.inMemory delay now) key keep)
      (label (.inMemory delay now₁) key keep) w w₁ Same := by
  have htwins := Twin.filter (p := (!keep ·)) (h.twins (overlooks_hasKey hkey))
    fun n n₁ hr => by rw [hkeep n n₁ hr]
  have hnames := (Cluster.listNodes_pairwise (q := .hasKey key) h.keyed).imp String.ne_of_lt
  exact .read rfl rfl (lockstep_nodes h htwins (hnames.filter _))

theorem lockstep_allMarkers (h : Abreast T s s₁ w.cluster w₁.cluster)
    (hid : ∀ m : Marker, ¬T.labels (m.key id)) :
    Lockstep (Abreast T s s₁) (allMarkers (.inMemory delay now) id) (allMarkers (.inMemory delay now₁) id)
      w w₁ Same := by
  refine (lockstep_label h (hid .ready) fun _ _ _ => rfl).bind_same fun _ _ _ h => ?_
  refine (lockstep_label h (hid .sfc) fun _ _ _ => rfl).bind_same fun _ _ _ h => ?_
  exact (lockstep_label h (hid .loader) fun _ _ _ => rfl).bind_same fun _ _ _ h => .pure rfl h

end Sweep

namespace Marking

variable {kind : ModuleKind}

theorem lockstep_selectedNodes_bind {f f₁ : List Node → Pass Cluster α}
    {V : α → α → World Cluster → World Cluster → Prop} (h : Abreast T s s₁ w.cluster w₁.cluster)
    (ht : t.Outside T)
    (hf : List.Forall₂ (Twin T w.cluster w₁.cluster) (w.cluster.listNodes t.selector)
        (w₁.cluster.listNodes t.selector) →
      (w.cluster.listNodes t.selector).Pairwise (·.name ≠ ·.name) →
      Lockstep (Abreast T s s₁) (f (w.cluster.listNodes t.selector)) (f₁ (w₁.cluster.listNodes t.selector))
        w w₁ V) :
    Lockstep (Abreast T s s₁) (selectedNodes (.inMemory delay now) t >>= f)
      (selectedNodes (.inMemory delay now₁) t >>= f₁) w w₁ V := by
  have hsorted {w : World Cluster} (hk : w.cluster.Keyed) :=
    sortByName_of_sorted (Cluster.listNodes_pairwise (q := t.selector) hk)
  refine .read (congrArg (fun ns => (Except.ok ns, w)) (hsorted h.keyed))
    (congrArg (fun ns => (Except.ok ns, w₁)) (hsorted h.keyed₁)) (hf (h.twins ht.selector_overlooks) ?_)
  exact (Cluster.listNodes_pairwise h.keyed).imp String.ne_of_lt

-- Both sides have to wait, or both go on.
theorem lockstep_request (h : Abreast T s s₁ w.cluster w₁.cluster)
    (htwin : Twin T w.cluster w₁.cluster n n₁) (kind : ModuleKind) :
    Lockstep (Abreast T s s₁) (request (.inMemory delay now) t kind n)
      (request (.inMemory delay now₁) t kind n₁) w w₁
      fun a a₁ w' w₁' => Option.Rel (fun x x₁ => Twin T w'.cluster w₁'.cluster x x₁) a a₁ := by
  refine .read rfl rfl ?_
  rw [htwin.name_eq, h.listPods_isEmpty]
  split
  case isTrue => exact .pure .none h
  case isFalse =>
    refine .map (lockstep_patch h htwin _ _) fun _ _ _ _ hv => .some hv.left

theorem needsSfc_eq (ht : t.Outside T) (hr : n.Remarked T.labels n₁) : needsSfc t n₁ = needsSfc t n := by
  rw [needsSfc, needsSfc, ht.marker?_eq hr, ht.marker?_eq hr]

theorem keepsModules_eq (ht : t.Outside T) (hr : n.Remarked T.labels n₁) :
    keepsModules t n₁ = keepsModules t n := by
  rw [keepsModules, keepsModules, ht.selects_eq hr, ht.marker?_eq hr]

theorem becomesReady_eq (ht : t.Outside T) (hr : n.Remarked T.labels n₁) :
    becomesReady t n₁ = becomesReady t n := by
  rw [becomesReady, becomesReady, ht.marker?_eq hr, ht.marker?_eq hr]

theorem lockstep_requestSfc (h : Abreast T s s₁ w.cluster w₁.cluster) (ht : t.Outside T)
    (htwin : Twin T w.cluster w₁.cluster n n₁) :
    Lockstep (Abreast T s s₁) (requestSfc (.inMemory delay now) t n)
      (requestSfc (.inMemory delay now₁) t n₁) w w₁ Same := by
  rw [requestSfc, requestSfc, needsSfc_eq ht htwin.remarked]
  split
  case isTrue =>
    refine (lockstep_request h htwin .sfc).bind fun a a₁ w' w₁' hv hr => .pure ?_ hr
    cases hv <;> rfl
  case isFalse => exact .pure rfl h

theorem lockstep_requestModules (h : Abreast T s s₁ w.cluster w₁.cluster) (ht : t.Outside T)
    (htwin : Twin T w.cluster w₁.cluster n n₁) :
    Lockstep (Abreast T s s₁) (requestModules (.inMemory delay now) t n)
      (requestModules (.inMemory delay now₁) t n₁) w w₁ Same := by
  rw [requestModules, requestModules, ht.marker?_eq htwin.remarked]
  split
  case isTrue => exact lockstep_requestSfc h ht htwin
  case isFalse =>
    refine (lockstep_request h htwin .onload).bind fun a a₁ w' w₁' hv hr => ?_
    cases hv with
    | none => exact .pure rfl hr
    | some htwin => exact (lockstep_requestSfc hr ht htwin).bind_same fun _ _ _ h => .pure rfl h

theorem lockstep_requestOnNodes {ns ns₁ : List Node} (h : Abreast T s s₁ w.cluster w₁.cluster)
    (ht : t.Outside T) (hns : List.Forall₂ (Twin T w.cluster w₁.cluster) ns ns₁)
    (hsel : ∀ n ∈ ns, t.selects n = true) (hd : ns.Pairwise (·.name ≠ ·.name)) :
    Lockstep (Abreast T s s₁) (requestOnNodes (.inMemory delay now) t ns)
      (requestOnNodes (.inMemory delay now₁) t ns₁) w w₁ Same := by
  induction ns generalizing ns₁ w w₁ with
  | nil =>
    cases hns
    exact .pure rfl h
  | cons n ns hi =>
    obtain _ | ⟨htwin, hns⟩ := hns
    have ⟨hne, hd⟩ := List.pairwise_cons.mp hd
    have hseln := hsel n (by simp)
    refine ((lockstep_requestModules h ht htwin).and (ensures_requestModules htwin.stored hseln)
      (ensures_requestModules htwin.stored₁ (ht.selects_eq htwin.remarked ▸ hseln))).bind ?_
    rintro changed changed₁ w' w₁' ⟨he, hrequests, hrequests₁⟩ hr
    have he : changed = changed₁ := he
    subst he
    cases changed with
    | none => exact .pure rfl hr
    | some changed =>
      have hkeeps : KeepsTwins T n w w₁ w' w₁' := by
        intro m m₁ hm hne
        refine ⟨hrequests.others m hm.stored hne, hrequests₁.others m₁ hm.stored₁ ?_, hm.remarked⟩
        rwa [hm.name_eq, htwin.name_eq]
      refine (hi hr (hkeeps.rest hns hne) (fun x hx => hsel x (by simp [hx])) hd).bind_same ?_
      exact fun _ _ _ h => .pure rfl h

theorem lockstep_dropStale (h : Abreast T s s₁ w.cluster w₁.cluster) (ht : t.Outside T) :
    Lockstep (Abreast T s s₁) (dropStale (.inMemory delay now) t) (dropStale (.inMemory delay now₁) t)
      w w₁ Same := by
  have hkeeps {n n₁ : Node} (hr : n.Remarked T.labels n₁) := keepsModules_eq ht hr
  refine (Sweep.lockstep_label h (ht.markers .ready) fun _ _ hr => ht.selects_eq hr).bind_same ?_
  intro _ _ _ h
  refine (Sweep.lockstep_label h (ht.markers .sfc) fun n n₁ hr => by rw [hkeeps hr]).bind_same ?_
  intro _ _ _ h
  refine (Sweep.lockstep_label h (ht.markers .loader) fun n n₁ hr => hkeeps hr).bind_same ?_
  exact fun _ _ _ h => .pure rfl h

theorem lockstep_loaderMarkers (h : Abreast T s s₁ w.cluster w₁.cluster) (ht : t.Outside T) :
    Lockstep (Abreast T s s₁) (loaderMarkers (.inMemory delay now) t)
      (loaderMarkers (.inMemory delay now₁) t) w w₁ Same := by
  refine lockstep_selectedNodes_bind h ht fun hns hd => ?_
  have hsel : ∀ n ∈ w.cluster.listNodes t.selector, t.selects n = true :=
    fun n hn => ((Cluster.mem_listNodes h.keyed).mp hn).right
  refine (lockstep_requestOnNodes h ht hns hsel hd).bind_same fun changed _ _ h => ?_
  match changed with
  | none => exact .pure rfl h
  | some true => exact .pure rfl h
  | some false => exact (lockstep_dropStale h ht).map fun _ _ _ _ he => congrArg _ he

theorem lockstep_markReady {ns ns₁ : List Node} (h : Abreast T s s₁ w.cluster w₁.cluster)
    (hns : List.Forall₂ (Twin T w.cluster w₁.cluster) ns ns₁) (hd : ns.Pairwise (·.name ≠ ·.name)) :
    Lockstep (Abreast T s s₁) (markReady (.inMemory delay now) t ns)
      (markReady (.inMemory delay now₁) t ns₁) w w₁ Same := by
  induction ns generalizing ns₁ w w₁ with
  | nil =>
    cases hns
    exact .pure rfl h
  | cons n ns hi =>
    obtain _ | ⟨htwin, hns⟩ := hns
    have ⟨hne, hd⟩ := List.pairwise_cons.mp hd
    refine (lockstep_patch h htwin _ _).bind fun _ _ _ _ ⟨_, hkeeps⟩ h => ?_
    exact hi h (hkeeps.rest hns hne) hd

theorem lockstep_readyMarkers (h : Abreast T s s₁ w.cluster w₁.cluster) (ht : t.Outside T) :
    Lockstep (Abreast T s s₁) (readyMarkers (.inMemory delay now) t)
      (readyMarkers (.inMemory delay now₁) t) w w₁ Same := by
  refine lockstep_selectedNodes_bind h ht fun hns hd => ?_
  have hready : List.Forall₂ (Twin T w.cluster w₁.cluster)
      ((w.cluster.listNodes t.selector).filter (becomesReady t))
      ((w₁.cluster.listNodes t.selector).filter (becomesReady t)) :=
    Twin.filter hns fun _ _ hr => becomesReady_eq ht hr
  have hd := hd.filter (becomesReady t)
  generalize (w.cluster.listNodes t.selector).filter (becomesReady t) = ns,
    (w₁.cluster.listNodes t.selector).filter (becomesReady t) = ns₁ at hready hd ⊢
  cases hready with
  | nil =>
    refine (Sweep.lockstep_label h (ht.markers .ready) fun _ _ hr => ht.selects_eq hr).map ?_
    exact fun _ _ _ _ he => congrArg _ he
  | cons htwin hns =>
    exact (lockstep_markReady h (.cons htwin hns) hd).bind_same fun _ _ _ h => .pure rfl h

end Marking

-- A call that goes through on both sides, after which the step asks for the next pass.
theorem lockstep_write {call : Call α} (h : Together T w.cluster w₁.cluster call) :
    Lockstep (Abreast T w.cluster w₁.cluster)
      (Pass.call (.inMemory delay now) call >>= fun _ => pure StepOutcome.requeueNow)
      (Pass.call (.inMemory delay now₁) call >>= fun _ => pure StepOutcome.requeueNow) w w₁ Same := by
  obtain ⟨a, a₁, c, c₁, he, he₁, h⟩ := h
  have hcall : Lockstep (Abreast T w.cluster w₁.cluster) (Pass.call (.inMemory delay now) call)
      (Pass.call (.inMemory delay now₁) call) w w₁ fun _ _ _ _ => True :=
    .attempt_bind he he₁ (.pure trivial h)
  exact hcall.bind fun _ _ _ _ _ h => .pure rfl h

namespace Provision

theorem lockstep_kernelModule (h : Starts T w.cluster w₁.cluster) (ht : t.Outside T) (kind : ModuleKind) :
    Lockstep (Abreast T w.cluster w₁.cluster) (kernelModule (.inMemory delay now) t kind)
      (kernelModule (.inMemory delay now₁) t kind) w w₁ Same := by
  have hsame := h.within.modules _ (ht.modules kind)
  refine .read rfl rfl ?_
  rw [hsame]
  split
  case h_1 hnone _ =>
    refine .ofExcept_bind h.abreast fun m hm => lockstep_write ?_
    have hid := (Operand.of_kernelModule hm).left
    exact h.createModule (hid ▸ ht.modules kind) (hid ▸ hnone)
  case h_2 m hsome _ => exact lockstep_write (h.deleteModule (ht.modules kind) hsome)
  case h_3 => exact .pure rfl h.abreast

theorem lockstep_daemonSet {name : String} {d : DaemonSet} (h : Starts T w.cluster w₁.cluster)
    (hid : Cluster.idOf d = ⟨t.id.ns, name⟩) (ht : ¬T.daemonSets ⟨t.id.ns, name⟩) :
    Lockstep (Abreast T w.cluster w₁.cluster) (daemonSet (.inMemory delay now) t name d)
      (daemonSet (.inMemory delay now₁) t name d) w w₁ Same := by
  refine .read rfl rfl ?_
  rw [h.within.daemonSets _ ht]
  split
  case h_1 => exact .pure rfl h.abreast
  case h_2 hnone => exact lockstep_write (h.createDaemonSet (hid ▸ ht) (hid ▸ hnone))

theorem lockstep_daemonSets (h : Starts T w.cluster w₁.cluster) (ht : t.Outside T) :
    Lockstep (Abreast T w.cluster w₁.cluster) (daemonSets (.inMemory delay now) t)
      (daemonSets (.inMemory delay now₁) t) w w₁ Same := by
  refine .ofExcept_bind h.abreast fun cplane hcplane => .ofExcept_bind h.abreast fun plugin hplugin => ?_
  have ⟨hid, _⟩ := Operand.of_daemonSet hcplane
  have ⟨hid', _⟩ := Operand.of_daemonSet hplugin
  exact .andThen (daemonSet_settles .cplane hcplane) (daemonSet_settles .cplane hcplane)
    (lockstep_daemonSet h hid (ht.daemonSets _ (by simp)))
    (lockstep_daemonSet h hid' (ht.daemonSets _ (by simp)))

end Provision

namespace Renewal

theorem lockstep_daemonSet {built : DaemonSet} (h : Starts T w.cluster w₁.cluster)
    (ht : ¬T.daemonSets ⟨t.id.ns, built.metadata.name.getD ""⟩) :
    Lockstep (Abreast T w.cluster w₁.cluster) (daemonSet (.inMemory delay now) t built)
      (daemonSet (.inMemory delay now₁) t built) w w₁ Same := by
  refine .read rfl rfl ?_
  rw [h.within.daemonSets _ ht]
  split
  case h_1 => exact .pure rfl h.abreast
  case h_2 live hlive =>
    split
    case isTrue => exact .pure rfl h.abreast
    case isFalse =>
      have hid : Cluster.idOf (renewedDaemonSet live built) = ⟨t.id.ns, built.metadata.name.getD ""⟩ :=
        h.keyed.daemonSets _ live hlive
      have hstored : w.cluster.daemonSets.get? (Cluster.idOf (renewedDaemonSet live built)) = some live :=
        hid ▸ hlive
      exact lockstep_write (h.replaceDaemonSet (hid ▸ ht) hstored rfl)

theorem lockstep_kernelModule (h : Starts T w.cluster w₁.cluster) (ht : t.Outside T) (kind : ModuleKind) :
    Lockstep (Abreast T w.cluster w₁.cluster) (kernelModule (.inMemory delay now) t kind)
      (kernelModule (.inMemory delay now₁) t kind) w w₁ Same := by
  have hmodule := ht.modules kind
  refine .read rfl rfl ?_
  rw [h.within.modules _ hmodule]
  split
  case h_1 => exact .pure rfl h.abreast
  case h_2 live hlive =>
    split
    case isTrue => exact lockstep_write (h.deleteModule hmodule hlive)
    case isFalse =>
      split
      case isTrue => exact .pure rfl h.abreast
      case isFalse =>
        refine .ofExcept_bind h.abreast fun built _ => ?_
        have hid : Cluster.idOf (renewedModule live built) = t.moduleId kind :=
          h.keyed.modules _ live hlive
        have hstored : w.cluster.modules.get? (Cluster.idOf (renewedModule live built)) = some live :=
          hid ▸ hlive
        exact lockstep_write (h.replaceModule (hid ▸ hmodule) hstored rfl)

-- A daemon set is renewed under the name that it was built with.
theorem lockstep_built {name : String} {r : Except OperatorError DaemonSet}
    (h : Starts T w.cluster w₁.cluster) (hr : ∀ d, r = .ok d → Cluster.idOf d = ⟨t.id.ns, name⟩)
    (ht : ¬T.daemonSets ⟨t.id.ns, name⟩) :
    Lockstep (Abreast T w.cluster w₁.cluster) (Pass.ofExcept r >>= daemonSet (.inMemory delay now) t)
      (Pass.ofExcept r >>= daemonSet (.inMemory delay now₁) t) w w₁ Same := by
  refine .ofExcept_bind h.abreast fun built hbuilt => lockstep_daemonSet h ?_
  have hname : built.metadata.name.getD "" = name := congrArg (·.name) (hr built hbuilt)
  exact hname ▸ ht

theorem lockstep_operands (h : Starts T w.cluster w₁.cluster) (ht : t.Outside T) :
    Lockstep (Abreast T w.cluster w₁.cluster) (operands (.inMemory delay now) t)
      (operands (.inMemory delay now₁) t) w w₁ Same := by
  have hplugin : Lockstep (Abreast T w.cluster w₁.cluster) (devicePlugin (.inMemory delay now) t)
      (devicePlugin (.inMemory delay now₁) t) w w₁ Same :=
    lockstep_built h (fun _ hd => (Operand.of_daemonSet hd).left) (ht.daemonSets _ (by simp))
  have hcplane : Lockstep (Abreast T w.cluster w₁.cluster) (cplane (.inMemory delay now) t)
      (cplane (.inMemory delay now₁) t) w w₁ Same :=
    lockstep_built h (fun _ hd => (Operand.of_daemonSet hd).left) (ht.daemonSets _ (by simp))
  exact .andThen (builtDaemonSet_settles .devicePlugin h.keyed)
      (builtDaemonSet_settles .devicePlugin h.keyed₁) hplugin <|
    .andThen (kernelModule_settles h.keyed .onload) (kernelModule_settles h.keyed₁ .onload)
      (lockstep_kernelModule h ht .onload) <|
    .andThen (kernelModule_settles h.keyed .sfc) (kernelModule_settles h.keyed₁ .sfc)
      (lockstep_kernelModule h ht .sfc) hcplane

end Renewal

namespace Drain

theorem isStale_eq (ht : t.Outside T) (hr : n.Remarked T.labels n₁) : isStale t n₁ = isStale t n := by
  rw [isStale, isStale, ht.marker?_eq hr]

-- Both sides take the same node first.
theorem twin_firstByName {c c₁ : Cluster} {ns ns₁ : List Node} (hns : List.Forall₂ (Twin T c c₁) ns ns₁) :
    Option.Rel (Twin T c c₁) (firstByName ns) (firstByName ns₁) := by
  induction hns with
  | nil => exact .none
  | @cons n n₁ ns ns₁ ht hns hi =>
    rw [firstByName, firstByName]
    generalize firstByName ns = first, firstByName ns₁ = first₁ at hi
    cases hi with
    | none => exact .some ht
    | @some m m₁ hm =>
      dsimp only
      rw [hm.name_eq, ht.name_eq]
      split
      case isTrue => exact .some hm
      case isFalse => exact .some ht

theorem lockstep_removeMarker (h : Abreast T s s₁ w.cluster w₁.cluster)
    (htwin : Twin T w.cluster w₁.cluster n n₁) (m : Marker) (a : DrainAction) :
    Lockstep (Abreast T s s₁) (removeMarker (.inMemory delay now) t m a n)
      (removeMarker (.inMemory delay now₁) t m a n₁) w w₁ Same := by
  refine (lockstep_patch h htwin _ _).bind fun _ _ _ _ _ h => ?_
  exact (Lockstep.countDrain a h).bind_same fun _ _ _ h => .pure rfl h

-- Pods that terminate already may be evicted as well.
theorem afterEvictions_eq {c : Cluster} {ps : List Pod}
    (h : ∀ p ∈ ps, p.metadata.terminating = true → c.Terminating p.metadata.identity) :
    afterEvictions c ((ps.filter (!·.metadata.terminating)).map (·.metadata.identity)) =
      afterEvictions c (ps.map (·.metadata.identity)) := by
  induction ps generalizing c with
  | nil => rfl
  | cons p ps hi =>
    have hrest : ∀ q ∈ ps, q.metadata.terminating = true →
        (c.evictPod p.metadata.identity).2.Terminating q.metadata.identity :=
      fun q hq ht => (Cluster.Thins.evictPod c _).terminating (h q (by simp [hq]) ht)
    cases ht : p.metadata.terminating with
    | false =>
      rw [List.filter_cons_of_pos (by simp [ht]), List.map_cons, List.map_cons]
      exact hi hrest
    | true =>
      have hsame : (c.evictPod p.metadata.identity).2 = c := Cluster.evictPod_of_terminating (h p (by simp) ht)
      rw [List.filter_cons_of_neg (by simp [ht]), List.map_cons, hi (hsame ▸ hrest)]
      show _ = afterEvictions (c.evictPod p.metadata.identity).2 _
      rw [hsame]

theorem abreast_afterEvictions {c c₁ : Cluster} (h : Abreast T s s₁ c c₁) (ids : List Identity) :
    Abreast T s s₁ (afterEvictions c ids) (afterEvictions c₁ ids) := by
  induction ids generalizing c c₁ with
  | nil => exact h
  | cons id ids hi => exact hi (h.evictPod id)

-- A pod that is listed as terminating terminates.
theorem terminating_of_listed {c : Cluster} {q : PodQuery} {p : Pod} (hk : c.Keyed)
    (hp : p ∈ (c.listPods q).filter isUser) (ht : p.metadata.terminating = true) :
    c.Terminating p.metadata.identity := by
  have ⟨j, hj, _⟩ := Cluster.mem_listPods.mp (List.mem_filter.mp hp).left
  have hid : p.metadata.identity = j := hk.pods j p hj
  intro p' hp'
  rw [hid, hj] at hp'
  cases hp'
  exact ht

-- Pods that go on one side already are not evicted there again.
theorem lockstep_evictAll {q : PodQuery} (h : Abreast T s s₁ w.cluster w₁.cluster) :
    Lockstep (Abreast T s s₁)
      (evictAll (.inMemory delay now)
        (((w.cluster.listPods q).filter isUser).filter (!·.metadata.terminating)))
      (evictAll (.inMemory delay now₁)
        (((w₁.cluster.listPods q).filter isUser).filter (!·.metadata.terminating))) w w₁ Same := by
  have hids : ((w₁.cluster.listPods q).filter isUser).map (·.metadata.identity) =
      ((w.cluster.listPods q).filter isUser).map (·.metadata.identity) := by
    have hboth := (h.users q).flip.imp fun (p₁ p : Pod) (hp : ∃ since, p.Beside since p₁) =>
      hp.elim fun _ hp => hp.identity_eq
    rwa [← List.forall₂_map_right_iff, ← List.forall₂_map_left_iff, List.forall₂_eq_eq_eq] at hboth
  have hend : Ensures (evictAll (.inMemory delay now) _) w _ :=
    evictAll_eq (((w.cluster.listPods q).filter isUser).filter (!·.metadata.terminating))
  have hend₁ : Ensures (evictAll (.inMemory delay now₁) _) w₁ _ :=
    evictAll_eq (((w₁.cluster.listPods q).filter isUser).filter (!·.metadata.terminating))
  rw [afterEvictions_eq fun p hp => terminating_of_listed h.keyed hp] at hend
  rw [afterEvictions_eq fun p hp => terminating_of_listed h.keyed₁ hp, hids] at hend₁
  rw [Ensures] at hend hend₁
  rw [Lockstep, hend.left, hend₁.left]
  refine .ok rfl ?_
  rw [hend.right, hend₁.right]
  exact abreast_afterEvictions h _

theorem lockstep_node (h : Abreast T s s₁ w.cluster w₁.cluster) (ht : t.Outside T)
    (htwin : Twin T w.cluster w₁.cluster n n₁) :
    Lockstep (Abreast T s s₁) (node (.inMemory delay now) t n) (node (.inMemory delay now₁) t n₁)
      w w₁ Same := by
  rw [node, node, ht.marker?_eq htwin.remarked, htwin.name_eq]
  split
  case isTrue => exact lockstep_removeMarker h htwin _ _
  case isFalse =>
    refine .read rfl rfl ?_
    rw [h.listPods_isEmpty]
    split
    case isTrue => exact .pure rfl h
    case isFalse =>
      refine .read rfl rfl ?_
      have husers := h.users (.onNode n.name)
      have hevicts : Lockstep (Abreast T s s₁) (evictAll (.inMemory delay now) _)
          (evictAll (.inMemory delay now₁) _) w w₁ Same := lockstep_evictAll (q := .onNode n.name) h
      generalize (w.cluster.listPods (.onNode n.name)).filter isUser = ps,
        (w₁.cluster.listPods (.onNode n.name)).filter isUser = ps₁ at husers hevicts ⊢
      cases husers with
      | nil =>
        dsimp only
        rw [removeModules, removeModules, ht.marker?_eq htwin.remarked]
        split <;> exact lockstep_removeMarker h htwin _ _
      | cons => exact hevicts.bind_same fun _ _ _ h => .pure rfl h

theorem lockstep_staleNodes (h : Abreast T s s₁ w.cluster w₁.cluster) (ht : t.Outside T) :
    Lockstep (Abreast T s s₁) (staleNodes (.inMemory delay now) t) (staleNodes (.inMemory delay now₁) t)
      w w₁ Same := by
  have hfirst := twin_firstByName <|
    Twin.filter (h.twins ht.stale_overlooks) fun _ _ hr => isStale_eq ht hr
  refine .read rfl rfl ?_
  generalize firstByName ((w.cluster.listNodes _).filter (isStale t)) = first,
    firstByName ((w₁.cluster.listNodes _).filter (isStale t)) = first₁ at hfirst ⊢
  cases hfirst with
  | none => exact .pure rfl h
  | some htwin => exact lockstep_node h ht htwin

end Drain

namespace Reconcile

theorem lockstep_steps (h : Starts T w.cluster w₁.cluster) (ht : t.Outside T) :
    Lockstep (Abreast T w.cluster w₁.cluster) (steps (.inMemory delay now) t)
      (steps (.inMemory delay now₁) t) w w₁ Same :=
  .andThen (Marking.loaderMarkers_settles h.keyed) (Marking.loaderMarkers_settles h.keyed₁)
    (Marking.lockstep_loaderMarkers h.abreast ht) <|
  .andThen Provision.kernelModules_settles Provision.kernelModules_settles
    (.andThen (Provision.kernelModule_settles .onload) (Provision.kernelModule_settles .onload)
      (Provision.lockstep_kernelModule h ht .onload) (Provision.lockstep_kernelModule h ht .sfc)) <|
  .andThen (Marking.readyMarkers_settles h.keyed) (Marking.readyMarkers_settles h.keyed₁)
    (Marking.lockstep_readyMarkers h.abreast ht) <|
  .andThen Provision.daemonSets_settles Provision.daemonSets_settles
    (Provision.lockstep_daemonSets h ht) <|
  .andThen (Renewal.operands_settles h.keyed) (Renewal.operands_settles h.keyed₁)
    (Renewal.lockstep_operands h ht) (Drain.lockstep_staleNodes h.abreast ht)

theorem timeless_withReady (o : Onload) (ready : Bool) (reason message : String) (now now₁ : Timestamp) :
    (withReady o ready reason message now₁).timeless = (withReady o ready reason message now).timeless := by
  simp [withReady, OnloadStatus.timeless]

theorem lockstep_report (h : Abreast T s s₁ w.cluster w₁.cluster) (ht : ¬T.onloads t.id) (ready : Bool)
    (reason message : String) :
    Lockstep (Abreast T s s₁) (report (.inMemory delay now) t ready reason message)
      (report (.inMemory delay now₁) t ready reason message) w w₁ Same := by
  rw [report, report]
  split
  case isTrue => exact .pure rfl h
  case isFalse =>
    exact .attempt_bind rfl rfl (.pure rfl (h.patchOnloadStatus ht (timeless_withReady ..)))

theorem lockstep_valid (h : Starts T w.cluster w₁.cluster) (ht : t.Outside T) (hid : ¬T.onloads t.id) :
    Lockstep (Abreast T w.cluster w₁.cluster) (valid (.inMemory delay now) t)
      (valid (.inMemory delay now₁) t) w w₁ Same := by
  refine (lockstep_steps h ht).bind_same fun outcome _ _ h => ?_
  cases outcome with
  | nothingToDo => exact (lockstep_report h hid ..).bind_same fun _ _ _ h => .pure rfl h
  | requeueNow | requeueAfter => exact .pure rfl h

-- What belongs to a resource, and what its selector looks at, is outside of the territory.
structure Spares (T : Territory) (c : Cluster) (id : Identity) : Prop where
  markers : ∀ m : Marker, ¬T.labels (m.key id)
  onload  : ¬T.onloads id
  target  : ∀ o t, c.onloads.get? id = some o → Target.of o = .ok t → t.id = id ∧ t.Outside T

-- A pass on two clusters that differ only in what does not belong to its resource gives the same
-- answer, and leaves them side by side.
theorem lockstep_pass (h : Starts T w.cluster w₁.cluster) (hid : Spares T w.cluster id) :
    Lockstep (Abreast T w.cluster w₁.cluster) (pass (.inMemory delay now) id)
      (pass (.inMemory delay now₁) id) w w₁ Same := by
  have huncounted : Lockstep (Abreast T w.cluster w₁.cluster) (uncounted (.inMemory delay now) id)
      (uncounted (.inMemory delay now₁) id) w w₁ Same := by
    refine .read rfl rfl ?_
    rw [h.within.onloads id hid.onload]
    split
    case h_1 =>
      exact (Sweep.lockstep_allMarkers h.abreast hid.markers).bind_same fun _ _ _ h => .ok rfl h
    case h_2 o ho =>
      rw [present, present]
      split
      case isTrue => exact .pure rfl h.abreast
      case isFalse =>
        refine .ofExcept_bind h.abreast fun t hof => ?_
        obtain ⟨he, ht⟩ := hid.target o t ho hof
        have honload : ¬T.onloads t.id := he ▸ hid.onload
        split
        case h_1 => exact lockstep_valid h ht honload
        case h_2 => exact (lockstep_report h.abreast honload ..).bind_same fun _ _ _ h => .throw _ h
  -- The count of a pass is no part of the cluster.
  rw [Lockstep] at huncounted ⊢
  show InStep _ _ (exec (uncounted (.inMemory delay now) id) w).1
    { (exec (uncounted (.inMemory delay now) id) w).2 with metrics := _ }
    (exec (uncounted (.inMemory delay now₁) id) w₁).1
    { (exec (uncounted (.inMemory delay now₁) id) w₁).2 with metrics := _ }
  generalize exec (uncounted (.inMemory delay now) id) w = o,
    exec (uncounted (.inMemory delay now₁) id) w₁ = o₁ at huncounted ⊢
  obtain ⟨r, w'⟩ := o
  obtain ⟨r₁, w₁'⟩ := o₁
  cases huncounted with
  | ok he h => exact .ok he h
  | error e h => exact .error e h

end Reconcile

end KernelRollout
