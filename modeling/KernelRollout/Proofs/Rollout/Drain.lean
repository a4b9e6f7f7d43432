import KernelRollout.Proofs.Cluster.Evictions
import KernelRollout.Proofs.Rollout.Marking
import KernelRollout.Proofs.Rollout.Operands

namespace KernelRollout

open Pass
open Cluster (Aside Thins)

variable {delay : Duration} {now : Timestamp} {w : World Cluster} {t : Target} {n x : Node}

namespace Drain

theorem firstByName_eq_none {ns : List Node} : firstByName ns = none ↔ ns = [] := by
  constructor
  case mpr => exact fun h => h ▸ rfl
  case mp =>
    intro h
    cases ns with
    | nil => rfl
    | cons n ns =>
      rw [firstByName] at h
      split at h
      case h_1 => cases h
      case h_2 => split at h <;> cases h

theorem firstByName_eq_some {ns : List Node} (h : firstByName ns = some n) :
    n ∈ ns ∧ ∀ m ∈ ns, ¬m.name < n.name := by
  induction ns generalizing n with
  | nil => cases h
  | cons a ns hi =>
    rw [firstByName] at h
    split at h
    case h_1 hn =>
      cases h
      have hnil := firstByName_eq_none.mp hn
      subst hnil
      refine ⟨by simp, fun m hm => ?_⟩
      rw [List.mem_singleton.mp hm]
      exact String.lt_irrefl _
    case h_2 m hm =>
      have ⟨hmem, hleast⟩ := hi hm
      split at h
      case isTrue hlt =>
        cases h
        exact ⟨by simp [hmem], List.forall_mem_cons.mpr ⟨String.lt_asymm hlt, hleast⟩⟩
      case isFalse hlt =>
        cases h
        refine ⟨by simp, List.forall_mem_cons.mpr ⟨String.lt_irrefl _, fun b hb hba => ?_⟩⟩
        -- A node before this one would be before the first of the others.
        refine hleast b hb ?_
        by_cases ham : a.name < m.name
        case pos => exact String.lt_trans hba ham
        case neg => exact OrderedKey.connected ham hlt ▸ hba

-- The module on a node is out of date. A node without a module has none that could be.
def Outdated (t : Target) (n : Node) : Prop := ∃ v, t.marker? .loader n = some v ∧ v ≠ t.version

-- A selected node with a module out of date, before all others by name.
structure Next (t : Target) (c : Cluster) (n : Node) : Prop where
  stored   : c.Stores n
  selected : t.selects n = true
  outdated : Outdated t n
  first    : ∀ m, c.Stores m → t.selects m = true → Outdated t m → ¬m.name < n.name

theorem Next.unique {c : Cluster} (hn : Next t c n) (hx : Next t c x) : n = x :=
  hn.stored.unique hx.stored <| OrderedKey.connected
    (hx.first n hn.stored hn.selected hn.outdated) (hn.first x hx.stored hx.selected hx.outdated)

theorem mem_stale {c : Cluster} (hk : c.Keyed) :
    n ∈ (c.listNodes (t.selector.andPresent (t.key .loader))).filter (isStale t) ↔
      c.Stores n ∧ t.selects n = true ∧ Outdated t n := by
  have hpresent : (LabelRequirement.present (t.key .loader)).holds (n.metadata.labels.getD .empty) =
      (t.marker? .loader n).isSome := by
    rw [Target.marker?, Node.label?_eq]
    rfl
  rw [List.mem_filter, Cluster.mem_listNodes hk, LabelQuery.selects_andPresent, hpresent]
  show (c.Stores n ∧ (t.selects n && _) = true) ∧ _ ↔ _
  rw [Outdated, isStale]
  cases t.marker? .loader n <;> simp [and_assoc]

-- No selected node has a module out of date.
def NoneOutdated (t : Target) (c : Cluster) : Prop :=
  ∀ n, c.Stores n → t.selects n = true → ¬Outdated t n

-- What is found is the next node, if any node has to be drained.
theorem ensures_staleNode?_bind {β : Type} {f : Option Node → Pass Cluster β}
    {post : Except OperatorError β → World Cluster → Prop} (hk : w.cluster.Keyed)
    (none : NoneOutdated t w.cluster → Ensures (f none) w post)
    (some : ∀ n, Next t w.cluster n → Ensures (f (some n)) w post) :
    Ensures (staleNode? (.inMemory delay now) t >>= f) w post := by
  refine .read rfl ?_
  have hmem : ∀ n, n ∈ (w.cluster.listNodes (t.selector.andPresent (t.key .loader))).filter
      (isStale t) ↔ w.cluster.Stores n ∧ t.selects n = true ∧ Outdated t n := fun n => mem_stale hk
  generalize (w.cluster.listNodes _).filter (isStale t) = ns at hmem ⊢
  cases h : firstByName ns with
  | none =>
    have hnil := firstByName_eq_none.mp h
    subst hnil
    exact none fun n hn hsel ho => by simpa using (hmem n).mpr ⟨hn, hsel, ho⟩
  | some n =>
    have ⟨hn, hleast⟩ := firstByName_eq_some h
    have ⟨hs, hsel, ho⟩ := (hmem n).mp hn
    exact some n ⟨hs, hsel, ho, fun m hm hmsel hmo => hleast m ((hmem m).mpr ⟨hm, hmsel, hmo⟩)⟩

-- No device plugin and no user of Onload is left on a node.
structure Vacated (t : Target) (c : Cluster) (node : String) : Prop where
  plugin : c.listPods (pluginPods t node) = []
  users  : (c.listPods (.onNode node)).filter isUser = []

-- The marker that a drain takes from a node next.
inductive Removes (t : Target) (c : Cluster) (n : Node) : Marker → Prop
  | ready (hr : (t.marker? .ready n).isSome = true) : Removes t c n .ready
  | sfc (hr : t.marker? .ready n = none) (hv : Vacated t c n.name)
      (hs : (t.marker? .sfc n).isSome = true) : Removes t c n .sfc
  | loader (hr : t.marker? .ready n = none) (hv : Vacated t c n.name)
      (hs : t.marker? .sfc n = none) : Removes t c n .loader

-- All users of Onload on a node terminate.
def UsersLeave (c : Cluster) (node : String) : Prop :=
  ∀ p ∈ (c.listPods (.onNode node)).filter isUser, p.metadata.terminating = true

-- What comes of the drain of a node.
inductive Drained (t : Target) (n : Node) (c : Cluster) :
    Except OperatorError StepOutcome → Cluster → Prop
  | refused (hf : c.refuses n.name = true) :
    Drained t n c (.error (.cluster (Cluster.refusal n.name))) c
  | removed {m} (h : Removes t c n m) (hf : c.refuses n.name = false) :
    Drained t n c (.ok .requeueNow) (c.relabel n (t.key m) none)
  | occupied (delay : Duration) (hr : t.marker? .ready n = none)
    (hp : c.listPods (pluginPods t n.name) ≠ []) : Drained t n c (.ok (.requeueAfter delay)) c
  | used {c'} (delay : Duration) (hr : t.marker? .ready n = none)
    (hp : c.listPods (pluginPods t n.name) = [])
    (hu : (c.listPods (.onNode n.name)).filter isUser ≠ []) (h : Thins c c')
    (hfree : c.blockedEvictions = [] → UsersLeave c' n.name) :
    Drained t n c (.ok (.requeueAfter delay)) c'

theorem Drained.unfinished {r : Except OperatorError StepOutcome} {c c' : Cluster}
    (h : Drained t n c r c') : r ≠ .ok .nothingToDo := by
  cases h with
  | refused | removed | occupied | used => exact nofun

theorem ensures_removeMarker {m : Marker} (hs : w.cluster.Stores n) (hr : Removes t w.cluster n m)
    (a : DrainAction) :
    Ensures (removeMarker (.inMemory delay now) t m a n) w fun r w' =>
      Drained t n w.cluster r w'.cluster := by
  refine (ensures_patch hs none).bind ?ok ?error
  case ok =>
    intro _ _ h
    cases h with
    | changed hf => exact .removed hr hf
  case error =>
    intro e _ h
    cases h with
    | refused hf => exact .refused hf

-- Evictions in a cluster, one after the other.
def afterEvictions (c : Cluster) (ids : List Identity) : Cluster :=
  ids.foldl (fun c id => (c.evictPod id).2) c

theorem thins_afterEvictions (c : Cluster) (ids : List Identity) : Thins c (afterEvictions c ids) := by
  induction ids generalizing c with
  | nil => exact .refl
  | cons id ids hi => exact (Thins.evictPod c id).trans (hi _)

-- Where no evictions are blocked, all the pods terminate.
theorem terminating_afterEvictions {c : Cluster} {ids : List Identity}
    (hb : c.blockedEvictions = []) : ∀ id ∈ ids, (afterEvictions c ids).Terminating id := by
  induction ids generalizing c with
  | nil => exact nofun
  | cons id ids hi =>
    have hthins := Thins.evictPod c id
    have hfirst := Cluster.terminating_evictPod id hb
    have hrest := hi (hthins.blockedEvictions.trans hb)
    exact List.forall_mem_cons.mpr ⟨(thins_afterEvictions _ ids).terminating hfirst, hrest⟩

-- A blocked eviction is no failure.
theorem evictAll_eq (ps : List Pod) :
    Ensures (evictAll (.inMemory delay now) ps) w fun r w' =>
      r = .ok () ∧ w'.cluster = afterEvictions w.cluster (ps.map (·.metadata.identity)) := by
  induction ps generalizing w with
  | nil => exact .pure ⟨rfl, rfl⟩
  | cons p ps hi =>
    have hevict : Ensures (evict (.inMemory delay now) p) w fun r w' =>
        r = .ok () ∧ w'.cluster = (w.cluster.evictPod p.metadata.identity).2 := by
      have hanswer {r : Except ClusterError Unit} (hr : (w.cluster.evictPod p.metadata.identity).1 = r) :
          w.cluster.answer (.evictPod p.metadata.identity) =
            (r, (w.cluster.evictPod p.metadata.identity).2) := Prod.ext hr rfl
      obtain hok | ⟨detail, hblocked⟩ := w.cluster.evictPod_answers p.metadata.identity
      · exact .attempt_bind (hanswer hok) ⟨rfl, rfl⟩
      · exact .attempt_bind (hanswer hblocked) ⟨rfl, rfl⟩
    refine hevict.bind (fun _ w₁ ⟨_, hw⟩ => hi.mono fun r w' ⟨hr, hw'⟩ => ⟨hr, ?_⟩)
      fun _ _ ⟨hr, _⟩ => nomatch hr
    rw [hw', hw]
    rfl

-- Users that do not terminate yet are the ones to be evicted.
theorem usersLeave_of_evicted {c c' : Cluster} {node : String} (hk : c.Keyed) (h : Thins c c')
    (hps : ∀ p ∈ ((c.listPods (.onNode node)).filter isUser).filter (!·.metadata.terminating),
      c'.Terminating p.metadata.identity) : UsersLeave c' node := by
  intro p' hp'
  have ⟨hlisted, huser⟩ := List.mem_filter.mp hp'
  have ⟨j, hj, hns, hlabels, hnode⟩ := Cluster.mem_listPods.mp hlisted
  have ⟨p, hp, halike⟩ := h.pods j p' hj
  cases hterminating : p.metadata.terminating with
  | true => exact halike.terminating hterminating
  | false =>
    have hmem : p ∈ c.listPods (.onNode node) :=
      Cluster.mem_listPods.mpr ⟨j, hp, hns, rfl, by rwa [← halike.nodeName?_eq]⟩
    have hevicted := hps p (List.mem_filter.mpr
      ⟨List.mem_filter.mpr ⟨hmem, halike.isUser_eq ▸ huser⟩, by simp [hterminating]⟩)
    have hid : p.metadata.identity = j := hk.pods j p hp
    exact hevicted p' (hid ▸ hj)

theorem ensures_node (hk : w.cluster.Keyed) (hs : w.cluster.Stores n) :
    Ensures (node (.inMemory delay now) t n) w fun r w' =>
      Drained t n w.cluster r w'.cluster := by
  rw [node]
  split
  case isTrue hr => exact ensures_removeMarker hs (.ready hr) _
  case isFalse hr =>
    have hr : t.marker? .ready n = none := by simpa using hr
    refine .read rfl ?_
    split
    case isTrue hp => exact .pure (.occupied _ hr (by simpa using hp))
    case isFalse hp =>
      have hp : w.cluster.listPods (pluginPods t n.name) = [] := by simpa using hp
      refine .read rfl ?_
      split
      case h_1 hu =>
        rw [removeModules]
        split
        case isTrue hsfc => exact ensures_removeMarker hs (.sfc hr ⟨hp, hu⟩ hsfc) _
        case isFalse hsfc =>
          exact ensures_removeMarker hs (.loader hr ⟨hp, hu⟩ (by simpa using hsfc)) _
      case h_2 hu =>
        refine (evictAll_eq _).bind ?ok fun _ _ h => nomatch h.left
        intro _ w' ⟨_, hw⟩
        have hthins : Thins w.cluster w'.cluster := hw ▸ thins_afterEvictions ..
        refine .pure (.used _ hr hp hu hthins fun hb => usersLeave_of_evicted hk hthins ?_)
        exact fun p hp => hw ▸ terminating_afterEvictions hb _ (List.mem_map_of_mem hp)

theorem staleNodes_settles (hk : w.cluster.Keyed) :
    Step.Settles staleNodes (.inMemory delay now) t w (NoneOutdated t w.cluster) fun r w' =>
      ∃ n, Next t w.cluster n ∧ Drained t n w.cluster r w'.cluster := by
  refine ensures_staleNode?_bind hk ?none ?some
  case none => exact fun h => .inl ⟨rfl, rfl, h⟩
  case some =>
    intro n hn
    exact (ensures_node hk hn.stored).mono fun _ _ h => .inr ⟨h.unfinished, n, hn, h⟩

-- The ready marker of the next node goes at once.
theorem ensures_staleNodes (hk : w.cluster.Keyed) (hn : Next t w.cluster n)
    (hr : (t.marker? .ready n).isSome = true) (hf : w.cluster.refuses n.name = false) :
    Ensures (staleNodes (.inMemory delay now) t) w fun r w' => r ≠ .ok .nothingToDo ∧
      w'.cluster = w.cluster.relabel n (t.key .ready) none := by
  refine Ensures.mono (staleNodes_settles hk) fun r w' h => ?_
  cases h
  case inl h => exact absurd hn.outdated (h.right.right n hn.stored hn.selected)
  case inr h =>
    have ⟨hunfinished, x, hx, hdrained⟩ := h
    have he := hx.unique hn
    subst he
    refine ⟨hunfinished, ?_⟩
    generalize w'.cluster = c' at hdrained
    cases hdrained with
    | refused hrefused => simp [hf] at hrefused
    | removed hremoves =>
      cases hremoves with
      | ready => rfl
      | sfc hclosed | loader hclosed => simp [hclosed] at hr
    | occupied _ hclosed | used _ hclosed => simp [hclosed] at hr

end Drain

end KernelRollout
