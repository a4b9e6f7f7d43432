import KernelRollout.Proofs.Rollout.InFlight
import KernelRollout.Proofs.Rollout.Remit
import KernelRollout.Proofs.Rollout.Settled

namespace KernelRollout

open Pass
open Reconcile (Emptying)

variable {id : Identity} {c c' : Cluster} {n : Node} {t : Target} {name : String}
variable {j : Identity} {p : Pod}
variable {delay : Duration} {now : Timestamp} {w : World Cluster}

-- A pod on a node that may still use Onload.
structure Pod.UsesOnload (p : Pod) (node : String) : Prop where
  bound   : p.nodeName? = some node
  active  : p.phase? ≠ some "Succeeded" ∧ p.phase? ≠ some "Failed"
  request : ∃ container ∈ p.allContainers, ∃ amount,
    container.resources.bind (·.amount? "amd.com/onload") = some amount ∧ Quantity.nonzero amount = true

theorem Pod.usesOnload_iff :
    p.UsesOnload name ↔ p.nodeName? = some name ∧ Drain.isUser p = true := by
  have hrequest : p.requestsOnload = true ↔ ∃ container ∈ p.allContainers, ∃ amount,
      container.resources.bind (·.amount? "amd.com/onload") = some amount ∧
        Quantity.nonzero amount = true := by
    simp only [Pod.requestsOnload, List.any_eq_true, Option.any_eq_true, onloadResource]
  simp only [Drain.isUser, Pod.finished, Bool.and_eq_true, Bool.not_eq_true', Bool.or_eq_false_iff,
    decide_eq_false_iff_not, hrequest]
  constructor
  case mp => exact fun h => ⟨h.bound, h.active, h.request⟩
  case mpr => exact fun h => ⟨h.left, h.right.left, h.right.right⟩

instance : Decidable (p.UsesOnload name) := decidable_of_iff _ Pod.usesOnload_iff.symm

namespace Drain

-- The users of Onload on a node that stay there.
def stayingUsers (c : Cluster) (node : String) : List Pod :=
  ((c.listPods (.onNode node)).filter isUser).filter (!·.metadata.terminating)

theorem mem_stayingUsers (hk : c.Keyed) : p ∈ stayingUsers c name ↔
    c.pods.get? p.metadata.identity = some p ∧ p.UsesOnload name ∧ p.metadata.terminating = false := by
  simp only [stayingUsers, List.mem_filter, Cluster.mem_listPods, Pod.usesOnload_iff, Bool.not_eq_true']
  constructor
  case mp =>
    intro ⟨⟨⟨j, hp, _, _, hnode⟩, huser⟩, hstays⟩
    have hj : p.metadata.identity = j := hk.pods j p hp
    subst hj
    exact ⟨hp, ⟨by simpa [PodQuery.onNode] using hnode, huser⟩, hstays⟩
  case mpr =>
    intro ⟨hp, ⟨hnode, huser⟩, hstays⟩
    exact ⟨⟨⟨_, hp, rfl, rfl, by simp [PodQuery.onNode, hnode]⟩, huser⟩, hstays⟩

-- The log gets the evictions that are not blocked, in the order of the pods.
theorem actions_afterEvictions {ids : List Identity}
    (hs : ∀ j ∈ ids, ∃ p, c.pods.get? j = some p ∧ p.metadata.terminating = false)
    (hd : ids.Pairwise (· ≠ ·)) : (afterEvictions c ids).actions =
      c.actions ++ (ids.filter (· ∉ c.blockedEvictions)).map .evictPod := by
  induction ids generalizing c with
  | nil => simp [afterEvictions]
  | cons i ids hi =>
    have ⟨hne, hd⟩ := List.pairwise_cons.mp hd
    have ⟨⟨p, hp, hstays⟩, hs⟩ := List.forall_mem_cons.mp hs
    show (afterEvictions (c.evictPod i).2 ids).actions = _
    by_cases hb : i ∈ c.blockedEvictions
    case pos =>
      rw [Cluster.evictPod_blocked (by simpa using hb), hi hs hd]
      simp [hb]
    case neg =>
      rw [Cluster.evictPod_going (by simpa using hb) hp hstays, hi ?others hd]
      · simp [hb]
      case others =>
        intro j hj
        simpa [Dict.get?_insert_other _ _ (hne j hj).symm] using hs j hj

-- A drain that has come to the users of Onload evicts them.
theorem ensures_node_used (hready : t.marker? .ready n = none)
    (hplugin : w.cluster.listPods (pluginPods t n.name) = [])
    (husers : (w.cluster.listPods (.onNode n.name)).filter isUser ≠ []) :
    Ensures (node (.inMemory delay now) t n) w fun r w' =>
      r = .ok (.requeueAfter delay) ∧ w'.cluster = afterEvictions w.cluster
        ((stayingUsers w.cluster n.name).map (·.metadata.identity)) := by
  rw [node, if_neg (by simp [hready])]
  refine .read rfl ?_
  rw [if_neg (by simp [hplugin])]
  refine .read rfl ?_
  split
  case h_1 hnone => exact absurd hnone husers
  case h_2 =>
    refine (evictAll_eq _).bind (fun _ _ h => .pure ⟨rfl, h.right⟩) fun _ _ h => ?_
    cases h.left

end Drain

namespace Reconcile.Emptying

theorem afterPass (hk : w.cluster.Keyed) (h : Emptying (.inMemory delay now) id w t n) :
    (w.afterPass id delay now).cluster = Drain.afterEvictions w.cluster
      ((Drain.stayingUsers w.cluster n.name).map (·.metadata.identity)) := by
  refine Reconcile.ensures_pass_prepared (fun _ c' => c' = _) h.handles h.prepared ?_
  refine Drain.ensures_staleNode?_bind hk (fun hnone => ?none) fun x hx => ?some
  case none => exact absurd h.next.outdated (hnone n h.next.stored h.next.selected)
  case some =>
    have hsame := hx.unique h.next
    subst hsame
    refine (Drain.ensures_node_used h.closed h.noPlugin h.users).mono fun r w' ⟨hr, hc⟩ => ?_
    exact ⟨by simp [hr], hc⟩

theorem actions_eq (hk : w.cluster.Keyed) (h : Emptying (.inMemory delay now) id w t n) :
    (w.afterPass id delay now).cluster.actions = w.cluster.actions ++
      (((Drain.stayingUsers w.cluster n.name).map (·.metadata.identity)).filter
        (· ∉ w.cluster.blockedEvictions)).map .evictPod := by
  rw [h.afterPass hk]
  apply Drain.actions_afterEvictions
  · simp only [List.forall_mem_map]
    intro p hp
    have ⟨hstored, _, hstays⟩ := (Drain.mem_stayingUsers hk).mp hp
    exact ⟨p, hstored, hstays⟩
  · exact List.pairwise_map.mpr (((Cluster.listPods_pairwise hk).filter _).filter _)

theorem evicts_iff (hk : w.cluster.Keyed) (h : Emptying (.inMemory delay now) id w t n) :
    w.cluster.Evicts (w.afterPass id delay now).cluster j ↔
      ∃ p, w.cluster.pods.get? j = some p ∧ p.UsesOnload n.name ∧ p.metadata.terminating = false ∧
        j ∉ w.cluster.blockedEvictions := by
  simp only [Cluster.evicts_iff (h.actions_eq hk), List.mem_map, List.mem_filter, Action.evictPod.injEq,
    exists_eq_right, decide_eq_true_eq, Drain.mem_stayingUsers hk]
  constructor
  case mp =>
    intro ⟨⟨p, ⟨hp, huses, hstays⟩, hj⟩, hfree⟩
    exact ⟨p, hj ▸ hp, huses, hstays, hfree⟩
  case mpr =>
    intro ⟨p, hp, huses, hstays, hfree⟩
    have hj : p.metadata.identity = j := hk.pods j p hp
    exact ⟨⟨p, ⟨hj.symm ▸ hp, huses, hstays⟩, hj⟩, hfree⟩

end Reconcile.Emptying

theorem emptying_of_evicts (hk : w.cluster.Keyed)
    (he : w.cluster.Evicts (w.afterPass id delay now).cluster j) :
    ∃ t n, Emptying (.inMemory delay now) id w t n := by
  have hcalls : w.cluster.Calls (.of id) (w.afterPass id delay now).cluster := Reconcile.calls_pass hk
  cases (course_afterPass id delay now hk).moves with
  | neither hpods => exact absurd he (hcalls.not_evicts hpods)
  | operates _ _ h => exact absurd he (hcalls.not_evicts h.pods)
  | empties t n h => exact ⟨t, n, h⟩

-- Only users of Onload stand between a node and the removal of its module. It is the next one of its
-- resource to be drained, it is closed, and the device plugin has left it.
structure AwaitsUsers (id : Identity) (c : Cluster) (name : String) : Prop where
  selected : c.Selected id name
  outdated : c.Outdated id name
  first    : ∀ a, c.Selected id a → c.Outdated id a → name ≤ a
  closed   : c.marker? id .ready name = none
  noPlugin : ∀ j p, c.pods.get? j = some p → p.nodeName? = some name → j.ns = id.ns →
    p.metadata.label? operandNameLabel ≠ some (Operand.devicePluginName id.name)

theorem Reconcile.Emptying.awaitsUsers (hk : w.cluster.Keyed)
    (h : Emptying (.inMemory delay now) id w t n) : AwaitsUsers id w.cluster n.name where
  selected := h.handles.selected h.next
  outdated := h.handles.outdated hk h.next
  first a hs ho := String.not_lt.mp (h.handles.first hk h.next hs ho)
  closed := (h.handles.marker?_eq hk h.next.stored .ready).trans h.closed
  noPlugin j p hp := by
    rw [← h.handles.id_eq hk]
    exact Cluster.listPods_pluginPods_eq_nil h.noPlugin hp

-- A pass that evicts any pod evicts exactly the users of Onload that stay on one node, which waits for
-- them only, and whose evictions are not blocked. They terminate after the pass.
theorem evictions_afterPass {i : Identity} (hk : w.cluster.Keyed)
    (he : w.cluster.Evicts (w.afterPass id delay now).cluster i) :
    ∃ name, AwaitsUsers id w.cluster name ∧
      (∀ j, w.cluster.Evicts (w.afterPass id delay now).cluster j ↔
        ∃ p, w.cluster.pods.get? j = some p ∧ p.UsesOnload name ∧ p.metadata.terminating = false ∧
          j ∉ w.cluster.blockedEvictions) ∧
      ∀ j p, w.cluster.pods.get? j = some p → p.UsesOnload name → j ∉ w.cluster.blockedEvictions →
        ∃ p', (w.afterPass id delay now).cluster.pods.get? j = some p' ∧ p'.metadata.terminating = true := by
  have hcalls : w.cluster.Calls (.of id) (w.afterPass id delay now).cluster := Reconcile.calls_pass hk
  have ⟨t, n, h⟩ := emptying_of_evicts hk he
  refine ⟨n.name, h.awaitsUsers hk, fun j => h.evicts_iff hk, fun j p hp huses hfree => ?_⟩
  cases hstays : p.metadata.terminating with
  | false =>
    have hevicted := (h.evicts_iff hk).mpr ⟨p, hp, huses, hstays, hfree⟩
    have ⟨x, version, _, _, hx⟩ := hcalls.get?_of_evicts hevicted
    exact ⟨x.evicted version, hx, rfl⟩
  | true =>
    have ⟨p', hp', hpod⟩ := hcalls.within.pods.exists_of_get? hp
    cases hpod with
    | kept => exact ⟨p, hp', hstays⟩
    | evicted _ version => exact ⟨p.evicted version, hp', rfl⟩

-- One of the users is refused, and the one after it is evicted all the same. A finished pod beside
-- them and a user on another worker stay.
theorem evictions_afterPass_refused :
    ∃ w : World Cluster, w.cluster.Keyed ∧
      w.cluster.Evicts (w.afterPass Sample.resource .zero Sample.now).cluster ⟨"other", "user"⟩ ∧
      ⟨"other", "guarded"⟩ ∈ w.cluster.blockedEvictions ∧
      ∃ name, AwaitsUsers Sample.resource w.cluster name ∧
        ∀ j, w.cluster.Evicts (w.afterPass Sample.resource .zero Sample.now).cluster j ↔
          ∃ p, w.cluster.pods.get? j = some p ∧ p.UsesOnload name ∧ p.metadata.terminating = false ∧
            j ∉ w.cluster.blockedEvictions := by
  let user (id : Identity) (node : String) := (Pod.onNode id node .empty).requesting onloadResource "1"
  let finished := { user ⟨"default", "finished"⟩ "a" with status := some { phase := some "Succeeded" } }
  let start := Sample.world "2" "2" [Sample.worker "a" [(.loader, "1")], Sample.openWorker "b" "1"]
  let edits : List Edit := [.putPod finished, .putPod (user ⟨"other", "guarded"⟩ "a"),
    .putPod (user ⟨"other", "user"⟩ "a"), .putPod (user ⟨"other", "elsewhere"⟩ "b"),
    .blockEviction ⟨"other", "guarded"⟩]
  let w := { start with cluster := Edit.applyAll edits start.cluster }
  have hk : w.cluster.Keyed := (Sample.keyed_world ..).applyAll _
  have he : w.cluster.Evicts (w.afterPass Sample.resource .zero Sample.now).cluster ⟨"other", "user"⟩ := by
    decide +kernel
  have ⟨name, hawaits, hevicts, _⟩ := evictions_afterPass hk he
  exact ⟨w, hk, he, by decide +kernel, name, hawaits, hevicts⟩

end KernelRollout
