import KernelRollout.Proofs.Cluster.Reaction
import KernelRollout.Proofs.Rollout.Effect
import Mathlib.Algebra.Order.BigOperators.Group.List
import Mathlib.Algebra.Order.Ring.Nat

namespace KernelRollout

open Cluster (Thins)

namespace Dict

variable {κ α : Type} [OrderedKey κ] {k : κ} {u : α}

theorem sum_insertEntry (f : α → Nat) (v : α) {es : List (κ × α)} (hs : es.Pairwise (·.1 < ·.1))
    (h : lookup k es = some u) :
    ((insertEntry k v es).map fun e => f e.2).sum + f u = (es.map fun e => f e.2).sum + f v := by
  induction es with
  | nil => cases h
  | cons e es hi =>
    obtain ⟨k', v'⟩ := e
    obtain ⟨hfirst, hs⟩ := List.pairwise_cons.mp hs
    rw [lookup] at h
    rw [insertEntry]
    split at h
    case isTrue hk =>
      cases h
      subst hk
      rw [if_neg (OrderedKey.irrefl k), if_pos rfl]
      simp only [List.map_cons, List.sum_cons]
      omega
    case isFalse hk =>
      have hafter : k' < k := hfirst _ ((lookup_eq_some_iff hs).mp h)
      rw [if_neg fun hlt => OrderedKey.irrefl k (OrderedKey.trans hlt hafter), if_neg hk]
      have hi := hi hs h
      simp only [List.map_cons, List.sum_cons]
      omega

-- Another value at a key that is there changes one term of the sum.
theorem sum_insert (f : α → Nat) (v : α) {d : Dict κ α} (h : d.get? k = some u) :
    ((d.insert k v).values.map f).sum + f u = (d.values.map f).sum + f v := by
  rw [values, values, List.map_map, List.map_map]
  exact sum_insertEntry f v d.sorted h

theorem mem_values {d : Dict κ α} (h : d.get? k = some u) : u ∈ d.values :=
  List.mem_map.mpr ⟨(k, u), get?_eq_some_iff.mp h, rfl⟩

end Dict

variable {c c' : Cluster} {t : Target} {n : Node} {m m' : Marker} {v : Option String} {k : Nat}

-- The selector asks for none of the markers.
def Target.Apart (t : Target) : Prop := ∀ m, t.spec.selector.get? (t.key m) = none

theorem Target.Apart.selects_relabelled (ha : t.Apart) :
    t.selects (n.relabelled (t.key m) v k) = t.selects n :=
  Node.matches_relabelled (ha m)

theorem Target.marker?_relabelled :
    t.marker? m' (n.relabelled (t.key m) v k) = if m' = m then v else t.marker? m' n := by
  simp only [marker?, Node.label?_relabelled, key, Marker.key_inj]

namespace Remaining

def count (p : Prop) [Decidable p] : Nat := if p then 1 else 0

theorem count_le (p : Prop) [Decidable p] : count p ≤ 1 := by
  rw [count]
  split <;> omega

theorem count_true {p : Prop} [Decidable p] (h : p) : count p = 1 := if_pos h

theorem count_false {p : Prop} [Decidable p] (h : ¬p) : count p = 0 := if_neg h

theorem count_mono {p q : Prop} [Decidable p] [Decidable q] (h : p → q) : count p ≤ count q := by
  by_cases hp : p
  case pos => rw [count_true hp, count_true (h hp)]
  case neg => simp [count_false hp]

-- A node that is not selected loses the markers that it has.
def stripping (t : Target) (n : Node) : Nat :=
  count (t.marker? .loader n ≠ none) + count (t.marker? .sfc n ≠ none) +
    count (t.marker? .ready n ≠ none)

-- A node that has its module gets or loses the SFC marker, and the ready marker is set.
def opening (t : Target) (n : Node) : Nat :=
  count ((t.marker? .sfc n).isSome ≠ t.sfcWanted) + count (t.marker? .ready n ≠ some t.version)

-- The device plugin leaves a node, and the users of Onload do.
def vacating (t : Target) (c : Cluster) (node : String) : Nat :=
  count (c.listPods (Drain.pluginPods t node) ≠ []) +
    count ((c.listPods (.onNode node)).filter Drain.isUser ≠ [])

-- A node with an outdated module is closed, the pods go, and then the modules. After that the
-- loader marker and the ready marker come back, and the SFC marker if it is wanted.
def draining (t : Target) (c : Cluster) (n : Node) : Nat :=
  count (t.marker? .ready n ≠ none) + vacating t c n.name + count (t.marker? .sfc n ≠ none) +
    count (t.sfcWanted = true) + 3

def onNode (t : Target) (c : Cluster) (n : Node) : Nat :=
  if t.selects n = false then stripping t n
  else
    match t.marker? .loader n with
    | none   => opening t n + 1
    | some v => if v = t.version then opening t n else draining t c n

theorem onNode_unselected (hs : t.selects n = false) : onNode t c n = stripping t n := by
  simp [onNode, hs]

theorem onNode_bare (hs : t.selects n = true) (hl : t.marker? .loader n = none) :
    onNode t c n = opening t n + 1 := by
  simp [onNode, hs, hl]

theorem onNode_current (hs : t.selects n = true) (hl : t.marker? .loader n = some t.version) :
    onNode t c n = opening t n := by
  simp [onNode, hs, hl]

theorem onNode_outdated (hs : t.selects n = true) (ho : Drain.Outdated t n) :
    onNode t c n = draining t c n := by
  obtain ⟨v, hl, hv⟩ := ho
  simp [onNode, hs, hl, hv]

theorem onNode_le : onNode t c n ≤ 8 := by
  have hstripping : stripping t n ≤ 3 := by
    have := count_le (t.marker? .loader n ≠ none)
    have := count_le (t.marker? .sfc n ≠ none)
    have := count_le (t.marker? .ready n ≠ none)
    rw [stripping]
    omega
  have hopening : opening t n ≤ 2 := by
    have := count_le ((t.marker? .sfc n).isSome ≠ t.sfcWanted)
    have := count_le (t.marker? .ready n ≠ some t.version)
    rw [opening]
    omega
  have hvacating : vacating t c n.name ≤ 2 := by
    have := count_le (c.listPods (Drain.pluginPods t n.name) ≠ [])
    have := count_le ((c.listPods (.onNode n.name)).filter Drain.isUser ≠ [])
    rw [vacating]
    omega
  have hdraining : draining t c n ≤ 8 := by
    have := count_le (t.marker? .ready n ≠ none)
    have := count_le (t.marker? .sfc n ≠ none)
    have := count_le (t.sfcWanted = true)
    rw [draining]
    omega
  rw [onNode]
  split
  case isTrue => omega
  case isFalse =>
    split
    case h_1 => omega
    case h_2 => split <;> omega

theorem onNode_congr (h : c'.pods = c.pods) : onNode t c' = onNode t c := by
  funext n
  simp only [onNode, draining, vacating, Cluster.listPods_congr h]

theorem onNode_thins (h : Thins c c') : onNode t c' n ≤ onNode t c n := by
  have hvacating : vacating t c' n.name ≤ vacating t c n.name :=
    Nat.add_le_add (count_mono (mt h.listPods_eq_nil)) (count_mono (mt h.users_eq_nil))
  have hdraining : draining t c' n ≤ draining t c n := by
    rw [draining, draining]
    omega
  rw [onNode, onNode]
  split
  case isTrue => exact Nat.le_refl _
  case isFalse =>
    split
    case h_1 => exact Nat.le_refl _
    case h_2 =>
      split
      case isTrue => exact Nat.le_refl _
      case isFalse => exact hdraining

-- The device plugin leaves a node that is not ready.
theorem vacating_occupied {node : String} (hk : c.Keyed) (hr : c.marker? t.id .ready node = none)
    (hp : c.listPods (Drain.pluginPods t node) ≠ []) :
    vacating t (c.react t.id) node < vacating t c node := by
  have husers : count (((c.react t.id).listPods (.onNode node)).filter Drain.isUser ≠ []) ≤
      count ((c.listPods (.onNode node)).filter Drain.isUser ≠ []) :=
    count_mono (mt (c.thins_react t.id).users_eq_nil)
  rw [vacating, vacating, count_false (not_not.mpr (Cluster.listPods_react hk hr)), count_true hp]
  omega

-- Users of Onload leave a node once they all terminate.
theorem vacating_used {node : String} (h : Thins c c')
    (hu : (c.listPods (.onNode node)).filter Drain.isUser ≠ []) (hl : Drain.UsersLeave c' node) :
    vacating t (c'.react t.id) node < vacating t c node := by
  have hplugin : count ((c'.react t.id).listPods (Drain.pluginPods t node) ≠ []) ≤
      count (c.listPods (Drain.pluginPods t node) ≠ []) :=
    count_mono (mt (h.trans (c'.thins_react t.id)).listPods_eq_nil)
  rw [vacating, vacating, count_false (not_not.mpr (Cluster.users_react hl)), count_true hu]
  omega

-- The change of a marker takes the node one step further.
def Advances (t : Target) (c : Cluster) (n : Node) (m : Marker) (v : Option String) : Prop :=
  ∀ k, onNode t c (n.relabelled (t.key m) v k) < onNode t c n

theorem advances_requests (ha : t.Apart) (hr : Marking.Requests t n m v) : Advances t c n m v := by
  intro k
  cases hr with
  | loader hs hl =>
    rw [onNode_current (ha.selects_relabelled.trans hs) (by simp [Target.marker?_relabelled]),
      onNode_bare hs hl]
    simp [opening, Target.marker?_relabelled]
  | sfc hs hw hn hl =>
    have hs' := (ha.selects_relabelled (m := .sfc) (v := some t.version) (k := k)).trans hs
    rw [onNode_current hs' (by simpa [Target.marker?_relabelled] using hl), onNode_current hs hl]
    simp [opening, Target.marker?_relabelled, hw, hn, count]

theorem advances_opens (ha : t.Apart) (hr : Marking.Opens t n m v) : Advances t c n m v := by
  intro k
  cases hr with
  | ready hs hl hr =>
    have hs' := (ha.selects_relabelled (m := .ready) (v := some t.version) (k := k)).trans hs
    rw [onNode_current hs' (by simpa [Target.marker?_relabelled] using hl), onNode_current hs hl]
    simp [opening, Target.marker?_relabelled, hr, count]

-- A marker that an unselected node has counts once.
theorem advances_stripping (ha : t.Apart) (hs : t.selects n = false)
    (hp : (t.marker? m n).isSome = true) : Advances t c n m none := by
  intro k
  rw [onNode_unselected (ha.selects_relabelled.trans hs), onNode_unselected hs]
  rw [Option.isSome_iff_ne_none] at hp
  cases m <;> simp [stripping, Target.marker?_relabelled, hp, count]

theorem advances_unwanted (ha : t.Apart) (hs : t.selects n = true) (hw : t.sfcWanted = false)
    (hp : (t.marker? .sfc n).isSome = true) : Advances t c n .sfc none := by
  intro k
  have hs' := (ha.selects_relabelled (m := .sfc) (v := none) (k := k)).trans hs
  have hloader : t.marker? .loader (n.relabelled (t.key .sfc) none k) = t.marker? .loader n := by
    simp [Target.marker?_relabelled]
  have hopening : opening t (n.relabelled (t.key .sfc) none k) < opening t n := by
    simp [opening, Target.marker?_relabelled, hw, hp, count]
  cases hl : t.marker? .loader n with
  | none =>
    rw [onNode_bare hs' (hloader.trans hl), onNode_bare hs hl]
    omega
  | some v =>
    by_cases hv : v = t.version
    case pos =>
      subst hv
      rwa [onNode_current hs' (hloader.trans hl), onNode_current hs hl]
    case neg =>
      rw [onNode_outdated hs' ⟨v, hloader.trans hl, hv⟩, onNode_outdated hs ⟨v, hl, hv⟩]
      rw [Option.isSome_iff_ne_none] at hp
      simp [draining, Target.marker?_relabelled, hp, count]

theorem advances_drops (ha : t.Apart) (hr : Marking.Drops t n m v) : Advances t c n m v := by
  cases hr with
  | ready hs hp => exact advances_stripping ha hs hp
  | loader hk _ hp => exact advances_stripping ha (Marking.keepsModules_eq_false.mp hk).left hp
  | sfc hk hp =>
    cases hs : t.selects n with
    | false => exact advances_stripping ha hs hp
    | true =>
      have hw : t.sfcWanted = false := by simpa [Marking.keepsModules, hs] using hk
      exact advances_unwanted ha hs hw hp

theorem advances_removes (ha : t.Apart) (hs : t.selects n = true) (ho : Drain.Outdated t n)
    (hr : Drain.Removes t c n m) : Advances t c n m none := by
  intro k
  have hs' := (ha.selects_relabelled (m := m) (v := none) (k := k)).trans hs
  rw [onNode_outdated hs ho]
  obtain ⟨v, hl, hv⟩ := ho
  cases hr with
  | ready hr =>
    rw [Option.isSome_iff_ne_none] at hr
    rw [onNode_outdated hs' ⟨v, by simpa [Target.marker?_relabelled] using hl, hv⟩]
    simp [draining, Target.marker?_relabelled, hr, count]
  | sfc hr hvacated hsfc =>
    rw [Option.isSome_iff_ne_none] at hsfc
    rw [onNode_outdated hs' ⟨v, by simpa [Target.marker?_relabelled] using hl, hv⟩]
    simp [draining, Target.marker?_relabelled, hsfc, count]
  | loader hr hvacated hsfc =>
    rw [onNode_bare hs' (by simp [Target.marker?_relabelled])]
    simp only [opening, draining, Target.marker?_relabelled, hr, hsfc, count]
    cases t.sfcWanted <;> simp

end Remaining

open Remaining
open Operand (parts Part Brings)

-- The changes that are ahead of all nodes, and a write for every operand that is not current.
def remaining (t : Target) (c : Cluster) : Nat :=
  (c.nodes.values.map (onNode t c)).sum + ((parts t).map fun p => count (¬p.Current t c)).sum

theorem remaining_le : remaining t c ≤ 8 * c.nodes.size + 4 := by
  have hnodes : (c.nodes.values.map (onNode t c)).sum ≤ c.nodes.size * 8 := by
    refine (List.sum_le_card_nsmul _ 8 ?_).trans_eq (by simp [Dict.values, Dict.size])
    exact List.forall_mem_map.mpr fun _ _ => onNode_le
  have hparts : ((parts t).map fun p => count (¬p.Current t c)).sum ≤ 4 := by
    refine (List.sum_le_card_nsmul _ 1 ?_).trans_eq (by simp [parts])
    exact List.forall_mem_map.mpr fun _ _ => count_le _
  rw [remaining]
  omega

-- A change that takes its node further leaves all other nodes and the operands where they are.
theorem remaining_relabel (hs : c.Stores n) (h : Advances t c n m v) :
    remaining t (c.relabel n (t.key m) v) < remaining t c := by
  have hnode := h (c.version + 1)
  have hnodes : ((c.relabel n (t.key m) v).nodes.values.map (onNode t c)).sum + onNode t c n =
      (c.nodes.values.map (onNode t c)).sum + onNode t c (n.relabelled (t.key m) v (c.version + 1)) :=
    Dict.sum_insert (onNode t c) _ hs
  have hparts : ∀ p : Part, p.Current t (c.relabel n (t.key m) v) ↔ p.Current t c := fun _ => .rfl
  have hpods : onNode t (c.relabel n (t.key m) v) = onNode t c := rfl
  simp only [remaining, hparts, hpods]
  omega

-- Every write of a marker takes a change off what remains.
theorem remaining_relabelling {rule : Node → Marker → Option String → Prop}
    (hrule : ∀ c n m v, rule n m v → Advances t c n m v) (h : Relabelling t.id rule c c') :
    remaining t c' + c'.writes ≤ remaining t c + c.writes := by
  refine h.preserves (P := fun c₁ => remaining t c₁ + c₁.writes ≤ remaining t c + c.writes)
    (Nat.le_refl _) fun c₁ n m v hle hs hr => ?_
  have hlt : remaining t (c₁.relabel n (m.key t.id) v) < remaining t c₁ :=
    remaining_relabel hs (hrule c₁ n m v hr)
  rw [Cluster.writes_relabel]
  omega

theorem remaining_brings {p : Part} (hp : p ∈ parts t) (h : Brings t p c c') :
    remaining t c' < remaining t c := by
  have hpods : onNode t c' = onNode t c := onNode_congr h.sets.pods
  have hparts : ((parts t).map fun p => count (¬p.Current t c')).sum <
      ((parts t).map fun p => count (¬p.Current t c)).sum := by
    refine List.sum_lt_sum _ _ (fun q hq => count_mono (mt (h.keeps_current hp hq))) ⟨p, hp, ?_⟩
    rw [count_false (not_not.mpr h.current), count_true h.stale]
    exact Nat.one_pos
  rw [remaining, remaining, h.sets.nodes, hpods]
  omega

theorem remaining_prepares (ha : t.Apart) (h : Reconcile.Prepares t c c') :
    remaining t c' + c'.writes ≤ remaining t c + c.writes := by
  cases h with
  | requested h => exact remaining_relabelling (fun _ _ _ _ => advances_requests ha) h
  | dropped h => exact remaining_relabelling (fun _ _ _ _ => advances_drops ha) h
  | opened h => exact remaining_relabelling (fun _ _ _ _ => advances_opens ha) h
  | operated h =>
    cases h with
    | brought p hp h =>
      have hlt := remaining_brings hp h
      have hwrites := h.sets.writes
      omega
    | unwritten => exact Nat.le_refl _

theorem current_thins {p : Part} (h : Thins c c') : p.Current t c' ↔ p.Current t c := by
  rw [Part.Current, Part.Current, Cluster.operandVersion?_congr h.modules h.daemonSets]

-- Pods that go take from what remains if a node with an outdated module is nearer to being vacated.
theorem remaining_vacating (h : Thins c c') (hn : Drain.Next t c n)
    (hlt : vacating t c' n.name < vacating t c n.name) : remaining t c' < remaining t c := by
  have hparts : ∀ p : Part, p.Current t c' ↔ p.Current t c := fun _ => current_thins h
  have hnode : onNode t c' n < onNode t c n := by
    rw [onNode_outdated hn.selected hn.outdated, onNode_outdated hn.selected hn.outdated]
    rw [draining, draining]
    omega
  simp only [remaining, hparts, h.nodes]
  refine Nat.add_lt_add_right (List.sum_lt_sum (onNode t c') (onNode t c) ?_ ?_) _
  · exact fun _ _ => onNode_thins h
  · exact ⟨n, Dict.mem_values hn.stored, hnode⟩

end KernelRollout
