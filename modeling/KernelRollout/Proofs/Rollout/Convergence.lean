import KernelRollout.Proofs.Rollout.Remaining
import KernelRollout.Proofs.Rollout.Settled

namespace KernelRollout

open Cluster (Sets Thins)
open Reconcile (Handled Handles Prepares Preparing Reported)

variable {id : Identity} {c c' : Cluster} {t : Target} {n : Node} {m : Marker}
variable {delay : Duration} {w : World Cluster}

-- The pods that load or unload a module of a resource, on whichever node.
def Cluster.loaderPods (id : Identity) (kind : ModuleKind) : PodQuery where
  ns     := some id.ns
  labels := .andEquals .everything loaderPodLabel (kind.resourceName id.name)

-- Resources are as they were, and whatever stands in the way of a pass did so before.
structure Eases (c c' : Cluster) : Prop where
  onloads          : c'.onloads = c.onloads
  keyed            : c.Keyed → c'.Keyed
  refuses          : ∀ name, c'.refuses name = c.refuses name
  blockedEvictions : c'.blockedEvictions = c.blockedEvictions
  pods             : ∀ q, c.listPods q = [] → c'.listPods q = []

namespace Eases

theorem refl : Eases c c := ⟨rfl, fun hk => hk, fun _ => rfl, rfl, fun _ h => h⟩

theorem relabelling {rule : Node → Marker → Option String → Prop} (h : Relabelling id rule c c') :
    Eases c c' where
  onloads := h.onloads
  keyed := h.keyed
  refuses _ := h.refuses
  blockedEvictions := h.blockedEvictions
  pods q hq := (Cluster.listPods_congr h.pods q).trans hq

theorem sets {kind : OperandKind} {v : Option (Option String)} (h : Sets kind id v c c') :
    Eases c c' where
  onloads := h.onloads
  keyed := h.keyed
  refuses _ := by rw [Cluster.refuses, Cluster.refuses, h.failingNodes]
  blockedEvictions := h.blockedEvictions
  pods q hq := (Cluster.listPods_congr h.pods q).trans hq

theorem thins (h : Thins c c') : Eases c c' where
  onloads := h.onloads
  keyed := h.keyed
  refuses _ := by rw [Cluster.refuses, Cluster.refuses, h.failingNodes]
  blockedEvictions := h.blockedEvictions
  pods _ := h.listPods_eq_nil

theorem prepares (h : Prepares t c c') : Eases c c' := by
  cases h with
  | requested h | dropped h | opened h => exact .relabelling h
  | operated h =>
    cases h with
    | brought _ _ h => exact .sets h.sets
    | unwritten => exact .refl

end Eases

-- A valid resource that stays, where all patches and evictions go through and no pods linger that
-- load or unload its modules.
structure Cooperative (id : Identity) (c : Cluster) : Prop where
  keyed            : c.Keyed
  identified       : c.Identified
  handles          : ∃ t, Handles c id t
  apart            : c.SelectsApart id
  refuses          : ∀ name, c.refuses name = false
  blockedEvictions : c.blockedEvictions = []
  loaders          : ∀ kind, c.listPods (Cluster.loaderPods id kind) = []

namespace Reconcile.Handles

theorem congr (h : Handles c id t) (ho : c'.onloads = c.onloads) : Handles c' id t :=
  { h with stored := ho ▸ h.stored }

end Reconcile.Handles

namespace Cooperative

theorem targets_apart (h : Cooperative id c) (ht : Handles c id t) : t.Apart := by
  have hid := ht.id_eq h.keyed
  subst hid
  exact h.apart t.spec ht.spec?

theorem smooth (h : Cooperative id c) (ht : Handles c id t) : Smooth t c where
  patches := h.refuses
  loaders kind node := by
    refine List.eq_nil_iff_forall_not_mem.mpr fun p hp => ?_
    obtain ⟨j, hj, hns, hlabels, _⟩ := Cluster.mem_listPods.mp hp
    have hid := ht.id_eq h.keyed
    subst hid
    have hmem : p ∈ c.listPods (Cluster.loaderPods t.id kind) :=
      Cluster.mem_listPods.mpr ⟨j, hj, hns, hlabels, rfl⟩
    rw [h.loaders kind] at hmem
    cases hmem
  owned := h.identified id t.onload ht.stored

theorem eases (h : Cooperative id c) (he : Eases c c') : Cooperative id c' where
  keyed := he.keyed h.keyed
  identified j o ho := h.identified j o (he.onloads ▸ ho)
  handles := by
    obtain ⟨t, ht⟩ := h.handles
    exact ⟨t, ht.congr he.onloads⟩
  apart := h.apart.congr (by rw [Cluster.spec?, Cluster.spec?, he.onloads])
  refuses name := (he.refuses name).trans (h.refuses name)
  blockedEvictions := he.blockedEvictions.trans h.blockedEvictions
  loaders kind := he.pods _ (h.loaders kind)

theorem reported {b : Bool} {reason message : String} (h : Cooperative id c) (ht : Handles c id t)
    (hr : Reported t b reason message c c') : Cooperative id c' := by
  have hid := ht.id_eq h.keyed
  subst hid
  refine ⟨hr.aside.keyed h.keyed, ?_, ?_, h.apart.congr (hr.aside.specs t.id), ?_, ?_, ?_⟩
  case refine_1 =>
    cases hr with
    | already => exact h.identified
    | written now =>
      exact h.identified.answer
        (.patchOnloadStatus t.id (Reconcile.withReady t.onload b reason message now))
  case refine_2 =>
    cases hr with
    | already => exact h.handles
    | written => exact ⟨_, ht.reported _⟩
  all_goals rw [hr.eq]
  case refine_3 => exact h.refuses
  case refine_4 => exact h.blockedEvictions
  case refine_5 => exact h.loaders

end Cooperative

-- Nothing new stands in the way, and less is left to do.
structure Closer (t : Target) (c c' : Cluster) : Prop extends Eases c c' where
  less : remaining t c' < remaining t c

namespace Closer

theorem preparing (ha : t.Apart) (h : Preparing t c (.ok .requeueNow) c') : Closer t c c' where
  toEases := .prepares h.prepares
  less := by
    have hle := remaining_prepares ha h.prepares
    have hwrote := h.progress.wrote rfl
    omega

theorem removes (ha : t.Apart) (hn : Drain.Next t c n) (hr : Drain.Removes t c n m) :
    Closer t c (c.relabel n (t.key m) none) where
  toEases := by
    have h : Relabelling t.id (fun _ _ _ => True) c (c.relabel n (t.key m) none) :=
      .single hn.stored trivial
    exact .relabelling h
  less := remaining_relabel hn.stored (Remaining.advances_removes ha hn.selected hn.outdated hr)

theorem vacating (h : Thins c c') (hn : Drain.Next t c n)
    (hlt : Remaining.vacating t c' n.name < Remaining.vacating t c n.name) : Closer t c c' where
  toEases := .thins h
  less := remaining_vacating h hn hlt

end Closer

-- What the cluster does after a pass: it reacts while the next pass is waited for.
def Cluster.afterwards (c : Cluster) (id : Identity) : Except OperatorError StepOutcome → Cluster
  | .ok (.requeueAfter _) => c.react id
  | _                     => c

-- Where nothing stands in the way, a pass that has something to do leaves less to do than there
-- was.
theorem closer_of_handled {s : Setup Cluster} {r : Except OperatorError StepOutcome}
    (hc : Cooperative t.id w.cluster) (ht : Handles w.cluster t.id t) (h : Handled s t w r c') :
    (r = .ok .nothingToDo ∧ Cooperative t.id (c'.afterwards t.id r)) ∨
    (∃ outcome, r = .ok outcome) ∧ Closer t w.cluster (c'.afterwards t.id r) := by
  have ha := hc.targets_apart ht
  cases h with
  | settled _ hr => exact .inl ⟨rfl, hc.reported ht hr⟩
  | advanced hr h =>
    refine .inr ?_
    cases h with
    | prepared h =>
      have hnow := h.progress.smooth (hc.smooth ht)
      subst hnow
      exact ⟨⟨_, rfl⟩, .preparing ha h⟩
    | drained n _ hn h =>
      cases h with
      | refused hf => simp [hc.refuses] at hf
      | removed hremoves => exact ⟨⟨_, rfl⟩, .removes ha hn hremoves⟩
      | occupied _ hready hp =>
        refine ⟨⟨_, rfl⟩, .vacating (w.cluster.thins_react t.id) hn ?_⟩
        exact Remaining.vacating_occupied hc.keyed ((hn.stored.marker? ..).trans hready) hp
      | used _ _ _ hu h hfree =>
        refine ⟨⟨_, rfl⟩, .vacating (h.trans (Cluster.thins_react ..)) hn ?_⟩
        exact Remaining.vacating_used h hu (hfree hc.blockedEvictions)

namespace World

variable {clock : Nat → Timestamp}

-- A pass, and what the cluster does afterwards.
def turn (id : Identity) (delay : Duration) (now : Timestamp) (w : World Cluster) : World Cluster :=
  { w.afterPass id delay now with
    cluster := (w.afterPass id delay now).cluster.afterwards id (w.passAnswer id delay now) }

-- The world after a number of turns.
def turns (id : Identity) (delay : Duration) (clock : Nat → Timestamp) (w : World Cluster) :
    Nat → World Cluster
  | 0     => w
  | k + 1 => (w.turns id delay clock k).turn id delay (clock k)

-- What the pass answers after a number of turns.
def turnAnswer (id : Identity) (delay : Duration) (clock : Nat → Timestamp) (w : World Cluster)
    (k : Nat) : Except OperatorError StepOutcome :=
  (w.turns id delay clock k).passAnswer id delay (clock k)

theorem closer_turn (delay : Duration) (now : Timestamp) (hc : Cooperative id w.cluster)
    (ht : Handles w.cluster id t) :
    (w.passAnswer id delay now = .ok .nothingToDo ∧
      Cooperative id (w.turn id delay now).cluster) ∨
    (∃ outcome, w.passAnswer id delay now = .ok outcome) ∧
      Closer t w.cluster (w.turn id delay now).cluster := by
  have hid := ht.id_eq hc.keyed
  subst hid
  exact closer_of_handled hc ht (Reconcile.pass_handled hc.keyed ht)

theorem cooperative_turn (delay : Duration) (now : Timestamp) (hc : Cooperative id w.cluster) :
    (∃ outcome, w.passAnswer id delay now = .ok outcome) ∧
      Cooperative id (w.turn id delay now).cluster := by
  obtain ⟨t, ht⟩ := hc.handles
  obtain ⟨hr, h⟩ | ⟨hr, h⟩ := closer_turn delay now hc ht
  · exact ⟨⟨_, hr⟩, h⟩
  · exact ⟨hr, hc.eases h.toEases⟩

theorem cooperative_turns (hc : Cooperative id w.cluster) (delay : Duration)
    (clock : Nat → Timestamp) (k : Nat) : Cooperative id (w.turns id delay clock k).cluster := by
  induction k with
  | zero => exact hc
  | succ k hi => exact (cooperative_turn delay (clock k) hi).right

-- As long as no pass has had nothing to do, every turn has taken from what remains.
theorem remaining_turns (hc : Cooperative id w.cluster) (ht : Handles w.cluster id t) (k : Nat)
    (hk : ∀ j < k, w.turnAnswer id delay clock j ≠ .ok .nothingToDo) :
    Handles (w.turns id delay clock k).cluster id t ∧
      remaining t (w.turns id delay clock k).cluster + k ≤ remaining t w.cluster := by
  induction k with
  | zero => exact ⟨ht, Nat.le_refl _⟩
  | succ k hi =>
    obtain ⟨ht, hle⟩ := hi fun j hj => hk j (Nat.lt_succ_of_lt hj)
    obtain ⟨hr, _⟩ | ⟨_, h⟩ := closer_turn delay (clock k) (cooperative_turns hc delay clock k) ht
    · exact absurd hr (hk k (Nat.lt_succ_self k))
    · have hless := h.less
      exact ⟨ht.congr h.onloads, by rw [turns]; omega⟩

end World

-- In a cooperative cluster all passes go through, and one of the first has nothing to do.
theorem nothingToDo_of_cooperative (hc : Cooperative id w.cluster) (delay : Duration)
    (clock : Nat → Timestamp) :
    (∀ k, ∃ outcome, w.turnAnswer id delay clock k = .ok outcome) ∧
    ∃ k < 8 * w.cluster.nodes.size + 20, w.turnAnswer id delay clock k = .ok .nothingToDo := by
  have hanswers (k : Nat) : ∃ outcome, w.turnAnswer id delay clock k = .ok outcome :=
    (World.cooperative_turn delay (clock k) (World.cooperative_turns hc delay clock k)).left
  refine ⟨hanswers, ?_⟩
  obtain ⟨t, ht⟩ := hc.handles
  by_contra hnever
  have hnever : ∀ k < 8 * w.cluster.nodes.size + 20,
      w.turnAnswer id delay clock k ≠ .ok .nothingToDo :=
    fun k hk h => hnever ⟨k, hk, h⟩
  have hturns := (World.remaining_turns hc ht _ hnever).right
  have hbound := remaining_le (t := t) (c := w.cluster)
  omega

namespace Sample

-- A version is declared while one worker is open and in use at the version before, and another has
-- markers that no pass would have left.
def mixedWorld : World Cluster :=
  let start := world "2" "1" [openWorker "a" "1", worker "b" [(.sfc, "1"), (.ready, "3")]]
  let plugin := Pod.onNode ⟨resource.ns, "plugin"⟩ "a"
    (Dict.empty.insert operandNameLabel (Operand.devicePluginName resource.name))
  let user := (Pod.onNode ⟨"other", "user"⟩ "a" .empty).requesting onloadResource "1"
  { start with cluster := Edit.applyAll [.putPod plugin, .putPod user] start.cluster }

theorem cooperative_mixedWorld : Cooperative resource mixedWorld.cluster where
  keyed := (keyed_world ..).applyAll _
  identified := (Cluster.Identified.empty.applyAll _).applyAll _
  handles := by
    let o := Cluster.admitted (onload "2") 1
    exact ⟨⟨o, resource⟩, by decide +kernel, rfl, rfl, by decide +kernel⟩
  apart := by decide +kernel
  refuses _ := rfl
  blockedEvictions := rfl
  loaders kind := by cases kind <;> decide +kernel

end Sample

-- Two workers take at most as many passes as this.
theorem nothingToDo_of_cooperative_mixed :
    Cooperative Sample.resource Sample.mixedWorld.cluster ∧
    (∀ k, ∃ outcome, Sample.mixedWorld.turnAnswer Sample.resource .zero (fun _ => Sample.now) k =
      .ok outcome) ∧
    ∃ k < 8 * 2 + 20, Sample.mixedWorld.turnAnswer Sample.resource .zero (fun _ => Sample.now) k =
      .ok .nothingToDo := by
  have hsize : Sample.mixedWorld.cluster.nodes.size = 2 := by decide +kernel
  have h := nothingToDo_of_cooperative Sample.cooperative_mixedWorld .zero fun _ => Sample.now
  rw [hsize] at h
  exact ⟨Sample.cooperative_mixedWorld, h⟩

end KernelRollout
