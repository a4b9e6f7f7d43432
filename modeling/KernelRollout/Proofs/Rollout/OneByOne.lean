import KernelRollout.Proofs.Rollout.InFlight

namespace KernelRollout

open Cluster (Aside)

variable {id : Identity} {c c' : Cluster} {n : Node} {t : Target}

-- What holds of nodes that one rollout found at work, all along the rollout. The node in flight, if
-- there is one, has lost its outdated module or is the first of those that have not.
structure OneByOne (id : Identity) (among : String → Prop) (c : Cluster) : Prop where
  keyed    : c.Keyed
  apart    : c.SelectsApart id
  selected : ∀ a, among a → c.Selected id a
  one      : c.AtMostOne id among
  first    : ∀ a b, among a → among b → c.InFlight id a → c.Outdated id a → c.Outdated id b → ¬b < a

-- What others do while the resource and the labels of all nodes stay. Nodes may join.
structure LeavesLabels (id : Identity) (c c' : Cluster) : Prop where
  keyed  : c'.Keyed
  spec   : c'.spec? id = c.spec? id
  labels : ∀ name n, c.nodes.get? name = some n →
    ∃ n', c'.nodes.get? name = some n' ∧ n'.metadata.labels = n.metadata.labels

namespace LeavesLabels

theorem of_aside (hk : c.Keyed) (h : Aside c c') : LeavesLabels id c c' :=
  ⟨h.keyed hk, h.specs id, fun _ n hn => ⟨n, h.nodes ▸ hn, rfl⟩⟩

theorem putNode (hk : c.Keyed) (hnew : c.nodes.get? n.name = none) :
    LeavesLabels id c (c.putNode n) := by
  refine ⟨hk.edit (.putNode n), rfl, fun name x hx => ⟨x, ?_, rfl⟩⟩
  have hne : name ≠ n.name := by
    intro h
    subst h
    rw [hnew] at hx
    cases hx
  exact (Dict.get?_insert_other _ _ hne).trans hx

end LeavesLabels

namespace OneByOne

variable {among : String → Prop}

theorem calm (h : OneByOne id among c) (hk : c'.Keyed) (hc : Calm id c c') :
    OneByOne id among c' where
  keyed := hk
  apart := h.apart.congr hc.spec
  selected a ha := (hc.selected a).mpr (h.selected a ha)
  one a b ha hb hfa hfb := h.one a b ha hb (hc.inFlight a (h.selected a ha) hfa)
    (hc.inFlight b (h.selected b hb) hfb)
  first a b ha hb hfa hoa hob := h.first a b ha hb (hc.inFlight a (h.selected a ha) hfa)
    (hc.outdated a (h.selected a ha) hoa) (hc.outdated b (h.selected b hb) hob)

theorem took {delay : Duration} {now : Timestamp} {w : World Cluster}
    (h : OneByOne id among w.cluster) (ht : Taken (.inMemory delay now) id w t n) (hk : c'.Keyed)
    (hc : TookOne id n.name w.cluster c') : OneByOne id among c' := by
  have hflight : among n.name → ∀ a, among a → c'.InFlight id a → a = n.name := by
    intro hn a ha hfa
    cases (hc.inFlight a).mp hfa
    case inl h => exact h
    case inr hfa =>
      have hsa := h.selected a ha
      have hoa := ht.left_behind h.keyed hsa hfa
      exact OrderedKey.connected (ht.first h.keyed hsa hoa)
        (h.first a n.name ha hn hfa hoa (ht.outdated h.keyed))
  refine ⟨hk, h.apart.congr hc.spec, fun a ha => (hc.selected a).mpr (h.selected a ha), ?one, ?first⟩
  case one =>
    intro a b ha hb hfa hfb
    by_cases hn : among n.name
    case pos => exact (hflight hn a ha hfa).trans (hflight hn b hb hfb).symm
    case neg =>
      have hbefore : ∀ x, among x → c'.InFlight id x → w.cluster.InFlight id x :=
        fun x hx hf => ((hc.inFlight x).mp hf).resolve_left fun he => hn (he ▸ hx)
      exact h.one a b ha hb (hbefore a ha hfa) (hbefore b hb hfb)
  case first =>
    intro a b ha hb hfa hoa hob
    cases (hc.inFlight a).mp hfa
    case inl he => exact he ▸ ht.first h.keyed (h.selected b hb) ((hc.outdated b).mp hob)
    case inr hfa => exact h.first a b ha hb hfa ((hc.outdated a).mp hoa) ((hc.outdated b).mp hob)

theorem afterPass {w : World Cluster} (h : OneByOne id among w.cluster) (delay : Duration)
    (now : Timestamp) : OneByOne id among (w.afterPass id delay now).cluster := by
  have hk : (w.afterPass id delay now).cluster.Keyed := keyed_afterPass delay now h.keyed
  cases calm_or_taken delay now h.keyed h.apart
  case inl hc => exact h.calm hk hc
  case inr ht =>
    have ⟨t, n, ht, hc⟩ := ht
    exact h.took ht hk hc

theorem others (h : OneByOne id among c) (ho : LeavesLabels id c c') : OneByOne id among c' := by
  have hmarker : ∀ a, among a → ∀ m, c'.marker? id m a = c.marker? id m a := by
    intro a ha m
    obtain ⟨_, _, n, hn, _⟩ := h.selected a ha
    obtain ⟨n', hn', hlabels⟩ := ho.labels a n hn
    simp [Cluster.marker?, hn, hn', Node.label?, Metadata.label?, hlabels]
  have hflight : ∀ a, among a → (c'.InFlight id a ↔ c.InFlight id a) := by
    intro a ha
    simp only [Cluster.InFlight, hmarker a ha]
  have houtdated : ∀ a, among a → (c'.Outdated id a ↔ c.Outdated id a) := by
    intro a ha
    simp only [Cluster.Outdated, hmarker a ha, ho.spec]
  refine ⟨ho.keyed, h.apart.congr ho.spec, ?selected, ?one, ?first⟩
  case selected =>
    intro a ha
    obtain ⟨spec, hspec, n, hn, hmatch⟩ := h.selected a ha
    obtain ⟨n', hn', hlabels⟩ := ho.labels a n hn
    exact ⟨spec, ho.spec.trans hspec, n', hn', hlabels ▸ hmatch⟩
  case one =>
    intro a b ha hb hfa hfb
    exact h.one a b ha hb ((hflight a ha).mp hfa) ((hflight b hb).mp hfb)
  case first =>
    intro a b ha hb hfa hoa hob
    exact h.first a b ha hb ((hflight a ha).mp hfa) ((houtdated a ha).mp hoa) ((houtdated b hb).mp hob)

end OneByOne

-- One node at a time within a rollout, whatever happens besides it.
theorem atMostOne_inFlight {w w' : World Cluster} (hk : w.cluster.Keyed)
    (ha : w.cluster.SelectsApart id)
    (hopen : ∀ name, w.cluster.Selected id name → ¬w.cluster.InFlight id name)
    (r : Run (LeavesLabels id) id w w') :
    r.AfterPasses fun c => c.AtMostOne id (w.cluster.Selected id) := by
  have hstart : OneByOne id (w.cluster.Selected id) w.cluster :=
    ⟨hk, ha, fun _ h => h, fun a _ ha _ hfa => absurd hfa (hopen a ha),
      fun a _ ha _ hfa => absurd hfa (hopen a ha)⟩
  have ⟨_, h⟩ := r.invariant hstart (fun delay now _ h => h.afterPass delay now)
    fun _ _ h ho => h.others ho
  exact h.mono fun _ h => h.one

-- While a worker is drained, another one that comes before it joins, and patches start to fail.
theorem atMostOne_inFlight_joining :
    ∃ (w w' : World Cluster) (r : Run (LeavesLabels Sample.resource) Sample.resource w w'),
      w.cluster.Keyed ∧ w.cluster.SelectsApart Sample.resource ∧
      (∀ name, w.cluster.Selected Sample.resource name → ¬w.cluster.InFlight Sample.resource name) ∧
      w.cluster.Selected Sample.resource "b" ∧ w'.cluster.InFlight Sample.resource "b" ∧
      r.AfterPasses fun c => c.AtMostOne Sample.resource (w.cluster.Selected Sample.resource) := by
  let w := Sample.world "2" "2" [Sample.openWorker "b" "1", Sample.openWorker "c" "1"]
  have hk : w.cluster.Keyed := Sample.keyed_world ..
  have ha : w.cluster.SelectsApart Sample.resource := by decide +kernel
  have hopen : ∀ name, w.cluster.Selected Sample.resource name →
      ¬w.cluster.InFlight Sample.resource name := by decide +kernel
  have hjoin : LeavesLabels Sample.resource (w.afterPass Sample.resource .zero Sample.now).cluster _ :=
    .putNode (n := Sample.worker "a" []) (keyed_afterPass _ _ hk) (by decide +kernel)
  have hfail : LeavesLabels Sample.resource _ _ :=
    .of_aside hjoin.keyed (Edit.aside_of_isAside (e := .failNodePatches "c") _ rfl)
  let r := Run.start.pass .zero Sample.now |>.step hjoin |>.step hfail |>.pass .zero Sample.now
  exact ⟨w, _, r, hk, ha, hopen, by decide +kernel, by decide +kernel, atMostOne_inFlight hk ha hopen r⟩

end KernelRollout
