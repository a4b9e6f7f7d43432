import KernelRollout.Proofs.Cluster.Abreast

namespace KernelRollout

variable {T U : Territory} {s sT sU sTU sUT c₁ c₂ : Cluster}

-- Labels that answer all look-ups alike are the same, if both are there or neither.
theorem Node.labels_ext {n₁ n₂ : Node} (hsome : n₂.metadata.labels.isSome = n₁.metadata.labels.isSome)
    (h : ∀ key, n₂.label? key = n₁.label? key) : n₂.metadata.labels = n₁.metadata.labels := by
  have hall : n₂.metadata.labels.getD .empty = n₁.metadata.labels.getD .empty :=
    Dict.ext_get? fun key => by rw [← Node.label?_eq, ← Node.label?_eq, h]
  cases h₁ : n₁.metadata.labels <;> cases h₂ : n₂.metadata.labels <;> simp [h₁, h₂] at hsome hall
  · rfl
  · rw [hall]

-- A node with two territories of labels, as it is after one, the other and both in either order.
theorem Node.Remarked.diamond {own own' : String → Prop} {n n' n₁ n₂ : Node}
    (hapart : ∀ key, own key → ¬own' key) (h₁ : n'.Remarked own n₁) (h₂ : n'.Remarked own n₂)
    (h₁' : n.Remarked own' n₁) (h₂' : n.Remarked own' n₂)
    (hsome : n₂.metadata.labels.isSome = n₁.metadata.labels.isSome) :
    Cluster.anonymous false n₂ = Cluster.anonymous false n₁ := by
  have hlabels : n₂.metadata.labels = n₁.metadata.labels := by
    refine labels_ext hsome fun key => ?_
    by_cases hkey : own key
    · rw [h₂'.labels key (hapart key hkey), h₁'.labels key (hapart key hkey)]
    · rw [h₂.labels key hkey, h₁.labels key hkey]
  have hanonymous {n₁ : Node} (h : n'.Remarked own n₁) : Cluster.anonymous false n₁ =
      ⟨{ n'.metadata with labels := n₁.metadata.labels, resourceVersion := none }⟩ := by
    conv_lhs => rw [h.rest]
    rfl
  rw [hanonymous h₁, hanonymous h₂, hlabels]

-- Pods that terminate on both sides were evicted on both sides, unless they terminated before.
theorem Pod.EvictedAtMost.since_eq {p p₁ p₂ : Pod} (h₁ : p.EvictedAtMost p₁) (h₂ : p.EvictedAtMost p₂) :
    p₂.metadata.deletionTimestamp.or p₁.metadata.deletionTimestamp =
      p₁.metadata.deletionTimestamp.or p₂.metadata.deletionTimestamp := by
  cases h₁ with
  | kept =>
    cases h₂ with
    | kept => rfl
    | evicted h => rw [h, Option.none_or, Option.or_none]
  | evicted h =>
    cases h₂ with
    | kept => rw [h, Option.none_or, Option.or_none]
    | evicted => rfl

-- What is seen of a pod on the other side, from what it was at first.
theorem Pod.Beside.anonymous_eq {p q q₁ : Pod} {since : Option Timestamp} (hp : p.EvictedAtMost q)
    (h : q.Beside since q₁) : Cluster.anonymous false q₁ = { p with metadata := { p.metadata with
      resourceVersion := none
      deletionTimestamp := since.or q.metadata.deletionTimestamp } } := by
  rw [h]
  cases hp <;> rfl

namespace Cluster

-- The clusters have come from one, and are the same but for what depends on the order of calls: the
-- versions, the identifiers of new objects, the times of reports and the order of the log.
structure Similar (c c₁ c₂ : Cluster) : Prop where
  nodes            : c₂.nodes.map (anonymous false) = c₁.nodes.map (anonymous false)
  pods             : c₂.pods.map (anonymous false) = c₁.pods.map (anonymous false)
  onloads          : c₂.onloads.map (·.timeless) = c₁.onloads.map (·.timeless)
  modules          : ∀ id, (c₂.modules.get? id).map (anonymous (!c.modules.contains id)) =
    (c₁.modules.get? id).map (anonymous (!c.modules.contains id))
  daemonSets       : ∀ id, (c₂.daemonSets.get? id).map (anonymous (!c.daemonSets.contains id)) =
    (c₁.daemonSets.get? id).map (anonymous (!c.daemonSets.contains id))
  failingNodes     : c₂.failingNodes = c₁.failingNodes
  blockedEvictions : c₂.blockedEvictions = c₁.blockedEvictions
  actions          : c₂.actions.Perm c₁.actions

theorem evictable_eq (h : c₂.pods.map (anonymous false) = c₁.pods.map (anonymous false)) (j : Identity) :
    c₂.evictable j = c₁.evictable j := by
  have hj := congrArg (·.get? j) h
  simp only [Dict.get?_map] at hj
  have hany (c : Cluster) : (c.pods.get? j).any (!·.metadata.terminating) =
      ((c.pods.get? j).map (anonymous false)).any (!·.metadata.terminating) := by
    rw [Option.any_map]
    rfl
  rw [evictable, evictable, hany, hany, hj]

theorem similar_nodes (hapart : T.Apart U) (hT : Within T s sT) (hU : Within U s sU)
    (hTU : Within U sT sTU) (hUT : Within T sU sUT) (h : Abreast T s sT sU sTU)
    (h' : Abreast U s sU sT sUT) :
    sUT.nodes.map (anonymous false) = sTU.nodes.map (anonymous false) := by
  refine Dict.ext_get? fun name => ?_
  rw [Dict.get?_map, Dict.get?_map]
  cases hn : s.nodes.get? name with
  | none =>
    have hnT := hT.nodes.get?_eq_none.mpr hn
    rw [hTU.nodes.get?_eq_none.mpr hnT, hUT.nodes.get?_eq_none.mpr (hU.nodes.get?_eq_none.mpr hn)]
  | some n =>
    obtain ⟨nT, hnT, _⟩ := hT.nodes.exists_of_get? hn
    obtain ⟨nU, hnU, _⟩ := hU.nodes.exists_of_get? hn
    obtain ⟨nTU, hnTU, hby⟩ := hTU.nodes.exists_of_get? hnT
    obtain ⟨nUT, hnUT, hby'⟩ := hUT.nodes.exists_of_get? hnU
    obtain ⟨hr, hsome⟩ := h.nodes.of_get? hnU hnTU
    obtain ⟨hr', hsome'⟩ := h'.nodes.of_get? hnT hnUT
    rw [labelled, hnT, Option.any_some] at hsome
    rw [labelled, hnU, Option.any_some, Bool.or_comm] at hsome'
    rw [hnTU, hnUT, Option.map_some, Option.map_some]
    exact congrArg some (hr.diamond hapart.labels hby' hby hr' (hsome'.trans hsome.symm))

theorem similar_pods (hT : Within T s sT) (hU : Within U s sU) (h : Abreast T s sT sU sTU)
    (h' : Abreast U s sU sT sUT) :
    sUT.pods.map (anonymous false) = sTU.pods.map (anonymous false) := by
  refine Dict.ext_get? fun j => ?_
  rw [Dict.get?_map, Dict.get?_map]
  cases hp : s.pods.get? j with
  | none =>
    rw [h.pods.get?_eq_none.mpr (hU.pods.get?_eq_none.mpr hp),
      h'.pods.get?_eq_none.mpr (hT.pods.get?_eq_none.mpr hp)]
  | some p =>
    obtain ⟨pT, hpT, heT⟩ := hT.pods.exists_of_get? hp
    obtain ⟨pU, hpU, heU⟩ := hU.pods.exists_of_get? hp
    obtain ⟨pTU, hpTU, hbeside⟩ := h.pods.exists_of_get? hpU
    obtain ⟨pUT, hpUT, hbeside'⟩ := h'.pods.exists_of_get? hpT
    rw [terminatingSince?, hpT, Option.bind_some] at hbeside
    rw [terminatingSince?, hpU, Option.bind_some] at hbeside'
    rw [hpTU, hpUT, Option.map_some, Option.map_some, hbeside.anonymous_eq heU,
      hbeside'.anonymous_eq heT, heT.since_eq heU]

-- From a start to the end by way of `sT` or by way of `sU`.
theorem similar_of_abreast (hapart : T.Apart U) (hT : Calls T s sT) (hU : Calls U s sU)
    (hTU : Calls U sT sTU) (hUT : Calls T sU sUT) (h : Abreast T s sT sU sTU)
    (h' : Abreast U s sU sT sUT) : Similar s sTU sUT := by
  have hpods := similar_pods hT.within hU.within h h'
  constructor
  case nodes => exact similar_nodes hapart hT.within hU.within hTU.within hUT.within h h'
  case pods => exact hpods
  case onloads =>
    refine Dict.ext_get? fun id => ?_
    rw [Dict.get?_map, Dict.get?_map]
    by_cases hid : T.onloads id
    · rw [h'.onloads id (hapart.onloads id hid), hTU.within.onloads id (hapart.onloads id hid)]
    · rw [h.onloads id hid, hUT.within.onloads id hid]
  case modules =>
    intro id
    by_cases hid : T.modules id
    · rw [h'.modules id (hapart.modules id hid), hTU.within.modules id (hapart.modules id hid)]
    · rw [h.modules id hid, hUT.within.modules id hid]
  case daemonSets =>
    intro id
    by_cases hid : T.daemonSets id
    · rw [h'.daemonSets id (hapart.daemonSets id hid), hTU.within.daemonSets id (hapart.daemonSets id hid)]
    · rw [h.daemonSets id hid, hUT.within.daemonSets id hid]
  case failingNodes => rw [h.failingNodes, hUT.within.failingNodes]
  case blockedEvictions => rw [h.blockedEvictions, hUT.within.blockedEvictions]
  case actions =>
    refine List.perm_iff_count.mpr fun a => ?_
    by_cases ha : ∃ j, a = .evictPod j
    case pos =>
      obtain ⟨j, rfl⟩ := ha
      have hTU := (hTU.evictions_add j).trans (hT.evictions_add j)
      have hUT := (hUT.evictions_add j).trans (hU.evictions_add j)
      rw [← hTU, evictable_eq hpods] at hUT
      exact Nat.add_right_cancel hUT
    case neg =>
      have ha : ∀ j, a ≠ .evictPod j := fun j he => ha ⟨j, he⟩
      have hcount := h.actions a ha
      have hcount' := h'.actions a ha
      omega

end Cluster

end KernelRollout
