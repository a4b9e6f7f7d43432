import KernelRollout.Operator.Watch
import KernelRollout.Proofs.Rollout.Fixpoint

namespace KernelRollout

open Pass
open Sweep (Bare)
open Watch (StreamItem)

variable {id : Identity} {ids ids₁ ids₂ : List Identity} {c c₁ c' : Cluster} {n : Node} {m : Marker}
variable {w : World Cluster} {name key : String}

namespace Cluster

-- What a node has under a key, if the node is there.
def label? (c : Cluster) (name key : String) : Option (Option String) :=
  (c.nodes.get? name).map (·.label? key)

theorem marker?_eq_join : c.marker? id m name = (c.label? name (m.key id)).join := by
  rw [marker?, label?]
  cases c.nodes.get? name <;> rfl

theorem label?_relabel (hs : c.Stores n) {v : Option String} {k : String} :
    (c.relabel n key v).label? name k =
      if name = n.name ∧ k = key then some v else c.label? name k := by
  rw [label?, label?, nodes_relabel]
  by_cases hname : name = n.name
  case neg => simp [hname]
  case pos =>
    rw [if_pos hname, hname, hs, Option.map_some, Option.map_some, Node.label?_relabelled]
    by_cases hkey : k = key <;> simp [hkey]

end Cluster

-- All nodes that take patches have lost the markers of some resources. Other labels are as they were,
-- and so are all objects but nodes.
structure Unmarked (ids : List Identity) (c c' : Cluster) : Prop where
  onloads    : c'.onloads = c.onloads
  pods       : c'.pods = c.pods
  modules    : c'.modules = c.modules
  daemonSets : c'.daemonSets = c.daemonSets
  refuses    : ∀ name, c'.refuses name = c.refuses name
  gone       : ∀ name, c.refuses name = false → ∀ id ∈ ids, ∀ m, c'.marker? id m name = none
  refused    : ∀ name, c.refuses name = true → c'.nodes.get? name = c.nodes.get? name
  labels     : ∀ name key, c'.label? name key = c.label? name key ∨
    (c'.label? name key = some none ∧ ∃ id ∈ ids, ∃ m : Marker, key = m.key id)

namespace Unmarked

theorem refl : Unmarked [] c c where
  onloads      := rfl
  pods         := rfl
  modules      := rfl
  daemonSets   := rfl
  refuses _    := rfl
  gone _ _ _   := nofun
  refused _ _  := rfl
  labels _ _   := .inl rfl

theorem marker?_eq_none (h : Unmarked ids c c') (hm : c.marker? id m name = none) :
    c'.marker? id m name = none := by
  rw [Cluster.marker?_eq_join] at hm ⊢
  cases h.labels name (m.key id)
  case inl hsame => rw [hsame, hm]
  case inr hgone =>
    rw [hgone.left]
    rfl

theorem trans (h₁ : Unmarked ids₁ c c₁) (h₂ : Unmarked ids₂ c₁ c') : Unmarked (ids₁ ++ ids₂) c c' where
  onloads      := h₂.onloads.trans h₁.onloads
  pods         := h₂.pods.trans h₁.pods
  modules      := h₂.modules.trans h₁.modules
  daemonSets   := h₂.daemonSets.trans h₁.daemonSets
  refuses name := (h₂.refuses name).trans (h₁.refuses name)
  gone name hf id hid m := by
    cases List.mem_append.mp hid
    case inl hid => exact h₂.marker?_eq_none (h₁.gone name hf id hid m)
    case inr hid => exact h₂.gone name (h₁.refuses name ▸ hf) id hid m
  refused name hf := (h₂.refused name (h₁.refuses name ▸ hf)).trans (h₁.refused name hf)
  labels name key := by
    cases h₂.labels name key
    case inr hgone =>
      have ⟨hnone, id, hid, hkey⟩ := hgone
      exact .inr ⟨hnone, id, List.mem_append_right _ hid, hkey⟩
    case inl hsame =>
      cases h₁.labels name key
      case inl h => exact .inl (hsame.trans h)
      case inr hgone =>
        have ⟨hnone, id, hid, hkey⟩ := hgone
        exact .inr ⟨hsame.trans hnone, id, List.mem_append_left _ hid, hkey⟩

end Unmarked

theorem Sweep.Bare.marker? (h : Bare id c) (hk : c.Keyed) (hf : c.refuses name = false) :
    c.marker? id m name = none := by
  rw [Cluster.marker?]
  cases hn : c.nodes.get? name with
  | none => rfl
  | some n =>
    have hname := hk.nodes name n hn
    exact h n (hk.stores hn) (hname ▸ hf) m

namespace Relabelling

variable (h : Relabelling id (Sweep.Takes id c) c c')
include h

theorem takes_refused (hf : c.refuses name = true) : c'.nodes.get? name = c.nodes.get? name := by
  refine h.preserves (P := fun c₁ => c₁.nodes.get? name = c.nodes.get? name) rfl ?_
  intro c₁ n m v hsame _ hr
  have hne : name ≠ n.name := by
    intro he
    have hfalse := hr.taken
    rw [← he, hf] at hfalse
    cases hfalse
  rw [Cluster.nodes_relabel, if_neg hne, hsame]

theorem takes_labels (name key : String) : c'.label? name key = c.label? name key ∨
    (c'.label? name key = some none ∧ ∃ m : Marker, key = m.key id) := by
  refine h.preserves (P := fun c₁ => c₁.label? name key = c.label? name key ∨
    (c₁.label? name key = some none ∧ ∃ m : Marker, key = m.key id)) (.inl rfl) ?_
  intro c₁ n m v hlabels hs hr
  rw [Cluster.label?_relabel hs, hr.clears.eq_none]
  by_cases hsame : name = n.name ∧ key = m.key id
  case pos => exact .inr ⟨if_pos hsame, m, hsame.right⟩
  case neg => rwa [if_neg hsame]

theorem unmarked (hk : c.Keyed) (hb : Bare id c') : Unmarked [id] c c' where
  onloads      := h.onloads
  pods         := h.pods
  modules      := h.modules
  daemonSets   := h.daemonSets
  refuses _    := h.refuses
  gone name hf := by
    simpa using fun m => hb.marker? (h.keyed hk) (h.refuses ▸ hf)
  refused name := h.takes_refused
  labels name key := by
    simpa using h.takes_labels name key

end Relabelling

namespace Watch

variable {σ : Type}

-- The resource that an item deletes. A deletion without a namespace is passed over.
def StreamItem.deletes : StreamItem → List Identity
  | deleted m => if m.ns.isSome then [m.identity] else []
  | _         => []

-- The resources that a stream deletes.
def deletions (items : List StreamItem) : List Identity := items.flatMap (·.deletes)

-- Nothing that comes of an item ends the stream.
theorem exec_followDeletions (s : Setup σ) (items : List StreamItem) (w : World σ) :
    exec (followDeletions s items) w =
      (.error .watchEnded, items.foldl (fun w item => onItem s item w) w) := by
  induction items generalizing w with
  | nil => rfl
  | cons item items hi => exact hi (onItem s item w)

theorem unmarked_onItem (item : StreamItem) (delay : Duration) (now : Timestamp)
    (hk : w.cluster.Keyed) (hgone : ∀ id ∈ item.deletes, w.cluster.onloads.get? id = none) :
    (onItem (.inMemory delay now) item w).cluster.Keyed ∧
    Unmarked item.deletes w.cluster (onItem (.inMemory delay now) item w).cluster := by
  cases item with
  | other | failure => exact ⟨hk, .refl⟩
  | deleted m =>
    rw [StreamItem.deletes] at hgone ⊢
    rw [onItem]
    by_cases hns : m.ns.isSome = true
    case neg =>
      rw [if_neg hns, if_neg hns]
      exact ⟨hk, .refl⟩
    case pos =>
      rw [if_pos hns] at hgone ⊢
      rw [if_pos hns]
      have hsweep : Succeeds (Sweep.allMarkers (.inMemory delay now) m.identity) w _ :=
        Sweep.ensures_allMarkers hk
      have hpass := ensures_pass_gone
        (fun c => Relabelling m.identity (Sweep.Takes m.identity w.cluster) w.cluster c ∧
          Bare m.identity c) (hgone _ List.mem_cons_self) hsweep
      have hrel := hpass.right.left
      exact ⟨hrel.keyed hk, hrel.unmarked hk hpass.right.right⟩

theorem unmarked_foldl (items : List StreamItem) (delay : Duration) (now : Timestamp)
    (hk : w.cluster.Keyed) (hgone : ∀ id ∈ deletions items, w.cluster.onloads.get? id = none) :
    Unmarked (deletions items) w.cluster
      (items.foldl (fun w item => onItem (.inMemory delay now) item w) w).cluster := by
  induction items generalizing w with
  | nil => exact .refl
  | cons item items hi =>
    rw [deletions, List.flatMap_cons] at hgone ⊢
    have ⟨hk', h⟩ := unmarked_onItem item delay now hk fun id hid => hgone id (List.mem_append_left _ hid)
    refine h.trans (hi hk' fun id hid => ?_)
    rw [h.onloads]
    exact hgone id (List.mem_append_right _ hid)

-- The end of the stream is reported as a failure of the watch. Until then every deletion has been
-- followed.
theorem deletions_followed (items : List StreamItem) (delay : Duration) (now : Timestamp)
    (hk : w.cluster.Keyed) (hgone : ∀ id ∈ deletions items, w.cluster.onloads.get? id = none) :
    (exec (followDeletions (.inMemory delay now) items) w).1 = .error .watchEnded ∧
    Unmarked (deletions items) w.cluster
      (exec (followDeletions (.inMemory delay now) items) w).2.cluster := by
  rw [exec_followDeletions]
  exact ⟨rfl, unmarked_foldl items delay now hk hgone⟩

-- Two resources are deleted, one of them twice, with a failure of the stream in between. One worker
-- refuses patches, and the other keeps the marker of a resource whose name starts in the same way.
theorem deletions_followed_refused :
    ∃ (w : World Cluster) (items : List StreamItem) (w' : World Cluster),
      exec (followDeletions (.inMemory .zero Sample.now) items) w = (.error .watchEnded, w') ∧
      deletions items = [⟨"default", "old"⟩, ⟨"default", "other"⟩, ⟨"default", "old"⟩] ∧
      w.cluster.Keyed ∧ (∀ id ∈ deletions items, w.cluster.onloads.get? id = none) ∧
      w.cluster.marker? ⟨"default", "old"⟩ .ready "a" = some "1" ∧
      w'.cluster.marker? ⟨"default", "old"⟩ .ready "a" = none ∧
      w'.cluster.marker? ⟨"default", "older"⟩ .ready "a" = some "2" ∧
      w'.cluster.marker? ⟨"default", "other"⟩ .loader "b" = some "1" ∧
      Unmarked (deletions items) w.cluster w'.cluster := by
  let old : Identity := ⟨"default", "old"⟩
  let older : Identity := ⟨"default", "older"⟩
  let other : Identity := ⟨"default", "other"⟩
  let labels := (Dict.empty.insert (Marker.ready.key old) "1").insert (Marker.ready.key older) "2"
    |>.insert (Marker.loader.key other) "1"
  let edits : List Edit := [.putOnload (Sample.onload "1"), .putNode (.labelled "a" labels),
    .putNode (.labelled "b" labels), .failNodePatches "b"]
  let w : World Cluster := {
    cluster := Edit.applyAll edits {}
    metrics := {}
    backoff := { min := .zero, max := .zero } }
  let deletion (id : Identity) : StreamItem := .deleted { name := some id.name, ns := some id.ns }
  let items := [deletion old, .failure, .other, .deleted { name := some older.name }, deletion other,
    deletion old]
  have hk : w.cluster.Keyed := Cluster.Keyed.empty.applyAll _
  have hgone : ∀ id ∈ deletions items, w.cluster.onloads.get? id = none := by decide +kernel
  have ⟨hended, h⟩ := deletions_followed items .zero Sample.now hk hgone
  exact ⟨w, items, _, Prod.ext hended rfl, by decide +kernel, hk, hgone, by decide +kernel,
    by decide +kernel, by decide +kernel, by decide +kernel, h⟩

end Watch

end KernelRollout
