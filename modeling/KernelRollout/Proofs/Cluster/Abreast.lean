import KernelRollout.Proofs.Cluster.Evictions
import KernelRollout.Proofs.Cluster.OperandVersion
import KernelRollout.Resource.Onload

namespace KernelRollout

namespace OnloadStatus

-- Without the times at which it was written.
def timeless (s : OnloadStatus) : OnloadStatus where
  conditions := s.conditions.map fun c => { c with lastTransitionTime := none }

end OnloadStatus

-- Without its version, and without the times in its status.
def Onload.timeless (o : Onload) : Onload :=
  { o with
    status := o.status.map (·.timeless)
    metadata := { o.metadata with resourceVersion := none } }

-- The pod on the other side, where it may have come to terminate already.
def Pod.Beside (since : Option Timestamp) (p p₁ : Pod) : Prop :=
  p₁ = { p with metadata := { p.metadata with
    resourceVersion := p₁.metadata.resourceVersion
    deletionTimestamp := since.or p.metadata.deletionTimestamp } }

theorem Pod.Beside.isUser_eq {since : Option Timestamp} {p p₁ : Pod} (h : p.Beside since p₁) :
    Drain.isUser p₁ = Drain.isUser p := by
  rw [h]
  rfl

theorem Pod.Beside.identity_eq {since : Option Timestamp} {p p₁ : Pod} (h : p.Beside since p₁) :
    p₁.metadata.identity = p.metadata.identity := by
  rw [h]
  rfl

-- The query does not look at labels in the territory.
def LabelQuery.Overlooks (T : Territory) (q : LabelQuery) : Prop :=
  ∀ n n₁ : Node, n.Remarked T.labels n₁ → q.selects n₁.metadata.labels = q.selects n.metadata.labels

namespace Cluster

variable {α : Type} {T : Territory} {s s₁ c c₁ : Cluster} {id : Identity} {n n₁ m m₁ : Node}
variable {key name : String} {v : Option String}

-- Without its version, and without its identifier if it is new.
def anonymous [Resource α] (new : Bool) (a : α) : α :=
  let m := Resource.metadata a
  Resource.withMetadata a { m with resourceVersion := none, uid := if new then none else m.uid }

-- The node has labels, possibly none in them.
def labelled (c : Cluster) (name : String) : Bool :=
  (c.nodes.get? name).any (·.metadata.labels.isSome)

def terminatingSince? (c : Cluster) (id : Identity) : Option Timestamp :=
  (c.pods.get? id).bind (·.metadata.deletionTimestamp)

-- `c₁` has come from `s₁` in the way in which `c` has come from `s`. Calls that look at nothing in
-- the territory are answered alike on both sides, and keep it so.
structure Abreast (T : Territory) (s s₁ c c₁ : Cluster) : Prop where
  keyed            : c.Keyed
  keyed₁           : c₁.Keyed
  nodes            : c.nodes.Pointwise (fun name n n₁ => n.Remarked T.labels n₁ ∧
    n₁.metadata.labels.isSome = (s₁.labelled name || n.metadata.labels.isSome)) c₁.nodes
  pods             : c.pods.Pointwise (fun j => Pod.Beside (s₁.terminatingSince? j)) c₁.pods
  onloads          : ∀ id, ¬T.onloads id →
    (c₁.onloads.get? id).map (·.timeless) = (c.onloads.get? id).map (·.timeless)
  modules          : ∀ id, ¬T.modules id →
    (c₁.modules.get? id).map (anonymous (!s.modules.contains id)) =
      (c.modules.get? id).map (anonymous (!s.modules.contains id))
  daemonSets       : ∀ id, ¬T.daemonSets id →
    (c₁.daemonSets.get? id).map (anonymous (!s.daemonSets.contains id)) =
      (c.daemonSets.get? id).map (anonymous (!s.daemonSets.contains id))
  failingNodes     : c₁.failingNodes = c.failingNodes
  blockedEvictions : c₁.blockedEvictions = c.blockedEvictions
  actions          : ∀ a, (∀ j, a ≠ .evictPod j) →
    c₁.actions.count a + s.actions.count a = c.actions.count a + s₁.actions.count a

-- A node as it is stored on both sides.
structure Twin (T : Territory) (c c₁ : Cluster) (n n₁ : Node) : Prop where
  stored   : c.Stores n
  stored₁  : c₁.Stores n₁
  remarked : n.Remarked T.labels n₁

namespace Twin

theorem name_eq (h : Twin T c c₁ n n₁) : n₁.name = n.name := h.remarked.name_eq

theorem relabelled (ht : Twin T c c₁ n n₁) (key : String) (v : Option String) :
    Twin T (c.relabel n key v) (c₁.relabel n₁ key v) (n.relabelled key v (c.version + 1))
      (n₁.relabelled key v (c₁.version + 1)) :=
  ⟨stores_relabelled, stores_relabelled, ht.remarked.both _ _⟩

theorem relabel_other (ht : Twin T c c₁ n n₁) (hm : Twin T c c₁ m m₁) (hne : m.name ≠ n.name) :
    Twin T (c.relabel n key v) (c₁.relabel n₁ key v) m m₁ where
  stored := hm.stored.relabel_other hne
  stored₁ := hm.stored₁.relabel_other (by rwa [hm.name_eq, ht.name_eq])
  remarked := hm.remarked

-- Both sides choose the same nodes.
theorem filter {p : Node → Bool} {ns ns₁ : List Node} (h : List.Forall₂ (Twin T c c₁) ns ns₁)
    (hp : ∀ n n₁, n.Remarked T.labels n₁ → p n₁ = p n) :
    List.Forall₂ (Twin T c c₁) (ns.filter p) (ns₁.filter p) := by
  refine List.rel_filter (fun n n₁ ht => ?_) h
  dsimp only
  rw [hp n n₁ ht.remarked]

end Twin

namespace Abreast

theorem start (h : Within T s s₁) (hk : s.Keyed) (hk₁ : s₁.Keyed) : Abreast T s s₁ s s₁ where
  keyed := hk
  keyed₁ := hk₁
  nodes := h.nodes.mono fun name n n₁ hn hn₁ hr => by
    refine ⟨hr, ?_⟩
    rw [labelled, hn₁, Option.any_some]
    cases hl : n.metadata.labels.isSome with
    | false => rw [Bool.or_false]
    | true => rw [hr.kept hl, Bool.true_or]
  pods := h.pods.mono fun j p p₁ hp hp₁ he => by
    rw [terminatingSince?, hp₁, Option.bind_some, Pod.Beside]
    cases he with
    | kept => cases hd : p.metadata.deletionTimestamp <;> simp [← hd]
    | evicted => rfl
  onloads id hid := by rw [h.onloads id hid]
  modules id hid := by rw [h.modules id hid]
  daemonSets id hid := by rw [h.daemonSets id hid]
  failingNodes := h.failingNodes
  blockedEvictions := h.blockedEvictions
  actions _ _ := Nat.add_comm ..

-- Both sides write the same, other than an eviction.
theorem count_actions (h : Abreast T s s₁ c c₁) (b : Action) : ∀ a, (∀ j, a ≠ .evictPod j) →
    (c₁.actions ++ [b]).count a + s.actions.count a =
      (c.actions ++ [b]).count a + s₁.actions.count a := by
  intro a ha
  have hcount := h.actions a ha
  rw [List.count_append, List.count_append]
  omega

theorem twins (h : Abreast T s s₁ c c₁) {q : LabelQuery} (hq : q.Overlooks T) :
    List.Forall₂ (Twin T c c₁) (c.listNodes q) (c₁.listNodes q) := by
  have htwins : c.nodes.Pointwise (fun _ => Twin T c c₁) c₁.nodes :=
    h.nodes.mono fun _ _ _ hn hn₁ hr => ⟨h.keyed.stores hn, h.keyed₁.stores hn₁, hr.left⟩
  have hvalues : List.Forall₂ (Twin T c c₁) c.nodes.values c₁.nodes.values := by
    rw [Dict.values, Dict.values, List.forall₂_map_left_iff, List.forall₂_map_right_iff]
    exact htwins.forall₂_entries.imp fun _ _ he => he.right
  exact Twin.filter hvalues hq

theorem refuses_eq (h : Abreast T s s₁ c c₁) (name : String) : c₁.refuses name = c.refuses name := by
  rw [refuses, refuses, h.failingNodes]

theorem relabel (h : Abreast T s s₁ c c₁) (ht : Twin T c c₁ n n₁) (key : String) (v : Option String) :
    Abreast T s s₁ (c.relabel n key v) (c₁.relabel n₁ key v) := by
  have hname := ht.name_eq
  exact { h with
    keyed := h.keyed.relabel n
    keyed₁ := h.keyed₁.relabel n₁
    nodes := by
      rw [Cluster.relabel, Cluster.relabel, hname]
      refine h.nodes.insert ⟨ht.remarked.both _ _, ?_⟩
      simp [Node.relabelled, withVersion]
    actions := by
      rw [actions_relabel, actions_relabel, hname]
      exact h.count_actions _ }

-- A patch goes through on both sides, or it is refused with the same error.
theorem answer_patchNodeLabels (h : Abreast T s s₁ c c₁) (ht : Twin T c c₁ n n₁) (key : String)
    (v : Option String) :
    (∃ e, c.answer (.patchNodeLabels n (Node.change key v)) = (.error e, c) ∧
      c₁.answer (.patchNodeLabels n₁ (Node.change key v)) = (.error e, c₁)) ∨
    (c.answer (.patchNodeLabels n (Node.change key v)) =
        (.ok (n.relabelled key v (c.version + 1)), c.relabel n key v) ∧
      c₁.answer (.patchNodeLabels n₁ (Node.change key v)) =
        (.ok (n₁.relabelled key v (c₁.version + 1)), c₁.relabel n₁ key v)) := by
  have hrefuses : c₁.refuses n₁.name = c.refuses n.name := by rw [ht.name_eq, h.refuses_eq]
  obtain ⟨hf, he⟩ | ⟨hf, he⟩ := Cluster.answer_patchNodeLabels ht.stored key v
  all_goals obtain ⟨hf₁, he₁⟩ | ⟨hf₁, he₁⟩ := Cluster.answer_patchNodeLabels ht.stored₁ key v
  all_goals rw [hrefuses, hf] at hf₁
  case inl.inl =>
    rw [ht.name_eq] at he₁
    exact .inl ⟨_, he, he₁⟩
  case inr.inr => exact .inr ⟨he, he₁⟩
  all_goals cases hf₁

-- The same pods are listed on both sides.
theorem listPods (h : Abreast T s s₁ c c₁) (q : PodQuery) :
    List.Forall₂ (fun p p₁ => ∃ since, p.Beside since p₁) (c.listPods q) (c₁.listPods q) := by
  rw [Cluster.listPods, Cluster.listPods, List.forall₂_map_left_iff, List.forall₂_map_right_iff]
  have hentries := h.pods.forall₂_entries
  refine (List.rel_filter (R := fun e e₁ => e₁.1 = e.1 ∧ e.2.Beside (s₁.terminatingSince? e.1) e₁.2)
    ?_ hentries).imp fun e e₁ he => ⟨_, he.right⟩
  rintro ⟨j, p⟩ ⟨j₁, p₁⟩ ⟨hj, hp⟩
  dsimp only at hj hp
  rw [hj, hp]
  rfl

theorem listPods_isEmpty (h : Abreast T s s₁ c c₁) (q : PodQuery) :
    (c₁.listPods q).isEmpty = (c.listPods q).isEmpty := by
  have hpods := h.listPods q
  generalize c.listPods q = ps, c₁.listPods q = ps₁ at hpods
  cases hpods <;> rfl

theorem users (h : Abreast T s s₁ c c₁) (q : PodQuery) :
    List.Forall₂ (fun p p₁ => ∃ since, p.Beside since p₁) ((c.listPods q).filter Drain.isUser)
      ((c₁.listPods q).filter Drain.isUser) := by
  refine List.rel_filter (fun p p₁ hp => ?_) (h.listPods q)
  obtain ⟨since, hp⟩ := hp
  show Drain.isUser p = true ↔ Drain.isUser p₁ = true
  rw [hp.isUser_eq]

end Abreast

theorem patchOnloadStatus_absent {status : OnloadStatus} (h : c.onloads.get? id = none) :
    (c.patchOnloadStatus id status).2 = { c with version := c.version + 1 } := by
  have h : c.nextVersion.onloads.get? id = none := h
  simp only [patchOnloadStatus, h]
  rfl

theorem patchOnloadStatus_stored {o : Onload} {status : OnloadStatus} (h : c.onloads.get? id = some o) :
    (c.patchOnloadStatus id status).2 = { c with
      onloads := c.onloads.insert id { o with
        status := some status, metadata := withVersion o.metadata (c.version + 1) }
      actions := c.actions ++ [.patchOnloadStatus id]
      version := c.version + 1 } := by
  have h : c.nextVersion.onloads.get? id = some o := h
  simp only [patchOnloadStatus, h]
  rfl

namespace Abreast

theorem count_eviction {a : Action} (ha : ∀ j, a ≠ .evictPod j) (as : List Action) (id : Identity) :
    (as ++ [Action.evictPod id]).count a = as.count a := by
  rw [List.count_append, List.count_singleton, if_neg (by simpa using (ha id).symm), Nat.add_zero]

-- Both sides evict the pod, unless it terminates already.
theorem evictPod (h : Abreast T s s₁ c c₁) (id : Identity) :
    Abreast T s s₁ (c.evictPod id).2 (c₁.evictPod id).2 := by
  cases hb : c.blockedEvictions.contains id with
  | true =>
    rw [evictPod_blocked hb, evictPod_blocked (by rw [h.blockedEvictions, hb])]
    exact h
  | false =>
    have hb₁ : c₁.blockedEvictions.contains id = false := by rw [h.blockedEvictions, hb]
    cases hp : c.pods.get? id with
    | none =>
      rw [evictPod_absent hp, evictPod_absent (h.pods.get?_eq_none.mpr hp)]
      exact h
    | some p =>
      obtain ⟨p₁, hp₁, hbeside⟩ := h.pods.exists_of_get? hp
      have hterminating : p₁.metadata.terminating =
          ((s₁.terminatingSince? id).isSome || p.metadata.terminating) := by
        rw [hbeside]
        simp [Metadata.terminating]
      have hk := h.keyed.evictPod id
      have hk₁ := h.keyed₁.evictPod id
      cases ht : p.metadata.terminating with
      | true =>
        rw [ht, Bool.or_true] at hterminating
        rw [evictPod_terminating hp ht, evictPod_terminating hp₁ hterminating]
        exact h
      | false =>
        rw [ht, Bool.or_false] at hterminating
        rw [evictPod_going hb hp ht] at hk ⊢
        cases hs : s₁.terminatingSince? id with
        | none =>
          rw [hs] at hterminating
          rw [evictPod_going hb₁ hp₁ hterminating] at hk₁ ⊢
          refine { h with keyed := hk, keyed₁ := hk₁, pods := h.pods.insert ?_, actions := fun a ha => ?_ }
          · rw [hs, hbeside, hs]
            rfl
          · rw [count_eviction ha, count_eviction ha, h.actions a ha]
        | some =>
          rw [hs] at hterminating
          rw [evictPod_terminating hp₁ hterminating]
          refine { h with keyed := hk, pods := h.pods.insert_left hp₁ ?_, actions := fun a ha => ?_ }
          · rw [hs] at hbeside ⊢
            exact hbeside
          · rw [count_eviction ha, h.actions a ha]

theorem patchOnloadStatus (h : Abreast T s s₁ c c₁) (hid : ¬T.onloads id) {status status₁ : OnloadStatus}
    (hs : status₁.timeless = status.timeless) :
    Abreast T s s₁ (c.patchOnloadStatus id status).2 (c₁.patchOnloadStatus id status₁).2 := by
  have hk := h.keyed.patchOnloadStatus id status
  have hk₁ := h.keyed₁.patchOnloadStatus id status₁
  have ho := h.onloads id hid
  cases hc : c.onloads.get? id with
  | none =>
    have hc₁ : c₁.onloads.get? id = none := by simpa [hc] using ho
    rw [patchOnloadStatus_absent hc] at hk ⊢
    rw [patchOnloadStatus_absent hc₁] at hk₁ ⊢
    exact { h with keyed := hk, keyed₁ := hk₁ }
  | some o =>
    rw [hc, Option.map_some, Option.map_eq_some_iff] at ho
    obtain ⟨o₁, hc₁, halike⟩ := ho
    rw [patchOnloadStatus_stored hc] at hk ⊢
    rw [patchOnloadStatus_stored hc₁] at hk₁ ⊢
    refine { h with keyed := hk, keyed₁ := hk₁, onloads := fun j hj => ?_, actions := h.count_actions _ }
    rw [Dict.get?_insert, Dict.get?_insert]
    split
    case isFalse => exact h.onloads j hj
    case isTrue =>
      have hreported (o : Onload) (status : OnloadStatus) (version : Nat) : Onload.timeless { o with
          status := some status, metadata := withVersion o.metadata version } =
          { o.timeless with status := some status.timeless } := rfl
      rw [Option.map_some, Option.map_some, hreported, hreported, halike, hs]

end Abreast

-- Two starts that differ in the territory only.
structure Starts (T : Territory) (s s₁ : Cluster) : Prop where
  within : Within T s s₁
  keyed  : s.Keyed
  keyed₁ : s₁.Keyed

-- A call goes through on both sides.
def Together {α : Type} (T : Territory) (s s₁ : Cluster) (call : Call α) : Prop :=
  ∃ a a₁ c c₁, s.answer call = (.ok a, c) ∧ s₁.answer call = (.ok a₁, c₁) ∧ Abreast T s s₁ c c₁

theorem anonymous_withVersion [Resource α] [LawfulResource α] (new : Bool) (a : α) (m : Metadata)
    (version : Nat) : anonymous new (Resource.withMetadata a (withVersion m version)) =
      Resource.withMetadata a { m with resourceVersion := none, uid := if new then none else m.uid } := by
  rw [anonymous, LawfulResource.metadata_withMetadata, LawfulResource.withMetadata_withMetadata]
  rfl

theorem anonymous_admitted [Resource α] [LawfulResource α] (a : α) (version : Nat) :
    anonymous true (admitted a version) =
      Resource.withMetadata a { Resource.metadata a with resourceVersion := none, uid := none } := by
  rw [admitted, anonymous_withVersion]
  rfl

-- An object is stored on both sides, where everything was the same before.
theorem anonymous_insert [Resource α] {own : Identity → Prop} {d d₁ : Dict Identity α} {a a₁ : α}
    (hd : ∀ id, ¬own id → d₁.get? id = d.get? id)
    (ha : anonymous (!d.contains id) a₁ = anonymous (!d.contains id) a) :
    ∀ j, ¬own j → ((d₁.insert id a₁).get? j).map (anonymous (!d.contains j)) =
      ((d.insert id a).get? j).map (anonymous (!d.contains j)) := by
  intro j hj
  rw [Dict.get?_insert, Dict.get?_insert]
  split
  case isTrue he => rw [he, Option.map_some, Option.map_some, ha]
  case isFalse => rw [hd j hj]

namespace Starts

theorem abreast (h : Starts T s s₁) : Abreast T s s₁ s s₁ := .start h.within h.keyed h.keyed₁

theorem writeModules (h : Starts T s s₁) {d d₁ : Dict Identity KernelModule} (a : Action)
    (version version₁ : Nat) (hk : d.KeyedBy idOf) (hk₁ : d₁.KeyedBy idOf)
    (hd : ∀ id, ¬T.modules id → (d₁.get? id).map (anonymous (!s.modules.contains id)) =
      (d.get? id).map (anonymous (!s.modules.contains id))) :
    Abreast T s s₁ { s with modules := d, actions := s.actions ++ [a], version }
      { s₁ with modules := d₁, actions := s₁.actions ++ [a], version := version₁ } :=
  { h.abreast with
    keyed := { h.keyed with modules := hk }
    keyed₁ := { h.keyed₁ with modules := hk₁ }
    modules := hd
    actions := h.abreast.count_actions a }

theorem writeDaemonSets (h : Starts T s s₁) {d d₁ : Dict Identity DaemonSet} (a : Action)
    (version version₁ : Nat) (hk : d.KeyedBy idOf) (hk₁ : d₁.KeyedBy idOf)
    (hd : ∀ id, ¬T.daemonSets id → (d₁.get? id).map (anonymous (!s.daemonSets.contains id)) =
      (d.get? id).map (anonymous (!s.daemonSets.contains id))) :
    Abreast T s s₁ { s with daemonSets := d, actions := s.actions ++ [a], version }
      { s₁ with daemonSets := d₁, actions := s₁.actions ++ [a], version := version₁ } :=
  { h.abreast with
    keyed := { h.keyed with daemonSets := hk }
    keyed₁ := { h.keyed₁ with daemonSets := hk₁ }
    daemonSets := hd
    actions := h.abreast.count_actions a }

theorem createModule (h : Starts T s s₁) {m : KernelModule} (hm : ¬T.modules (idOf m))
    (hnone : s.modules.get? (idOf m) = none) : Together T s s₁ (.createModule m) := by
  have hnone₁ : s₁.modules.get? (idOf m) = none := (h.within.modules _ hm).trans hnone
  refine ⟨_, _, _, _, create_absent (s := moduleStore) hnone, create_absent (s := moduleStore) hnone₁, ?_⟩
  refine h.writeModules _ _ _ (h.keyed.modules.insert (idOf_admitted m _))
    (h.keyed₁.modules.insert (idOf_admitted m _)) (anonymous_insert h.within.modules ?_)
  rw [Dict.contains, hnone, Option.isSome_none, Bool.not_false, anonymous_admitted, anonymous_admitted]

theorem createDaemonSet (h : Starts T s s₁) {d : DaemonSet} (hd : ¬T.daemonSets (idOf d))
    (hnone : s.daemonSets.get? (idOf d) = none) : Together T s s₁ (.createDaemonSet d) := by
  have hnone₁ : s₁.daemonSets.get? (idOf d) = none := (h.within.daemonSets _ hd).trans hnone
  refine ⟨_, _, _, _, create_absent (s := daemonSetStore) hnone,
    create_absent (s := daemonSetStore) hnone₁, ?_⟩
  refine h.writeDaemonSets _ _ _ (h.keyed.daemonSets.insert (idOf_admitted d _))
    (h.keyed₁.daemonSets.insert (idOf_admitted d _)) (anonymous_insert h.within.daemonSets ?_)
  rw [Dict.contains, hnone, Option.isSome_none, Bool.not_false, anonymous_admitted, anonymous_admitted]

theorem replaceModule (h : Starts T s s₁) {m stored : KernelModule} (hm : ¬T.modules (idOf m))
    (hs : s.modules.get? (idOf m) = some stored)
    (hv : m.metadata.resourceVersion = stored.metadata.resourceVersion) :
    Together T s s₁ (.replaceModule m) := by
  have hs₁ : s₁.modules.get? (idOf m) = some stored := (h.within.modules _ hm).trans hs
  refine ⟨_, _, _, _, replace_current (s := moduleStore) hs hv,
    replace_current (s := moduleStore) hs₁ hv, ?_⟩
  refine h.writeModules (.replace .module (idOf m)) (s.version + 1) (s₁.version + 1)
    (h.keyed.modules.insert (idOf_withMetadata m _)) (h.keyed₁.modules.insert (idOf_withMetadata m _))
    (anonymous_insert h.within.modules ?_)
  rw [anonymous_withVersion, anonymous_withVersion]

theorem replaceDaemonSet (h : Starts T s s₁) {d stored : DaemonSet} (hd : ¬T.daemonSets (idOf d))
    (hs : s.daemonSets.get? (idOf d) = some stored)
    (hv : d.metadata.resourceVersion = stored.metadata.resourceVersion) :
    Together T s s₁ (.replaceDaemonSet d) := by
  have hs₁ : s₁.daemonSets.get? (idOf d) = some stored := (h.within.daemonSets _ hd).trans hs
  refine ⟨_, _, _, _, replace_current (s := daemonSetStore) hs hv,
    replace_current (s := daemonSetStore) hs₁ hv, ?_⟩
  refine h.writeDaemonSets (.replace .daemonSet (idOf d)) (s.version + 1) (s₁.version + 1)
    (h.keyed.daemonSets.insert (idOf_withMetadata d _)) (h.keyed₁.daemonSets.insert (idOf_withMetadata d _))
    (anonymous_insert h.within.daemonSets ?_)
  rw [anonymous_withVersion, anonymous_withVersion]

theorem deleteModule (h : Starts T s s₁) {stored : KernelModule} (hid : ¬T.modules id)
    (hs : s.modules.get? id = some stored) : Together T s s₁ (.deleteModule id) := by
  have hs₁ : s₁.modules.get? id = some stored := (h.within.modules _ hid).trans hs
  have hdelete {c : Cluster} (hc : c.modules.get? id = some stored) :
      c.answer (.deleteModule id) = (.ok (), { c with
        modules := c.modules.erase id, actions := c.actions ++ [.delete .module id] }) := by
    rw [answer, delete, if_pos (by simp [moduleStore, Dict.contains, hc])]
    rfl
  refine ⟨_, _, _, _, hdelete hs, hdelete hs₁, ?_⟩
  refine h.writeModules _ _ _ (h.keyed.modules.erase id) (h.keyed₁.modules.erase id) fun j hj => ?_
  rw [Dict.get?_erase, Dict.get?_erase, h.within.modules j hj]

end Starts

end Cluster

end KernelRollout
