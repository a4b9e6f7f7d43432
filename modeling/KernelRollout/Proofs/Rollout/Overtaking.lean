import KernelRollout.Proofs.Rollout.InFlight

namespace KernelRollout

open Cluster (Aside)

variable {id : Identity} {c c' : Cluster} {w w' : World Cluster}

-- A pass is about to take a node while another selected node is in flight, which comes after it by
-- name and has a module of yet another version.
def Overtakes (id : Identity) (s : Setup Cluster) (w : World Cluster) : Prop :=
  ∃ t n b, Taken s id w t n ∧ w.cluster.Selected id b ∧ w.cluster.InFlight id b ∧
    w.cluster.Outdated id b ∧ n.name < b

-- At most one of the nodes that are selected now.
def Cluster.AtMostOneSelected (id : Identity) (c : Cluster) : Prop := c.AtMostOne id (c.Selected id)

instance : Decidable (c.AtMostOneSelected id) :=
  decidable_of_iff (∀ a, c.Selected id a → ∀ b, c.Selected id b →
      c.InFlight id a → c.InFlight id b → a = b)
    ⟨fun h a b ha hb => h a ha b hb, fun h a ha b hb => h a b ha hb⟩

-- A pass that finds at most one selected node in flight leaves two only if it overtakes one.
theorem atMostOne_afterPass_iff (delay : Duration) (now : Timestamp) (hk : w.cluster.Keyed)
    (ha : w.cluster.SelectsApart id) (hone : w.cluster.AtMostOneSelected id) :
    (w.afterPass id delay now).cluster.AtMostOneSelected id ↔
      ¬Overtakes id (.inMemory delay now) w := by
  constructor
  case mp =>
    intro h ⟨t, n, b, ht, hs, hf, _, hlt⟩
    have htook : TookOne id n.name w.cluster (w.afterPass id delay now).cluster := by
      have hc := Reconcile.pass_removes_ready hk ht.handles ht.prepared ht.next ht.ready ht.patches
      rw [Target.key, ht.handles.id_eq hk] at hc
      exact hc ▸ tookOne_relabel ha ht.next.stored
    have : n.name = b := h n.name b ((htook.selected _).mpr ht.selected) ((htook.selected b).mpr hs)
      ((htook.inFlight _).mpr (.inl rfl)) ((htook.inFlight b).mpr (.inr hf))
    exact String.lt_irrefl b (this ▸ hlt)
  case mpr =>
    intro h
    cases calm_or_taken delay now hk ha
    case inl hc =>
      intro a b hsa hsb hfa hfb
      have hsa := (hc.selected a).mp hsa
      have hsb := (hc.selected b).mp hsb
      exact hone a b hsa hsb (hc.inFlight a hsa hfa) (hc.inFlight b hsb hfb)
    case inr ht =>
      have ⟨t, n, ht, htook⟩ := ht
      have htaken : ∀ b, (w.afterPass id delay now).cluster.Selected id b →
          (w.afterPass id delay now).cluster.InFlight id b → b = n.name := by
        intro b hs hf
        cases (htook.inFlight b).mp hf
        case inl he => exact he
        case inr hf =>
          have hs := (htook.selected b).mp hs
          have ho := ht.left_behind hk hs hf
          refine OrderedKey.connected (ht.first hk hs ho) fun hlt => h ?_
          exact ⟨t, n, b, ht, hs, hf, ho, hlt⟩
      exact fun a b hsa hsb hfa hfb => (htaken a hsa hfa).trans (htaken b hsb hfb).symm

-- What others do while the selector, the nodes and their labels stay. The version may be edited.
structure KeepsSelection (id : Identity) (c c' : Cluster) : Prop where
  keyed    : c'.Keyed
  selector : (c'.spec? id).map (·.selector) = (c.spec? id).map (·.selector)
  labels   : ∀ name, (c'.nodes.get? name).map (·.metadata.labels) =
    (c.nodes.get? name).map (·.metadata.labels)

namespace KeepsSelection

theorem of_aside (hk : c.Keyed) (h : Aside c c') : KeepsSelection id c c' :=
  ⟨h.keyed hk, by rw [h.specs], fun _ => by rw [h.nodes]⟩

theorem apart (h : KeepsSelection id c c') (ha : c.SelectsApart id) : c'.SelectsApart id := by
  intro spec' hspec' m
  have hsel := h.selector
  rw [hspec'] at hsel
  have ⟨spec, hspec, he⟩ := Option.map_eq_some_iff.mp hsel.symm
  have he : spec.selector = spec'.selector := he
  exact he ▸ ha spec hspec m

theorem marker?_eq (h : KeepsSelection id c c') (m : Marker) (name : String) :
    c'.marker? id m name = c.marker? id m name := by
  have hbind : ∀ x : Option Node, x.bind (·.label? (m.key id)) =
      (x.map (·.metadata.labels)).bind fun labels => labels.bind (·.get? (m.key id)) := by
    intro x
    cases x <;> rfl
  rw [Cluster.marker?, Cluster.marker?, hbind, hbind, h.labels]

theorem selected_iff (h : KeepsSelection id c c') (name : String) :
    c'.Selected id name ↔ c.Selected id name := by
  have hselected : ∀ c : Cluster, c.Selected id name ↔
      ∃ selector labels, (c.spec? id).map (·.selector) = some selector ∧
        (c.nodes.get? name).map (·.metadata.labels) = some labels ∧
        (LabelQuery.ofLabels selector).selects labels = true := by
    intro c
    simp only [Cluster.Selected, Cluster.Matches, Option.map_eq_some_iff]
    constructor
    case mp =>
      intro h
      obtain ⟨spec, hs, n, hn, hm⟩ := h
      exact ⟨_, _, ⟨spec, hs, rfl⟩, ⟨n, hn, rfl⟩, hm⟩
    case mpr =>
      intro h
      obtain ⟨_, _, ⟨spec, hs, he⟩, ⟨n, hn, hl⟩, hm⟩ := h
      exact ⟨spec, hs, n, hn, he ▸ hl ▸ hm⟩
  rw [hselected, hselected, h.selector, h.labels]

theorem atMostOne (h : KeepsSelection id c c') (hone : c.AtMostOneSelected id) :
    c'.AtMostOneSelected id := by
  intro a b hsa hsb hfa hfb
  simp only [Cluster.InFlight, h.marker?_eq] at hfa hfb
  exact hone a b ((h.selected_iff a).mp hsa) ((h.selected_iff b).mp hsb) hfa hfb

end KeepsSelection

theorem apart_afterPass (delay : Duration) (now : Timestamp) (hk : w.cluster.Keyed)
    (ha : w.cluster.SelectsApart id) : (w.afterPass id delay now).cluster.SelectsApart id :=
  ha.congr ((effect_afterPass id delay now hk).spec?_eq id)

def Onload.withVersion (o : Onload) (version : String) : Onload :=
  { o with spec := { o.spec with onload := { o.spec.onload with version } } }

-- The user asks for another version.
def Cluster.editVersion (c : Cluster) (id : Identity) (version : String) : Cluster :=
  match c.onloads.get? id with
  | none   => c
  | some o => c.putOnload (o.withVersion version)

inductive EditsVersion (id : Identity) (c : Cluster) : Cluster → Prop
  | edit (version : String) (hv : Text.allBlank version = false) :
    EditsVersion id c (c.editVersion id version)

theorem keepsSelection_editVersion (hk : c.Keyed) (version : String) :
    KeepsSelection id c (c.editVersion id version) := by
  rw [Cluster.editVersion]
  split
  case h_1 => exact ⟨hk, rfl, fun _ => rfl⟩
  case h_2 o ho =>
    refine ⟨hk.edit (.putOnload _), ?_, fun _ => rfl⟩
    have hid : Cluster.idOf (o.withVersion version) = id := hk.onloads id o ho
    simp [Cluster.spec?, Cluster.putOnload, Cluster.nextVersion, hid, ho]
    rfl

-- With edits of the version there is at most one node in flight exactly as long as no pass overtakes.
theorem atMostOne_inFlight_iff (hk : w.cluster.Keyed) (ha : w.cluster.SelectsApart id)
    (hone : w.cluster.AtMostOneSelected id) (r : Run (KeepsSelection id) id w w') :
    r.AfterPasses (Cluster.AtMostOneSelected id) ↔ r.BeforePasses fun s w => ¬Overtakes id s w := by
  have hrun : w'.cluster.Keyed ∧ w'.cluster.SelectsApart id ∧
      (r.AfterPasses (Cluster.AtMostOneSelected id) → w'.cluster.AtMostOneSelected id) ∧
      (r.AfterPasses (Cluster.AtMostOneSelected id) ↔
        r.BeforePasses fun s w => ¬Overtakes id s w) := by
    induction r with
    | start => exact ⟨hk, ha, fun _ => hone, .rfl⟩
    | pass r delay now hi =>
      have ⟨hk, ha, hone, hiff⟩ := hi
      refine ⟨keyed_afterPass delay now hk, apart_afterPass delay now hk ha, fun h => h.right, ?_⟩
      constructor
      case mp =>
        exact fun h => ⟨hiff.mp h.left, (atMostOne_afterPass_iff delay now hk ha (hone h.left)).mp h.right⟩
      case mpr =>
        intro h
        have hafter := hiff.mpr h.left
        exact ⟨hafter, (atMostOne_afterPass_iff delay now hk ha (hone hafter)).mpr h.right⟩
    | step r h hi =>
      have ⟨_, ha, hone, hiff⟩ := hi
      exact ⟨h.keyed, h.apart ha, fun hafter => h.atMostOne (hone hafter), hiff⟩
  exact hrun.right.right.right

-- The version is edited while the second of two workers is drained and a pod comes, and the next
-- pass overtakes.
theorem atMostOne_inFlight_iff_edited :
    ∃ (w w' : World Cluster) (r : Run (KeepsSelection Sample.resource) Sample.resource w w'),
      w.cluster.Keyed ∧ w.cluster.SelectsApart Sample.resource ∧
      w.cluster.AtMostOneSelected Sample.resource ∧
      ¬r.BeforePasses fun s w => ¬Overtakes Sample.resource s w := by
  let w := Sample.world "2" "3" [Sample.openWorker "a" "2", Sample.worker "b" [(.loader, "1")]]
  have hk : w.cluster.Keyed := Sample.keyed_world ..
  have ha : w.cluster.SelectsApart Sample.resource := by decide +kernel
  have hone : w.cluster.AtMostOneSelected Sample.resource := by decide +kernel
  have hedit : KeepsSelection Sample.resource w.cluster _ := keepsSelection_editVersion hk "3"
  have hpod : KeepsSelection Sample.resource _ _ :=
    .of_aside hedit.keyed (Edit.aside_of_isAside (e := .putPod {}) _ rfl)
  let r₀ : Run (KeepsSelection Sample.resource) Sample.resource w w := .start
  let r := r₀.step hedit |>.step hpod |>.pass .zero Sample.now
  refine ⟨w, _, r, hk, ha, hone, fun h => ?_⟩
  have hafter := (atMostOne_inFlight_iff hk ha hone r).mpr h
  exact absurd hafter.right (by decide +kernel)

-- The version is edited and then edited again while the second of two workers is drained, so that
-- the first one is taken too.
theorem edits_put_two_inFlight :
    ∃ (w w' : World Cluster) (r : Run (EditsVersion Sample.resource) Sample.resource w w'),
      w.cluster.Keyed ∧ w.cluster.SelectsApart Sample.resource ∧
      (∀ name, w.cluster.Selected Sample.resource name →
        ¬w.cluster.InFlight Sample.resource name ∧ ¬w.cluster.Outdated Sample.resource name) ∧
      ¬r.AfterPasses (Cluster.AtMostOneSelected Sample.resource) := by
  let w := Sample.world "1" "2" [Sample.openWorker "a" "1", Sample.openWorker "b" "1"]
  have hk : w.cluster.Keyed := Sample.keyed_world ..
  have ha : w.cluster.SelectsApart Sample.resource := by decide +kernel
  have hopen : ∀ name, w.cluster.Selected Sample.resource name →
      ¬w.cluster.InFlight Sample.resource name ∧ ¬w.cluster.Outdated Sample.resource name := by
    decide +kernel
  have hedit (v : String) (c : Cluster) (hv : Text.allBlank v = false) :
      EditsVersion Sample.resource c (c.editVersion Sample.resource v) := .edit v hv
  let r₀ : Run (EditsVersion Sample.resource) Sample.resource w w := .start
  let r := r₀.step (hedit "2" _ (by decide +kernel))
    |>.pass .zero Sample.now |>.pass .zero Sample.now |>.pass .zero Sample.now
    |>.pass .zero Sample.now |>.pass .zero Sample.now
    |>.step (hedit "3" _ (by decide +kernel))
    |>.pass .zero Sample.now |>.pass .zero Sample.now |>.pass .zero Sample.now
    |>.pass .zero Sample.now
  exact ⟨w, _, r, hk, ha, hopen, fun h => absurd h.right (by decide +kernel)⟩

end KernelRollout
