import KernelRollout.Proofs.Rollout.Run

namespace KernelRollout

open Cluster (Aside)
open Reconcile (Effect Handles Prepared Prepares)

variable {id : Identity} {c c' : Cluster} {n : Node} {m : Marker} {v : Option String} {t : Target}
variable {name : String}

namespace Cluster

-- The node lacks a ready marker equal to its loader marker.
def InFlight (c : Cluster) (id : Identity) (name : String) : Prop :=
  ¬∃ v, c.marker? id .ready name = some v ∧ c.marker? id .loader name = some v

-- The node has a module of another version than the resource declares.
def Outdated (c : Cluster) (id : Identity) (name : String) : Prop :=
  ∃ spec, c.spec? id = some spec ∧ ∃ v, c.marker? id .loader name = some v ∧ v ≠ spec.onload.version

-- The node is there and has all labels of the selector.
def Matches (c : Cluster) (selector : Labels) (name : String) : Prop :=
  ∃ n, c.nodes.get? name = some n ∧ (LabelQuery.ofLabels selector).selects n.metadata.labels = true

def Selected (c : Cluster) (id : Identity) (name : String) : Prop :=
  ∃ spec, c.spec? id = some spec ∧ c.Matches spec.selector name

-- The selector of a resource asks for none of its own markers.
def SelectsApart (c : Cluster) (id : Identity) : Prop :=
  ∀ spec, c.spec? id = some spec → ∀ m : Marker, spec.selector.get? (m.key id) = none

-- Of some nodes at most one is in flight.
def AtMostOne (c : Cluster) (id : Identity) (among : String → Prop) : Prop :=
  ∀ a b, among a → among b → c.InFlight id a → c.InFlight id b → a = b

instance {p : Marker → Prop} [DecidablePred p] : Decidable (∀ m, p m) :=
  decidable_of_iff (p .loader ∧ p .sfc ∧ p .ready)
    ⟨fun ⟨hl, hs, hr⟩ m => by cases m <;> assumption, fun h => ⟨h _, h _, h _⟩⟩

instance : Decidable (c.InFlight id name) :=
  inferInstanceAs (Decidable ¬∃ v, v ∈ c.marker? id .ready name ∧ c.marker? id .loader name = some v)

instance : Decidable (c.Outdated id name) :=
  inferInstanceAs (Decidable (∃ spec, spec ∈ c.spec? id ∧
    ∃ v, v ∈ c.marker? id .loader name ∧ v ≠ spec.onload.version))

instance {selector : Labels} : Decidable (c.Matches selector name) :=
  inferInstanceAs (Decidable (∃ n, n ∈ c.nodes.get? name ∧ _))

instance : Decidable (c.Selected id name) :=
  inferInstanceAs (Decidable (∃ spec, spec ∈ c.spec? id ∧ c.Matches spec.selector name))

instance : Decidable (c.SelectsApart id) :=
  inferInstanceAs (Decidable
    (∀ spec, spec ∈ c.spec? id → ∀ m : Marker, spec.selector.get? (m.key id) = none))

-- Only nodes that are there are selected.
instance {p : String → Prop} [DecidablePred p] : Decidable (∀ name, c.Selected id name → p name) :=
  decidable_of_iff (∀ name ∈ c.nodes.keys, c.Selected id name → p name) <| by
    constructor
    case mpr => exact fun h name _ => h name
    case mp =>
      intro h name hs
      have ⟨_, _, n, hn, _⟩ := hs
      exact h name (List.mem_map.mpr ⟨(name, n), Dict.get?_eq_some_iff.mp hn, rfl⟩) hs

theorem Stores.matches_iff {selector : Labels} (hs : c.Stores n) : c.Matches selector n.name ↔
    (LabelQuery.ofLabels selector).selects n.metadata.labels = true := by
  constructor
  case mpr => exact fun h => ⟨n, hs, h⟩
  case mp =>
    intro ⟨x, hx, h⟩
    have : some x = some n := hx.symm.trans hs
    exact Option.some.inj this ▸ h

theorem Stores.selects (hs : c.Stores n) (ht : c.spec? t.id = some t.spec)
    (h : c.Selected t.id n.name) : t.selects n = true := by
  have ⟨spec, hspec, hmatch⟩ := h
  have : some spec = some t.spec := hspec.symm.trans ht
  cases this
  exact hs.matches_iff.mp hmatch

theorem matches_relabel {selector : Labels} {key : String} (hs : c.Stores n)
    (h : selector.get? key = none) :
    (c.relabel n key v).Matches selector name ↔ c.Matches selector name := by
  by_cases hname : name = n.name
  case neg => simp [Matches, nodes_relabel, hname]
  case pos =>
    subst hname
    rw [hs.matches_iff, ← Node.matches_relabelled h]
    exact stores_relabelled.matches_iff (n := n.relabelled key v _)

theorem SelectsApart.congr (ha : c.SelectsApart id) (h : c'.spec? id = c.spec? id) :
    c'.SelectsApart id :=
  fun spec hspec => ha spec (h.symm.trans hspec)

theorem selected_relabel (ha : c.SelectsApart id) (hs : c.Stores n) :
    (c.relabel n (m.key id) v).Selected id name ↔ c.Selected id name := by
  refine exists_congr fun spec => and_congr_right fun h => ?_
  exact matches_relabel hs (ha spec h m)

end Cluster

-- Changes of one marker after which a selected node is not in flight unless it was before, and
-- has no outdated module unless it had before.
inductive Harmless (t : Target) (n : Node) : Marker → Option String → Prop
  | unselected (m : Marker) (v : Option String) (hs : t.selects n = false) : Harmless t n m v
  | sfc (v : Option String) : Harmless t n .sfc v
  | load (hl : t.marker? .loader n = none) : Harmless t n .loader (some t.version)
  | open (hl : t.marker? .loader n = some t.version) : Harmless t n .ready (some t.version)
  | unload (hr : t.marker? .ready n = none) : Harmless t n .loader none

namespace Harmless

theorem of_requests (hr : Marking.Requests t n m v) : Harmless t n m v := by
  cases hr with
  | loader _ hl => exact .load hl
  | sfc => exact .sfc _

theorem of_opens (hr : Marking.Opens t n m v) : Harmless t n m v := by
  cases hr with
  | ready _ hl => exact .open hl

theorem of_drops (hr : Marking.Drops t n m v) : Harmless t n m v := by
  cases hr with
  | ready hs => exact .unselected _ _ hs
  | sfc => exact .sfc _
  | loader hk _ => exact .unselected _ _ (Marking.keepsModules_eq_false.mp hk).left

theorem inFlight (hr : Harmless t n m v) (hs : c.Stores n) (hn : t.selects n = true)
    (h : (c.relabel n (m.key t.id) v).InFlight t.id n.name) : c.InFlight t.id n.name := by
  simp only [Cluster.InFlight, Cluster.marker?_relabel hs, hs.marker?, true_and] at h ⊢
  intro ⟨u, hready, hloader⟩
  cases hr with
  | unselected m v hu => exact absurd hn (by simp [hu])
  | sfc v => exact h ⟨u, hready, hloader⟩
  | load hl => exact nomatch hl.symm.trans hloader
  | «open» hl => exact h ⟨_, rfl, hl⟩
  | unload hr => exact nomatch hr.symm.trans hready

theorem outdated (hr : Harmless t n m v) (hs : c.Stores n) (hn : t.selects n = true)
    (ht : c.spec? t.id = some t.spec) (h : (c.relabel n (m.key t.id) v).Outdated t.id n.name) :
    c.Outdated t.id n.name := by
  have ⟨spec, hspec, u, hloader, hu⟩ := h
  have hsame : some spec = some t.spec := hspec.symm.trans ht
  cases hsame
  simp only [Cluster.marker?_relabel hs, true_and] at hloader
  cases hr with
  | unselected m v hv => exact absurd hn (by simp [hv])
  | sfc v => exact ⟨t.spec, hspec, u, hloader, hu⟩
  | load hl =>
    cases hloader
    exact absurd rfl hu
  | «open» hl => exact ⟨t.spec, hspec, u, hloader, hu⟩
  | unload hr => exact nomatch hloader

end Harmless

-- Between two clusters no selected node was put in flight, and no module became outdated.
structure Calm (id : Identity) (c c' : Cluster) : Prop where
  spec     : c'.spec? id = c.spec? id
  selected : ∀ name, c'.Selected id name ↔ c.Selected id name
  inFlight : ∀ name, c.Selected id name → c'.InFlight id name → c.InFlight id name
  outdated : ∀ name, c.Selected id name → c'.Outdated id name → c.Outdated id name

namespace Calm

variable {c₁ : Cluster}

theorem refl : Calm id c c := ⟨rfl, fun _ => .rfl, fun _ _ h => h, fun _ _ h => h⟩

theorem trans (h₁ : Calm id c c₁) (h₂ : Calm id c₁ c') : Calm id c c' where
  spec := h₂.spec.trans h₁.spec
  selected name := (h₂.selected name).trans (h₁.selected name)
  inFlight name hs h := h₁.inFlight name hs (h₂.inFlight name ((h₁.selected name).mpr hs) h)
  outdated name hs h := h₁.outdated name hs (h₂.outdated name ((h₁.selected name).mpr hs) h)

theorem of_nodes (hs : c'.spec? id = c.spec? id) (hn : c'.nodes = c.nodes) : Calm id c c' := by
  refine ⟨hs, fun name => ?_, fun name _ h => ?_, fun name _ h => ?_⟩
  · rw [Cluster.Selected, hs]
    simp only [Cluster.Matches, hn]
    rfl
  · simpa only [Cluster.InFlight, Cluster.marker?_congr hn] using h
  · simpa only [Cluster.Outdated, Cluster.marker?_congr hn, hs] using h

-- Without the resource no node is selected.
theorem of_gone (hc : c.spec? id = none) (hc' : c'.spec? id = none) : Calm id c c' := by
  have hnone : ∀ name, ¬c.Selected id name := fun name ⟨_, h, _⟩ => by simp [hc] at h
  refine ⟨hc'.trans hc.symm, fun name => ?_, fun name h => absurd h (hnone name),
    fun name h => absurd h (hnone name)⟩
  exact iff_of_false (fun ⟨_, h, _⟩ => by simp [hc'] at h) (hnone name)

theorem relabel (ht : c.spec? t.id = some t.spec) (ha : c.SelectsApart t.id) (hs : c.Stores n)
    (hr : Harmless t n m v) : Calm t.id c (c.relabel n (m.key t.id) v) := by
  refine ⟨rfl, fun name => Cluster.selected_relabel ha hs, fun name hsel h => ?inFlight,
    fun name hsel h => ?outdated⟩
  case inFlight =>
    by_cases hname : name = n.name
    case pos =>
      subst hname
      exact hr.inFlight hs (hs.selects ht hsel) h
    case neg =>
      simpa only [Cluster.InFlight, Cluster.marker?_relabel_other hs _ _ _ hname] using h
  case outdated =>
    by_cases hname : name = n.name
    case pos =>
      subst hname
      exact hr.outdated hs (hs.selects ht hsel) ht h
    case neg =>
      have ⟨spec, hspec, u, hloader, hu⟩ := h
      exact ⟨spec, hspec, u, Cluster.marker?_relabel_other hs _ _ _ hname ▸ hloader, hu⟩

theorem relabelling {rule : Node → Marker → Option String → Prop} (hk : c.Keyed)
    (ha : c.SelectsApart id) (ht : Handles c id t) (hrel : Relabelling t.id rule c c')
    (hrule : ∀ n m v, rule n m v → Harmless t n m v) : Calm id c c' := by
  have hid := ht.id_eq hk
  subst hid
  refine hrel.preserves .refl fun c₁ n m v h hs hr => h.trans ?_
  exact relabel (h.spec.trans ht.spec?) (ha.congr h.spec) hs (hrule _ _ _ hr)

end Calm

-- A prepared pass finds a node that has to be drained and is still open.
structure Taken (s : Setup Cluster) (id : Identity) (w : World Cluster) (t : Target) (n : Node) :
    Prop where
  handles  : Handles w.cluster id t
  prepared : Prepared s t w
  next     : Drain.Next t w.cluster n
  ready    : (t.marker? .ready n).isSome = true
  patches  : w.cluster.refuses n.name = false

-- Where a taken node is the only difference.
structure TookOne (id : Identity) (name : String) (c c' : Cluster) : Prop where
  spec     : c'.spec? id = c.spec? id
  selected : ∀ a, c'.Selected id a ↔ c.Selected id a
  inFlight : ∀ a, c'.InFlight id a ↔ a = name ∨ c.InFlight id a
  outdated : ∀ a, c'.Outdated id a ↔ c.Outdated id a

theorem tookOne_relabel (ha : c.SelectsApart id) (hs : c.Stores n) :
    TookOne id n.name c (c.relabel n (Marker.ready.key id) none) := by
  have hloader : ∀ a, (c.relabel n (Marker.ready.key id) none).marker? id .loader a =
      c.marker? id .loader a := by
    intro a
    rw [Cluster.marker?_relabel hs, if_neg nofun]
  refine ⟨rfl, fun a => Cluster.selected_relabel ha hs, fun a => ?_, fun a => ?_⟩
  · rw [Cluster.InFlight, Cluster.InFlight, hloader, Cluster.marker?_relabel hs]
    by_cases h : a = n.name <;> simp [h]
  · simp only [Cluster.Outdated, hloader]
    rfl

-- A pass puts no node in flight, except that it may take the ready marker from the next stale node.
theorem calm_or_taken (delay : Duration) (now : Timestamp) {w : World Cluster}
    (hk : w.cluster.Keyed) (ha : w.cluster.SelectsApart id) :
    Calm id w.cluster (w.afterPass id delay now).cluster ∨
    ∃ t n, Taken (.inMemory delay now) id w t n ∧
      TookOne id n.name w.cluster (w.afterPass id delay now).cluster := by
  have heffect := effect_afterPass id delay now hk
  generalize (w.afterPass id delay now).cluster = c' at heffect
  have hspec := heffect.spec?_eq id
  cases heffect with
  | gone ho hrel =>
    have hnone : w.cluster.spec? id = none := by rw [Cluster.spec?, ho]; rfl
    exact .inl (.of_gone hnone (hspec.trans hnone))
  | aside haside => exact .inl (.of_nodes (haside.specs id) haside.nodes)
  | prepared t ht hp =>
    refine .inl ?_
    cases hp with
    | requested hrel => exact .relabelling hk ha ht hrel fun _ _ _ => .of_requests
    | dropped hrel => exact .relabelling hk ha ht hrel fun _ _ _ => .of_drops
    | opened hrel => exact .relabelling hk ha ht hrel fun _ _ _ => .of_opens
    | operated h => exact .of_nodes (h.aside.specs id) h.aside.nodes
  | removed t n m ht hp hn hr hf hc =>
    have hid := ht.id_eq hk
    subst hid hc
    cases hr with
    | ready hr => exact .inr ⟨t, n, ⟨ht, hp, hn, hr, hf⟩, tookOne_relabel ha hn.stored⟩
    | sfc => exact .inl (.relabel ht.spec? ha hn.stored (.sfc none))
    | loader hr => exact .inl (.relabel ht.spec? ha hn.stored (.unload hr))

namespace Reconcile.Handles

variable {b : String}

theorem stores_selected (hk : c.Keyed) (ht : Handles c id t) (hs : c.Selected id b) :
    ∃ x, c.Stores x ∧ x.name = b ∧ t.selects x = true := by
  have ⟨spec, hspec, x, hx, hmatch⟩ := hs
  have : some spec = some t.spec := hspec.symm.trans ht.spec?
  cases this
  exact ⟨x, hk.stores hx, hk.nodes b x hx, hmatch⟩

theorem marker?_eq (hk : c.Keyed) (ht : Handles c id t) (hs : c.Stores n) (m : Marker) :
    c.marker? id m n.name = t.marker? m n := by
  rw [hs.marker?, ← ht.id_eq hk]
  rfl

theorem selected (ht : Handles c id t) (hn : Drain.Next t c n) : c.Selected id n.name :=
  ⟨t.spec, ht.spec?, hn.stored.matches_iff.mpr hn.selected⟩

theorem outdated (hk : c.Keyed) (ht : Handles c id t) (hn : Drain.Next t c n) :
    c.Outdated id n.name := by
  have ⟨v, hl, hv⟩ := hn.outdated
  exact ⟨t.spec, ht.spec?, v, (ht.marker?_eq hk hn.stored .loader).trans hl, hv⟩

theorem first (hk : c.Keyed) (ht : Handles c id t) (hn : Drain.Next t c n) (hs : c.Selected id b)
    (ho : c.Outdated id b) : ¬b < n.name := by
  have ⟨x, hx, hname, hsel⟩ := ht.stores_selected hk hs
  have ⟨spec, hspec, v, hl, hv⟩ := ho
  have : some spec = some t.spec := hspec.symm.trans ht.spec?
  cases this
  subst hname
  exact hn.first x hx hsel ⟨v, (ht.marker?_eq hk hx .loader).symm.trans hl, hv⟩

end Reconcile.Handles

namespace Taken

variable {delay : Duration} {now : Timestamp} {w : World Cluster} {b : String}

theorem selected (h : Taken (.inMemory delay now) id w t n) : w.cluster.Selected id n.name :=
  h.handles.selected h.next

theorem outdated (hk : w.cluster.Keyed) (h : Taken (.inMemory delay now) id w t n) :
    w.cluster.Outdated id n.name :=
  h.handles.outdated hk h.next

theorem first (hk : w.cluster.Keyed) (h : Taken (.inMemory delay now) id w t n)
    (hs : w.cluster.Selected id b) (ho : w.cluster.Outdated id b) : ¬b < n.name :=
  h.handles.first hk h.next hs ho

-- A node that is in flight while another one is taken has been left behind by an edit of the
-- version: with the module that is asked for now it would have been opened first.
theorem left_behind (hk : w.cluster.Keyed) (h : Taken (.inMemory delay now) id w t n)
    (hs : w.cluster.Selected id b) (hf : w.cluster.InFlight id b) : w.cluster.Outdated id b := by
  have hplace := Prepared.inPlace hk h.prepared
  have ⟨x, hx, hname, hsel⟩ := h.handles.stores_selected hk hs
  subst hname
  have ⟨v, hl⟩ := Option.isSome_iff_exists.mp (hplace.supplied x hx hsel).left
  have hloader := (h.handles.marker?_eq hk hx .loader).trans hl
  refine ⟨t.spec, h.handles.spec?, v, hloader, fun hv => ?_⟩
  change v = t.version at hv
  subst hv
  have hready : t.marker? .ready x = some t.version := by
    simpa [Marking.becomesReady, hl] using hplace.opened x hx hsel
  exact hf ⟨t.version, (h.handles.marker?_eq hk hx .ready).trans hready, hloader⟩

end Taken

end KernelRollout
