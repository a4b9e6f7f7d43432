import KernelRollout.Proofs.Cluster.Keyed
import KernelRollout.Proofs.Text.Numeral

namespace KernelRollout

namespace Dict

variable {κ α β : Type} [OrderedKey κ] {d : Dict κ α} {f : α → β} {k j : κ} {a : α} {b : β}

theorem map_get?_insert :
    ((d.insert k a).get? j).map f = if j = k then some (f a) else (d.get? j).map f := by
  rw [get?_insert]
  split <;> rfl

theorem map_get?_of_filter {p : κ → α → Bool} (h : ((d.filter p).get? k).map f = some b) :
    (d.get? k).map f = some b := by
  obtain ⟨a, ha, rfl⟩ := Option.map_eq_some_iff.mp h
  rw [get?_filter, Option.filter_eq_some_iff] at ha
  rw [ha.left, Option.map_some]

end Dict

-- Where an object is stored.
inductive Place where
  | onload (id : Identity)
  | node (name : String)
  | pod (id : Identity)
  | module (id : Identity)
  | daemonSet (id : Identity)
deriving DecidableEq

inductive StoredObject where
  | onload (o : Onload)
  | node (n : Node)
  | pod (p : Pod)
  | module (m : KernelModule)
  | daemonSet (d : DaemonSet)

def StoredObject.version? : StoredObject → Option String
  | onload o    => o.metadata.resourceVersion
  | node n      => n.metadata.resourceVersion
  | pod p       => p.metadata.resourceVersion
  | module m    => m.metadata.resourceVersion
  | daemonSet d => d.metadata.resourceVersion

-- What clients and others do to a cluster, one after the other.
inductive Operation : Type 1 where
  | edit (e : Edit)
  | call {α : Type} (call : Call α)

-- The place that a call writes only if what is there has the given version. Without a version the
-- call writes in any case.
def Call.guard? {α : Type} : Call α → Option (Place × Option String)
  | patchNodeLabels n _ => some (.node n.name, n.metadata.resourceVersion)
  | replaceModule m     => some (.module (Cluster.idOf m), m.metadata.resourceVersion)
  | replaceDaemonSet d  => some (.daemonSet (Cluster.idOf d), d.metadata.resourceVersion)
  | _                   => none

namespace Cluster

variable {c c₁ c' : Cluster} {p : Place} {x y : StoredObject}

theorem versionText_inj {m n : Nat} (h : versionText m = versionText n) : m = n := by
  rw [versionText, versionText, Nat.toString_eq_repr, Nat.toString_eq_repr] at h
  exact Text.repr_injective h

def object? (c : Cluster) : Place → Option StoredObject
  | .onload id    => (c.onloads.get? id).map .onload
  | .node name    => (c.nodes.get? name).map .node
  | .pod id       => (c.pods.get? id).map .pod
  | .module id    => (c.modules.get? id).map .module
  | .daemonSet id => (c.daemonSets.get? id).map .daemonSet

theorem object?_node {name : String} {n : Node} (h : c.nodes.get? name = some n) :
    c.object? (.node name) = some (.node n) := by
  rw [object?, h, Option.map_some]

theorem object?_module {id : Identity} {m : KernelModule} (h : c.modules.get? id = some m) :
    c.object? (.module id) = some (.module m) := by
  rw [object?, h, Option.map_some]

-- Either nothing new is stored, or one object is, and then it carries the next version.
inductive Stamps (c c' : Cluster) : Prop
  | nothing (hle : c.version ≤ c'.version) (hnext : c'.version ≤ c.version + 1)
    (h : ∀ p x, c'.object? p = some x → c.object? p = some x)
  | object (p : Place) (x : StoredObject) (hnext : c'.version = c.version + 1)
    (hx : x.version? = some (versionText (c.version + 1)))
    (h : ∀ q, c'.object? q = if q = p then some x else c.object? q)

namespace Stamps

-- Versions may be given out for nothing.
theorem of_objects (hle : c.version ≤ c'.version) (hnext : c'.version ≤ c.version + 1)
    (ho : c'.onloads = c.onloads) (hn : c'.nodes = c.nodes) (hp : c'.pods = c.pods)
    (hm : c'.modules = c.modules) (hd : c'.daemonSets = c.daemonSets) : Stamps c c' := by
  refine .nothing hle hnext fun p x h => ?_
  cases p <;> simpa only [object?, ho, hn, hp, hm, hd] using h

theorem refl : Stamps c c := .of_objects (Nat.le_refl _) (Nat.le_succ _) rfl rfl rfl rfl rfl

section

variable {id : Identity} {actions : List Action}

theorem onload {o : Onload} (h : o.metadata.resourceVersion = some (versionText (c.version + 1))) :
    Stamps c { c with onloads := c.onloads.insert id o, actions, version := c.version + 1 } := by
  refine .object (.onload id) (.onload o) rfl h fun q => ?_
  cases q <;> simp [object?, Dict.map_get?_insert]

theorem node {name : String} {n : Node}
    (h : n.metadata.resourceVersion = some (versionText (c.version + 1))) :
    Stamps c { c with nodes := c.nodes.insert name n, actions, version := c.version + 1 } := by
  refine .object (.node name) (.node n) rfl h fun q => ?_
  cases q <;> simp [object?, Dict.map_get?_insert]

theorem pod {p : Pod} (h : p.metadata.resourceVersion = some (versionText (c.version + 1))) :
    Stamps c { c with pods := c.pods.insert id p, actions, version := c.version + 1 } := by
  refine .object (.pod id) (.pod p) rfl h fun q => ?_
  cases q <;> simp [object?, Dict.map_get?_insert]

theorem module {m : KernelModule}
    (h : m.metadata.resourceVersion = some (versionText (c.version + 1))) :
    Stamps c { c with modules := c.modules.insert id m, actions, version := c.version + 1 } := by
  refine .object (.module id) (.module m) rfl h fun q => ?_
  cases q <;> simp [object?, Dict.map_get?_insert]

theorem daemonSet {d : DaemonSet}
    (h : d.metadata.resourceVersion = some (versionText (c.version + 1))) :
    Stamps c { c with daemonSets := c.daemonSets.insert id d, actions, version := c.version + 1 } := by
  refine .object (.daemonSet id) (.daemonSet d) rfl h fun q => ?_
  cases q <;> simp [object?, Dict.map_get?_insert]

end

-- What is removed is stamped with nothing.
theorem of_get? (hv : c'.version = c.version) (h : ∀ p x, c'.object? p = some x → c.object? p = some x) :
    Stamps c c' :=
  .nothing (Nat.le_of_eq hv.symm) (by omega) h

theorem edit (e : Edit) : Stamps c (e.apply c) := by
  cases e with
  | putOnload o => exact .onload rfl
  | putNode n => exact .node rfl
  | putPod p => exact .pod rfl
  | putModule m => exact .module rfl
  | putDaemonSet d => exact .daemonSet rfl
  | setNodeLabels name labels =>
    simp only [Edit.apply, setNodeLabels, Dict.modify, nextVersion]
    split
    case h_1 => exact .of_objects (Nat.le_succ _) (Nat.le_refl _) rfl rfl rfl rfl rfl
    case h_2 => exact .node rfl
  | removeOnload id =>
    refine .of_get? rfl fun p x h => ?_
    cases p with
    | onload j => exact Dict.map_get?_of_filter h
    | _ => exact h
  | removePod id =>
    refine .of_get? rfl fun p x h => ?_
    cases p with
    | pod j => exact Dict.map_get?_of_filter h
    | _ => exact h
  | finishTerminations =>
    refine .of_get? rfl fun p x h => ?_
    cases p with
    | pod j => exact Dict.map_get?_of_filter h
    | _ => exact h
  | failNodePatches | blockEviction | clearActions =>
    exact .of_objects (Nat.le_refl _) (Nat.le_succ _) rfl rfl rfl rfl rfl

theorem call {α : Type} (call : Call α) : Stamps c (c.answer call).2 := by
  cases call with
  | getOnload | listNodes | listPods | getModule | getDaemonSet => exact .refl
  | patchOnloadStatus id status =>
    simp only [answer, patchOnloadStatus]
    split
    case h_1 => exact .of_objects (Nat.le_succ _) (Nat.le_refl _) rfl rfl rfl rfl rfl
    case h_2 => exact .onload rfl
  | patchNodeLabels n changes =>
    simp only [answer, patchNodeLabels]
    repeat' split
    case h_2.isFalse => exact .node rfl
    all_goals exact .refl
  | evictPod id =>
    simp only [answer, evictPod]
    repeat' split
    case h_2.isFalse => exact .pod rfl
    all_goals exact .refl
  | createModule m =>
    simp only [answer, create]
    split
    case isTrue => exact .refl
    case isFalse => exact .module rfl
  | replaceModule m =>
    simp only [answer, replace]
    repeat' split
    case h_2.isFalse => exact .module rfl
    all_goals exact .refl
  | deleteModule id =>
    simp only [answer, delete]
    split
    case isFalse => exact .refl
    case isTrue =>
      refine .of_get? rfl fun p x h => ?_
      cases p with
      | module j => exact Dict.map_get?_of_filter h
      | _ => exact h
  | createDaemonSet d =>
    simp only [answer, create]
    split
    case isTrue => exact .refl
    case isFalse => exact .daemonSet rfl
  | replaceDaemonSet d =>
    simp only [answer, replace]
    repeat' split
    case h_2.isFalse => exact .daemonSet rfl
    all_goals exact .refl

end Stamps

-- What is stored now was stored before, or it carries a version that was given out in between.
structure Later (c c' : Cluster) : Prop where
  version_le : c.version ≤ c'.version
  objects    : ∀ p x, c'.object? p = some x → c.object? p = some x ∨
    ∃ n, c.version < n ∧ n ≤ c'.version ∧ x.version? = some (versionText n)

theorem Stamps.later (h : Stamps c c') : Later c c' := by
  cases h with
  | nothing hle hnext h => exact ⟨hle, fun p x hx => .inl (h p x hx)⟩
  | object p x hnext hx h =>
    refine ⟨by omega, fun q y hy => ?_⟩
    rw [h] at hy
    split at hy
    case isFalse => exact .inl hy
    case isTrue =>
      cases hy
      exact .inr ⟨c.version + 1, by omega, by omega, hx⟩

theorem Later.trans (h₁ : Later c c₁) (h₂ : Later c₁ c') : Later c c' := by
  refine ⟨Nat.le_trans h₁.version_le h₂.version_le, fun p x hx => ?_⟩
  have hle₁ := h₁.version_le
  have hle₂ := h₂.version_le
  obtain hx | ⟨n, hlt, hle, hv⟩ := h₂.objects p x hx
  case inr => exact .inr ⟨n, by omega, hle, hv⟩
  case inl =>
    obtain hx | ⟨n, hlt, hle, hv⟩ := h₁.objects p x hx
    case inl => exact .inl hx
    case inr => exact .inr ⟨n, hlt, by omega, hv⟩

-- Everything that is stored carries a version that was given out.
def Versioned (c : Cluster) : Prop :=
  ∀ p x, c.object? p = some x → ∃ n, n ≤ c.version ∧ x.version? = some (versionText n)

theorem Later.versioned (h : Later {} c) : c.Versioned := by
  intro p x hx
  obtain hempty | ⟨n, _, hle, hv⟩ := h.objects p x hx
  case inl => cases p <;> cases hempty
  case inr => exact ⟨n, hle, hv⟩

-- An object that has the version of an earlier one in its place is that one.
theorem Later.eq_of_version (h : Later c c') (hc : c.Versioned) (hx : c.object? p = some x)
    (hy : c'.object? p = some y) (hv : y.version? = x.version?) : y = x := by
  have ⟨m, hm, hxm⟩ := hc p x hx
  obtain hold | ⟨n, hlt, _, hyn⟩ := h.objects p y hy
  case inl => exact Option.some.inj (hold.symm.trans hx)
  case inr =>
    have hnm : n = m := versionText_inj (Option.some.inj (hyn.symm.trans (hv.trans hxm)))
    omega

theorem stale_eq_false_iff {snapshot stored : Metadata} {v : String}
    (h : snapshot.resourceVersion = some v) :
    stale snapshot stored = false ↔ stored.resourceVersion = some v := by
  rw [stale, h, Option.isSome_some, Bool.true_and, decide_eq_false_iff_not, Decidable.not_not]
  exact eq_comm

theorem isOk_replace {α : Type} [Resource α] {s : Store α} {a : α} {v : String}
    (h : (Resource.metadata a).resourceVersion = some v) :
    (replace s c a).1.isOk = true ↔
      ((s.get c).get? (idOf a)).bind (fun b => (Resource.metadata b).resourceVersion) = some v := by
  simp only [replace]
  split
  case h_1 hnone =>
    rw [hnone]
    exact iff_of_false Bool.false_ne_true (Option.some_ne_none v).symm
  case h_2 stored hstored =>
    rw [hstored, Option.bind_some, ← stale_eq_false_iff h]
    split
    case isTrue hstale => exact iff_of_false Bool.false_ne_true (by simp [hstale])
    case isFalse hfresh => exact iff_of_true rfl (Bool.eq_false_iff.mpr hfresh)

theorem isOk_patchNodeLabels {n : Node} {changes : Node.LabelChanges} {v : String}
    (h : n.metadata.resourceVersion = some v) :
    (c.patchNodeLabels n changes).1.isOk = true ↔
      (c.nodes.get? n.name).bind (·.metadata.resourceVersion) = some v ∧ n.name ∉ c.failingNodes := by
  simp only [patchNodeLabels]
  split
  case isTrue hf =>
    have hmem := List.contains_iff_mem.mp hf
    exact iff_of_false Bool.false_ne_true fun h => h.right hmem
  case isFalse hf =>
    rw [and_iff_left fun hn => hf (List.contains_iff_mem.mpr hn)]
    split
    case h_1 hnone =>
      rw [hnone]
      exact iff_of_false Bool.false_ne_true (Option.some_ne_none v).symm
    case h_2 stored hstored =>
      rw [hstored, Option.bind_some, ← stale_eq_false_iff h]
      split
      case isTrue hstale => exact iff_of_false Bool.false_ne_true (by simp [hstale])
      case isFalse hfresh => exact iff_of_true rfl (Bool.eq_false_iff.mpr hfresh)

theorem bind_version?_map {α : Type} {wrap : α → StoredObject} {version? : α → Option String}
    (h : ∀ a, (wrap a).version? = version? a) (o : Option α) :
    (o.map wrap).bind (·.version?) = o.bind version? := by
  cases o with
  | none => rfl
  | some a => exact h a

-- With a version, a guarded call goes through if and only if the object in its place has it, and
-- the node takes patches.
theorem isOk_iff_of_guard {α : Type} {call : Call α} {v : String} (h : call.guard? = some (p, some v)) :
    (c.answer call).1.isOk = true ↔
      (c.object? p).bind (·.version?) = some v ∧ ∀ name, p = .node name → name ∉ c.failingNodes := by
  cases call with
  | patchNodeLabels n changes =>
    obtain ⟨rfl, hv⟩ := Prod.mk.inj (Option.some.inj h)
    rw [object?, bind_version?_map fun _ => rfl]
    refine (isOk_patchNodeLabels hv).trans (and_congr_right fun _ => ?_)
    exact ⟨fun hn _ he => Place.node.inj he ▸ hn, fun hn => hn _ rfl⟩
  | replaceModule m =>
    obtain ⟨rfl, hv⟩ := Prod.mk.inj (Option.some.inj h)
    rw [object?, bind_version?_map fun _ => rfl]
    exact (isOk_replace hv).trans (and_iff_left nofun).symm
  | replaceDaemonSet d =>
    obtain ⟨rfl, hv⟩ := Prod.mk.inj (Option.some.inj h)
    rw [object?, bind_version?_map fun _ => rfl]
    exact (isOk_replace hv).trans (and_iff_left nofun).symm
  | _ => cases h

-- A call that fails has changed no object and has not been logged. A version may be lost.
theorem of_error {α : Type} {call : Call α} {e : ClusterError} (h : (c.answer call).1 = .error e) :
    (c.answer call).2.object? = c.object? ∧ (c.answer call).2.actions = c.actions := by
  revert h
  cases call with
  | getOnload | listNodes | listPods | getModule | getDaemonSet | deleteModule =>
    intro h
    cases h
  | patchOnloadStatus id status =>
    simp only [answer, patchOnloadStatus]
    split
    case h_1 => exact fun _ => ⟨rfl, rfl⟩
    case h_2 => exact fun h => absurd h (by simp)
  | patchNodeLabels n changes =>
    simp only [answer, patchNodeLabels]
    repeat' split
    case h_2.isFalse => exact fun h => absurd h (by simp)
    all_goals exact fun _ => ⟨rfl, rfl⟩
  | evictPod id =>
    simp only [answer, evictPod]
    split
    case isTrue => exact fun _ => ⟨rfl, rfl⟩
    case isFalse =>
      repeat' split
      all_goals exact fun h => absurd h (by simp)
  | createModule | createDaemonSet =>
    simp only [answer, create]
    split
    case isTrue => exact fun _ => ⟨rfl, rfl⟩
    case isFalse => exact fun h => absurd h (by simp)
  | replaceModule | replaceDaemonSet =>
    simp only [answer, replace]
    repeat' split
    case h_2.isFalse => exact fun h => absurd h (by simp)
    all_goals exact fun _ => ⟨rfl, rfl⟩

end Cluster

namespace Operation

def apply : Operation → Cluster → Cluster
  | edit e, c => e.apply c
  | call k, c => (c.answer k).2

theorem stamps (op : Operation) (c : Cluster) : c.Stamps (op.apply c) := by
  cases op with
  | edit e => exact .edit e
  | call k => exact .call k

end Operation

-- The cluster after the first `i` operations.
def Cluster.after (ops : List Operation) (i : Nat) : Cluster :=
  (ops.take i).foldl (fun c op => op.apply c) {}

namespace Cluster

variable {ops : List Operation} {i j : Nat} {p q : Place} {x y : StoredObject}

theorem after_succ (ops : List Operation) (i : Nat) :
    after ops (i + 1) = (ops[i]?).elim (after ops i) (·.apply (after ops i)) := by
  rw [after, List.take_add_one, List.foldl_append]
  cases ops[i]? <;> rfl

theorem stamps_after (ops : List Operation) (i : Nat) : (after ops i).Stamps (after ops (i + 1)) := by
  rw [after_succ]
  cases ops[i]? with
  | none => exact .refl
  | some op => exact op.stamps _

theorem later_after (ops : List Operation) (h : i ≤ j) : (after ops i).Later (after ops j) := by
  induction h with
  | refl => exact Stamps.refl.later
  | step _ hi => exact hi.trans (stamps_after ops _).later

theorem versioned_after (ops : List Operation) (i : Nat) : (after ops i).Versioned :=
  (later_after ops (Nat.zero_le i)).versioned

theorem Stamps.version_le {c c' : Cluster} (h : c.Stamps c') : c'.version ≤ c.version + 1 := by
  cases h with
  | nothing _ hnext => exact hnext
  | object _ _ hnext => exact Nat.le_of_eq hnext

-- One operation gives out one version at most.
theorem version_foldl_le (ops : List Operation) (c : Cluster) :
    (ops.foldl (fun c op => op.apply c) c).version ≤ c.version + ops.length := by
  induction ops generalizing c with
  | nil => exact Nat.le_refl _
  | cons op ops hi =>
    have hop := (op.stamps c).version_le
    have hrest := hi (op.apply c)
    rw [List.foldl_cons, List.length_cons]
    omega

theorem version_after_le (ops : List Operation) (i : Nat) : (after ops i).version ≤ ops.length := by
  have hversion : (after ops i).version ≤ 0 + (ops.take i).length := version_foldl_le (ops.take i) {}
  have hlength : (ops.take i).length ≤ ops.length := List.length_take_le' i ops
  omega

-- Operation `i` leaves an object in a place that did not have exactly this object before.
def Writes (ops : List Operation) (i : Nat) (p : Place) (x : StoredObject) : Prop :=
  (after ops (i + 1)).object? p = some x ∧ (after ops i).object? p ≠ some x

theorem Stamps.of_written {c c' : Cluster} (h : c.Stamps c') (hx : c'.object? p = some x)
    (hnew : c.object? p ≠ some x) :
    c'.version = c.version + 1 ∧ x.version? = some (versionText (c.version + 1)) ∧
      ∀ q y, c'.object? q = some y → c.object? q ≠ some y → q = p ∧ y = x := by
  cases h with
  | nothing _ _ h => exact absurd (h p x hx) hnew
  | object p' x' hnext hx' h =>
    have hplace (q : Place) (y : StoredObject) (hy : c'.object? q = some y)
        (hne : c.object? q ≠ some y) : q = p' ∧ y = x' := by
      rw [h] at hy
      split at hy
      case isTrue hq => exact ⟨hq, (Option.some.inj hy).symm⟩
      case isFalse => exact absurd hy hne
    obtain ⟨rfl, rfl⟩ := hplace p x hx hnew
    exact ⟨hnext, hx', hplace⟩

-- Every write has a version of its own, and later writes have larger ones. An operation writes one
-- object at most.
structure StampedInOrder (ops : List Operation) (number : Nat → Nat) : Prop where
  stamped : ∀ i p x, Writes ops i p x → x.version? = some (versionText (number i))
  grows   : ∀ i j p q x y, i < j → Writes ops i p x → Writes ops j q y → number i < number j
  bounded : ∀ i p x, Writes ops i p x → number i < Text.wordBound
  single  : ∀ i p q x y, Writes ops i p x → Writes ops i q y → q = p ∧ y = x

theorem stampedInOrder_after (h : ops.length < Text.wordBound) :
    StampedInOrder ops fun i => (after ops (i + 1)).version where
  stamped i p x hw := by
    have ⟨hnext, hx, _⟩ := (stamps_after ops i).of_written hw.left hw.right
    rwa [hnext]
  grows i j p q x y hij _ hw := by
    have ⟨hnext, _⟩ := (stamps_after ops j).of_written hw.left hw.right
    have hle := (later_after ops (i := i + 1) hij).version_le
    show (after ops (i + 1)).version < (after ops (j + 1)).version
    omega
  bounded i p x _ := Nat.lt_of_le_of_lt (version_after_le ops (i + 1)) h
  single i p q x y hx hy := by
    have ⟨_, _, hsingle⟩ := (stamps_after ops i).of_written hx.left hx.right
    exact hsingle q y hy.left hy.right

-- A guarded call with the version of an object that was read earlier goes through if and only if
-- exactly this object is still in its place, and the node takes patches.
def ComparesAndSwaps (ops : List Operation) : Prop :=
  ∀ i j p x, i ≤ j → (after ops i).object? p = some x →
    ∀ (α : Type) (call : Call α), call.guard? = some (p, x.version?) →
      (((after ops j).answer call).1.isOk = true ↔
        (after ops j).object? p = some x ∧ ∀ name, p = .node name → name ∉ (after ops j).failingNodes)

theorem comparesAndSwaps_after (ops : List Operation) : ComparesAndSwaps ops := by
  intro i j p x hij hx α call hguard
  obtain ⟨n, _, hv⟩ := versioned_after ops i p x hx
  rw [isOk_iff_of_guard (hv ▸ hguard)]
  refine and_congr_left fun _ => ⟨fun hsame => ?_, fun hsame => ?_⟩
  · obtain ⟨y, hy, hyv⟩ := Option.bind_eq_some_iff.mp hsame
    rw [hy, (later_after ops hij).eq_of_version (versioned_after ops i) hx hy (hyv.trans hv.symm)]
  · rw [hsame, Option.bind_some, hv]

-- Calls that fail leave no trace but, at most, a version that nothing carries.
def FailsWithoutTrace (ops : List Operation) : Prop :=
  ∀ i (α : Type) (call : Call α) e, ((after ops i).answer call).1 = .error e →
    ((after ops i).answer call).2.object? = (after ops i).object? ∧
    ((after ops i).answer call).2.actions = (after ops i).actions

-- Along every history that is short enough for versions of 64 bits, writes are told apart by their
-- versions, so that calls which compare versions never overwrite what their caller has not seen.
theorem no_update_lost (ops : List Operation) (h : ops.length < Text.wordBound) :
    (∃ number, StampedInOrder ops number) ∧ ComparesAndSwaps ops ∧ FailsWithoutTrace ops :=
  ⟨⟨_, stampedInOrder_after h⟩, comparesAndSwaps_after ops, fun _ _ _ _ => of_error⟩

-- A worker is labelled by others after it was read, and a module is deleted and created again. With
-- what was read before neither can be written any more.
theorem no_update_lost_recreated :
    ∃ (ops : List Operation) (n n' : Node) (m m' : KernelModule) (changes : Node.LabelChanges),
      ops.length < Text.wordBound ∧
      (after ops 2).nodes.get? "a" = some n ∧ (after ops 5).nodes.get? "a" = some n' ∧
      (after ops 2).modules.get? ⟨"default", "m"⟩ = some m ∧
      (after ops 4).modules.get? ⟨"default", "m"⟩ = none ∧
      (after ops 5).modules.get? ⟨"default", "m"⟩ = some m' ∧ m'.spec = m.spec ∧
      ((after ops 5).answer (.patchNodeLabels n changes)).1.isOk = false ∧
      ((after ops 5).answer (.patchNodeLabels n' changes)).1.isOk = true ∧
      ((after ops 5).answer (.replaceModule m)).1.isOk = false ∧
      (∃ number, StampedInOrder ops number) ∧ FailsWithoutTrace ops := by
  let m₀ : KernelModule := { (default : KernelModule) with
    metadata := { name := some "m", ns := some "default" } }
  let labels : Labels := Dict.empty.insert "role" "worker"
  let ops : List Operation := [.edit (.putNode (.labelled "a" .empty)), .call (.createModule m₀),
    .edit (.setNodeLabels "a" labels), .call (.deleteModule ⟨"default", "m"⟩), .call (.createModule m₀)]
  let changes : Node.LabelChanges := Dict.empty.insert "role" none
  have hlength : ops.length < Text.wordBound := by decide
  have ⟨hnumber, hswap, htrace⟩ := no_update_lost ops hlength
  let n : Node := ((after ops 2).nodes.get? "a").getD default
  let n' : Node := ((after ops 5).nodes.get? "a").getD default
  let m : KernelModule := ((after ops 2).modules.get? ⟨"default", "m"⟩).getD default
  let m' : KernelModule := ((after ops 5).modules.get? ⟨"default", "m"⟩).getD default
  have hn : (after ops 2).nodes.get? "a" = some n := by decide +kernel
  have hn' : (after ops 5).nodes.get? "a" = some n' := by decide +kernel
  have hm : (after ops 2).modules.get? ⟨"default", "m"⟩ = some m := by decide +kernel
  have hm' : (after ops 5).modules.get? ⟨"default", "m"⟩ = some m' := by decide +kernel
  have hname : n.name = "a" ∧ n'.name = "a" := by decide +kernel
  have hid : idOf m = ⟨"default", "m"⟩ := by decide +kernel
  have hnew : n ≠ n' ∧ m ≠ m' := by decide +kernel
  have hpatch := hswap 2 5 (.node "a") (.node n) (by decide) (object?_node hn) Node
    (.patchNodeLabels n changes) (by rw [Call.guard?, hname.left]; rfl)
  have hpatch' := hswap 5 5 (.node "a") (.node n') (by decide) (object?_node hn') Node
    (.patchNodeLabels n' changes) (by rw [Call.guard?, hname.right]; rfl)
  have hreplace := hswap 2 5 (.module ⟨"default", "m"⟩) (.module m) (by decide)
    (object?_module hm) KernelModule (.replaceModule m) (by rw [Call.guard?, hid]; rfl)
  refine ⟨ops, n, n', m, m', changes, hlength, hn, hn', hm, by decide +kernel, hm', by decide +kernel,
    ?_, hpatch'.mpr ⟨object?_node hn', fun _ _ => ?_⟩, ?_, hnumber, htrace⟩
  · refine Bool.eq_false_iff.mpr fun hok => hnew.left ?_
    have hsame := (hpatch.mp hok).left
    rw [object?_node hn'] at hsame
    simpa using hsame.symm
  · exact List.not_mem_nil
  · refine Bool.eq_false_iff.mpr fun hok => hnew.right ?_
    have hsame := (hreplace.mp hok).left
    rw [object?_module hm'] at hsame
    simpa using hsame.symm

end Cluster

end KernelRollout
