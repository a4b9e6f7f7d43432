import KernelRollout.Proofs.Cluster.Relabel
import KernelRollout.Rollout.Pass

namespace KernelRollout

-- A cluster whose patches of nodes may be lost, each on its own, and without any effect. `patches`
-- is the number of patches so far, and `lost` are those that failed.
structure Lossy where
  cluster : Cluster
  patches : Nat := 0
  lost    : List (String × Node.LabelChanges) := []

namespace Lossy

-- The pattern says which patches are lost, by their number.
variable (loses : Nat → Bool)

def patch (l : Lossy) (n : Node) (changes : Node.LabelChanges) : Except ClusterError Node × Lossy :=
  let (result, cluster) :=
    if loses l.patches then (.error .transport, l.cluster) else l.cluster.patchNodeLabels n changes
  let lost := if result.isOk then l.lost else l.lost ++ [(n.name, changes)]
  (result, { cluster, patches := l.patches + 1, lost })

def answer {α : Type} (call : Call α) (l : Lossy) : Except ClusterError α × Lossy :=
  match call with
  | .patchNodeLabels n changes => l.patch loses n changes
  | call =>
    let (result, cluster) := l.cluster.answer call
    (result, { l with cluster })

def client : Client Lossy := ⟨answer loses⟩

variable {loses : Nat → Bool} {l : Lossy} {n : Node} {key name : String} {v : Option String}

-- The removal of a label from a node is among the patches that failed.
def Lost (l : Lossy) (name key : String) : Prop := (name, Node.change key none) ∈ l.lost

theorem change_inj {k₁ k₂ : String} : Node.change k₁ v = Node.change k₂ v ↔ k₁ = k₂ := by
  constructor
  case mpr => exact fun h => h ▸ rfl
  case mp =>
    intro h
    have : (Node.change k₂ v).get? k₁ = some v := h ▸ Dict.get?_insert_self ..
    rw [Node.change, Dict.get?_insert] at this
    split at this
    case isTrue he => exact he
    case isFalse => cases this

-- Where the removal of a label was lost.
def drop (l : Lossy) (n : Node) (key : String) : Lossy :=
  { l with patches := l.patches + 1, lost := l.lost ++ [(n.name, Node.change key none)] }

-- Where a label was removed.
def strike (l : Lossy) (n : Node) (key : String) : Lossy :=
  { l with cluster := l.cluster.relabel n key none, patches := l.patches + 1 }

theorem lost_drop {k : String} :
    (l.drop n key).Lost name k ↔ l.Lost name k ∨ (name = n.name ∧ k = key) := by
  simp [Lost, drop, change_inj]

theorem answer_unset (loses : Nat → Bool) (hs : l.cluster.Stores n) (key : String) :
    (∃ e, l.answer loses (.patchNodeLabels n (Node.change key none)) = (.error e, l.drop n key)) ∨
    ∃ a, l.answer loses (.patchNodeLabels n (Node.change key none)) = (.ok a, l.strike n key) := by
  simp only [answer, patch]
  cases loses l.patches with
  | true => exact .inl ⟨_, rfl⟩
  | false =>
    cases Cluster.answer_patchNodeLabels hs key none
    case inl h =>
      have ⟨_, he⟩ := h
      have he : l.cluster.patchNodeLabels n (Node.change key none) = (.error _, l.cluster) := he
      exact .inl ⟨_, by rw [if_neg nofun, he]; rfl⟩
    case inr h =>
      have ⟨_, he⟩ := h
      have he : l.cluster.patchNodeLabels n (Node.change key none) = (.ok _, _) := he
      exact .inr ⟨_, by rw [if_neg nofun, he]; rfl⟩

end Lossy

-- Passes over a cluster that loses patches.
def Setup.lossy (loses : Nat → Bool) (delay : Duration) (now : Timestamp) : Setup Lossy where
  client       := Lossy.client loses
  requeueDelay := delay
  now          := now

end KernelRollout
