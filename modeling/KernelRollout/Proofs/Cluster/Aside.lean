import KernelRollout.Proofs.Cluster.Keyed

namespace KernelRollout

namespace Cluster

-- What a resource declares, if it is there.
def spec? (c : Cluster) (id : Identity) : Option OnloadSpec := (c.onloads.get? id).map (·.spec)

-- The status of a resource, the log and the versions are all that a report changes.
theorem patchOnloadStatus_eq (c : Cluster) (id : Identity) (status : OnloadStatus) :
    (c.patchOnloadStatus id status).2 = { c with
      onloads := (c.patchOnloadStatus id status).2.onloads
      actions := (c.patchOnloadStatus id status).2.actions
      version := (c.patchOnloadStatus id status).2.version } := by
  rw [patchOnloadStatus]
  split <;> rfl

-- Nodes are as they were, and so is what every resource declares.
structure Aside (c c' : Cluster) : Prop where
  nodes : c'.nodes = c.nodes
  specs : ∀ id, c'.spec? id = c.spec? id
  keyed : c.Keyed → c'.Keyed

namespace Aside

variable {c c' : Cluster}

theorem refl : Aside c c := ⟨rfl, fun _ => rfl, id⟩

-- A call that changes no resource at all.
theorem of_eq (ho : c'.onloads = c.onloads) (hn : c'.nodes = c.nodes) (hk : c.Keyed → c'.Keyed) :
    Aside c c' :=
  ⟨hn, fun _ => by rw [spec?, spec?, ho], hk⟩

theorem patchOnloadStatus (id : Identity) (status : OnloadStatus) :
    Aside c (c.patchOnloadStatus id status).2 := by
  refine ⟨?_, fun j => ?_, fun hk => hk.patchOnloadStatus id status⟩
  · rw [patchOnloadStatus_eq]
  · simp only [Cluster.patchOnloadStatus, spec?]
    split
    case h_1 => rfl
    case h_2 o ho =>
      by_cases hj : j = id
      case neg => simp [nextVersion, log, Dict.get?_insert, hj]
      case pos =>
        simp only [nextVersion] at ho
        simp [nextVersion, log, hj, ho]

end Aside

end Cluster

namespace Edit

-- Edits of pods and operands, and of what the cluster refuses.
def isAside : Edit → Bool
  | putOnload _ | putNode _ | removeOnload _ | setNodeLabels _ _ => false
  | _ => true

theorem aside_of_isAside {e : Edit} (c : Cluster) (h : e.isAside = true) :
    Cluster.Aside c (e.apply c) := by
  refine .of_eq ?_ ?_ fun hk => hk.edit e
  all_goals
    cases e with
    | putOnload | putNode | removeOnload | setNodeLabels => cases h
    | _ => rfl

end Edit

end KernelRollout
