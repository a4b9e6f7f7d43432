import KernelRollout.Proofs.Rollout.Routine

namespace KernelRollout

open Pass
open Operand (Made)

variable {σ α : Type}

-- What a client answers from, with the modules that were submitted to it so far. Those that it has
-- refused are among them.
structure Recorded (σ : Type) where
  cluster   : σ
  submitted : List KernelModule := []

namespace Recorded

-- The client answers as it would without the record.
def answer (client : Client σ) (call : Call α) (r : Recorded σ) : Except ClusterError α × Recorded σ :=
  let (result, cluster) := client.answer call r.cluster
  (result, { cluster, submitted := r.submitted ++ call.module?.toList })

def client (client : Client σ) : Client (Recorded σ) := ⟨answer client⟩

end Recorded

def Setup.recorded (s : Setup σ) : Setup (Recorded σ) := { s with client := Recorded.client s.client }

def World.recorded (w : World σ) : World (Recorded σ) := { w with cluster := { cluster := w.cluster } }

-- The modules that a pass submits, from first to last.
def Reconcile.submitted (s : Setup σ) (id : Identity) (w : World σ) : List KernelModule :=
  (exec (pass s.recorded id) w.recorded).2.cluster.submitted

-- All modules on record are of a sort.
def World.Keeps (P : KernelModule → Prop) (w : World (Recorded σ)) : Prop := ∀ m ∈ w.cluster.submitted, P m

theorem Pass.Submits.keeps {s : Setup σ} {P : KernelModule → Prop} {drains : Prop}
    {p : Pass (Recorded σ) α} (h : Submits s.recorded P drains p) {w : World (Recorded σ)}
    (hw : w.Keeps P) : Ensures p w fun _ w' => w'.Keeps P := by
  induction h generalizing w with
  | pure | throw | countDrain => exact hw
  | attempt_of c hc =>
    intro m hm
    cases List.mem_append.mp hm
    case inl hm => exact hw m hm
    case inr hm => exact hc m (Option.mem_toList.mp hm)
  | bind _ _ hi hif => exact (hi hw).bind (fun a _ h => hif a h) fun _ _ h => h

namespace Reconcile

variable {s : Setup σ} {id : Identity}

theorem keeps_uncounted {w : World (Recorded σ)} (hw : w.Keeps Made) :
    Ensures (uncounted s.recorded id) w fun _ w' => w'.Keeps Made := by
  have hread : Submits s.recorded Made True (call s.recorded (.getOnload id)) := .call rfl
  refine (hread.keeps hw).bind (fun found w₁ hw₁ => ?_) fun _ _ h => h
  cases found with
  | some o => exact (submits_present o).keeps hw₁
  | none =>
    have hsweep : Submits s.recorded Made True (Sweep.allMarkers s.recorded id) :=
      Sweep.submits_allMarkers id
    exact (hsweep.keeps hw₁).bind (fun _ _ h => h) fun _ _ h => h

-- Every pass starts with nothing on record.
theorem made_of_mem_submitted {w : World σ} {m : KernelModule} (h : m ∈ submitted s id w) : Made m := by
  have hkeeps : Ensures (uncounted s.recorded id) w.recorded fun _ w' => w'.Keeps Made :=
    keeps_uncounted fun _ hm => nomatch hm
  exact hkeeps m h

end Reconcile

end KernelRollout
