import KernelRollout.Proofs.Cluster.Similar
import KernelRollout.Proofs.Rollout.InFlight
import KernelRollout.Proofs.Rollout.Lockstep
import KernelRollout.Proofs.Rollout.Remit

namespace KernelRollout

open Pass
open Cluster (Abreast Similar Starts)
open Reconcile (Spares)

variable {T : Territory} {c : Cluster} {a b id : Identity} {delay : Duration} {w : World Cluster}

namespace Cluster

-- The selector of a resource asks for no marker of another one.
def SelectsBeside (c : Cluster) (id other : Identity) : Prop :=
  ∀ spec, c.spec? id = some spec → ∀ m : Marker, spec.selector.get? (m.key other) = none

instance : Decidable (c.SelectsBeside a b) :=
  inferInstanceAs (Decidable
    (∀ spec, spec ∈ c.spec? a → ∀ m : Marker, spec.selector.get? (m.key b) = none))

end Cluster

theorem Reconcile.Spares.of_selectsBeside (hk : c.Keyed) (hsel : c.SelectsBeside b a)
    (hapart : (Territory.of b).Apart (.of a)) : Spares (.of a) c b where
  markers m := hapart.labels _ (Territory.marker_mem m)
  onload := hapart.onloads b rfl
  target o t ho hof := by
    obtain ⟨hto, hid⟩ := Reconcile.Target.of_eq hof
    subst hto
    have hid : t.id = b := hid.trans (hk.onloads b _ ho)
    subst hid
    refine ⟨rfl, fun m => hapart.labels _ (Territory.marker_mem m), ?_, ?_, ?_⟩
    · rintro _ v hv ⟨m, rfl⟩
      have hspec : c.spec? t.id = some t.spec := by
        rw [Cluster.spec?, ho]
        rfl
      rw [hsel t.spec hspec m] at hv
      cases hv
    · exact fun kind => hapart.modules _ (Operand.module_mem kind)
    · intro name hname
      obtain rfl | rfl : name = _ ∨ name = _ := by simpa using hname
      · exact hapart.daemonSets _ Operand.cplane_mem
      · exact hapart.daemonSets _ Operand.devicePlugin_mem

-- A pass after a pass for another resource goes as it would have gone at first.
theorem lockstep_afterPass (hk : w.cluster.Keyed) (hsel : w.cluster.SelectsBeside b a)
    (hapart : (Territory.of b).Apart (.of a)) (delay : Duration) (now now' now₁ : Timestamp) :
    (w.afterPass a delay now).passAnswer b delay now₁ = w.passAnswer b delay now' ∧
    Abreast (.of a) w.cluster (w.afterPass a delay now).cluster (w.afterPass b delay now').cluster
      ((w.afterPass a delay now).afterPass b delay now₁).cluster := by
  have hcalls : w.cluster.Calls (.of a) (w.afterPass a delay now).cluster := Reconcile.calls_pass hk
  have hstarts : Starts (.of a) w.cluster (w.afterPass a delay now).cluster :=
    ⟨hcalls.within, hk, hcalls.keyed hk⟩
  exact (Reconcile.lockstep_pass hstarts (.of_selectsBeside hk hsel hapart)).same

-- Passes for two resources, neither of which selects nodes by a marker of the other, in either order
-- and at any times.
theorem passes_commute (hk : w.cluster.Keyed) (hne : a ≠ b) (ha : '.' ∉ a.ns.toList)
    (hb : '.' ∉ b.ns.toList) (hab : w.cluster.SelectsBeside a b) (hba : w.cluster.SelectsBeside b a)
    (delay : Duration) (now now' now₁ now₁' : Timestamp) :
    (w.afterPass b delay now').passAnswer a delay now₁' = w.passAnswer a delay now ∧
    (w.afterPass a delay now).passAnswer b delay now₁ = w.passAnswer b delay now' ∧
    Similar w.cluster ((w.afterPass a delay now).afterPass b delay now₁).cluster
      ((w.afterPass b delay now').afterPass a delay now₁').cluster := by
  have hapart := Territory.apart_of_ne ha hb hne
  obtain ⟨hanswer, h⟩ := lockstep_afterPass hk hba hapart.symm delay now now' now₁
  obtain ⟨hanswer', h'⟩ := lockstep_afterPass hk hab hapart delay now' now now₁'
  have hcalls {id : Identity} {now : Timestamp} {w : World Cluster} (hk : w.cluster.Keyed) :
      w.cluster.Calls (.of id) (w.afterPass id delay now).cluster := Reconcile.calls_pass hk
  refine ⟨hanswer', hanswer, ?_⟩
  exact Cluster.similar_of_abreast hapart (hcalls hk) (hcalls hk) (hcalls (keyed_afterPass _ _ hk))
    (hcalls (keyed_afterPass _ _ hk)) h h'

namespace Sample

-- A second resource of the same name, in another namespace.
def second : Identity := ⟨"other", resource.name⟩

def secondOnload (version : String) : Onload :=
  let o := onload version
  { o with metadata := { o.metadata with ns := some second.ns } }

-- A worker has outdated modules of both resources, and is in use.
def sharedWorld : World Cluster :=
  let t : Target := ⟨secondOnload "2", second⟩
  let worker : Node := .labelled "a"
    (((Dict.empty.insert "role" "worker").insert (Marker.loader.key resource) "1").insert
      (Marker.loader.key second) "1")
  let user := (Pod.onNode ⟨"default", "user"⟩ "a" .empty).requesting onloadResource "1"
  let start := world "2" "2" [worker]
  { start with cluster := Edit.applyAll (.putPod user :: .putOnload (secondOnload "2") ::
    (Operand.kernelModule t .onload).toOption.toList.map .putModule ++
    (Operand.cplane t).toOption.toList.map .putDaemonSet ++
    (Operand.devicePlugin t).toOption.toList.map .putDaemonSet) start.cluster }

theorem keyed_sharedWorld : sharedWorld.cluster.Keyed := (keyed_world ..).applyAll _

end Sample

-- Two drains wait for the same pod, and the first of them evicts it.
theorem passes_commute_shared :
    ∃ (w : World Cluster) (a b : Identity), w.cluster.Keyed ∧ a ≠ b ∧ '.' ∉ a.ns.toList ∧
      '.' ∉ b.ns.toList ∧ w.cluster.SelectsBeside a b ∧ w.cluster.SelectsBeside b a ∧
      w.passAnswer a .zero Sample.now = .ok (.requeueAfter .zero) ∧
      (w.afterPass a .zero Sample.now).cluster.writes = w.cluster.writes + 1 ∧
      (w.afterPass a .zero Sample.now).passAnswer b .zero Sample.now =
        w.passAnswer b .zero Sample.now ∧
      Similar w.cluster ((w.afterPass a .zero Sample.now).afterPass b .zero Sample.now).cluster
        ((w.afterPass b .zero Sample.now).afterPass a .zero Sample.now).cluster := by
  let w := Sample.sharedWorld
  have hk : w.cluster.Keyed := Sample.keyed_sharedWorld
  have hne : Sample.resource ≠ Sample.second := by decide
  have ha : '.' ∉ Sample.resource.ns.toList := by decide
  have hb : '.' ∉ Sample.second.ns.toList := by decide
  have hab : w.cluster.SelectsBeside Sample.resource Sample.second := by decide +kernel
  have hba : w.cluster.SelectsBeside Sample.second Sample.resource := by decide +kernel
  have ⟨_, hanswer, hsimilar⟩ := passes_commute hk hne ha hb hab hba .zero
    Sample.now Sample.now Sample.now Sample.now
  refine ⟨w, _, _, hk, hne, ha, hb, hab, hba, ?_, ?_, hanswer, hsimilar⟩
  all_goals decide +kernel

end KernelRollout
