import KernelRollout.Proofs.Rollout.Effect

namespace KernelRollout

open Pass

instance {α : Type} [DecidableEq α] (r : Except OperatorError α) (a : α) : Decidable (r = .ok a) :=
  match r with
  | .ok b    => decidable_of_iff (b = a) (by simp)
  | .error _ => isFalse nofun

-- What a pass answers.
def World.passAnswer (id : Identity) (delay : Duration) (now : Timestamp) (w : World Cluster) :
    Except OperatorError StepOutcome :=
  (exec (Reconcile.pass (.inMemory delay now) id) w).1

-- The world after a pass, whatever the pass answers.
def World.afterPass (id : Identity) (delay : Duration) (now : Timestamp) (w : World Cluster) :
    World Cluster :=
  (exec (Reconcile.pass (.inMemory delay now) id) w).2

theorem course_afterPass {w : World Cluster} (id : Identity) (delay : Duration) (now : Timestamp)
    (hk : w.cluster.Keyed) :
    Reconcile.Course (.inMemory delay now) id w (w.passAnswer id delay now)
      (w.afterPass id delay now).cluster :=
  Reconcile.pass_course hk

theorem effect_afterPass {w : World Cluster} (id : Identity) (delay : Duration) (now : Timestamp)
    (hk : w.cluster.Keyed) :
    Reconcile.Effect (.inMemory delay now) id w (w.afterPass id delay now).cluster :=
  (course_afterPass id delay now hk).effect

theorem keyed_afterPass {id : Identity} {w : World Cluster} (delay : Duration) (now : Timestamp)
    (hk : w.cluster.Keyed) : (w.afterPass id delay now).cluster.Keyed :=
  (effect_afterPass id delay now hk).keyed hk

-- A pass leaves all operands as they are, or it writes those of the resource that it is for.
theorem operands_afterPass {w : World Cluster} (id : Identity) (delay : Duration) (now : Timestamp)
    (hk : w.cluster.Keyed) :
    ((w.afterPass id delay now).cluster.modules = w.cluster.modules ∧
      (w.afterPass id delay now).cluster.daemonSets = w.cluster.daemonSets) ∨
    ∃ t : Target, t.id = id ∧ w.cluster.spec? id = some t.spec ∧
      Operand.Writes t w.cluster (w.afterPass id delay now).cluster := by
  cases (course_afterPass id delay now hk).moves with
  | neither _ hm hd => exact .inl ⟨hm, hd⟩
  | empties _ _ _ ht => exact .inl ⟨ht.modules, ht.daemonSets⟩
  | operates t ht hw => exact .inr ⟨t, ht.id_eq hk, ht.spec?, hw.writes⟩

-- The relation says what others may do between two passes.
inductive Run (others : Cluster → Cluster → Prop) (id : Identity) (w : World Cluster) :
    World Cluster → Type
  | start : Run others id w w
  | pass {w'} (r : Run others id w w') (delay : Duration) (now : Timestamp) :
    Run others id w (w'.afterPass id delay now)
  | step {w'} (r : Run others id w w') {c : Cluster} (h : others w'.cluster c) :
    Run others id w { w' with cluster := c }

namespace Run

variable {others : Cluster → Cluster → Prop} {id : Identity} {w w' : World Cluster}
variable {P Q : Cluster → Prop}

-- What holds of the cluster after every pass of a run.
def AfterPasses (P : Cluster → Prop) {w' : World Cluster} : Run others id w w' → Prop
  | start                   => True
  | @pass _ _ _ w₁ r delay now => r.AfterPasses P ∧ P (w₁.afterPass id delay now).cluster
  | step r _                => r.AfterPasses P

-- What holds before every pass of a run.
def BeforePasses (P : Setup Cluster → World Cluster → Prop) {w' : World Cluster} :
    Run others id w w' → Prop
  | start                   => True
  | @pass _ _ _ w₁ r delay now => r.BeforePasses P ∧ P (.inMemory delay now) w₁
  | step r _                => r.BeforePasses P

-- All clusters of a run, the last one first.
def clusters {w' : World Cluster} : Run others id w w' → List Cluster
  | start                      => [w.cluster]
  | @pass _ _ _ w₁ r delay now => (w₁.afterPass id delay now).cluster :: r.clusters
  | @step _ _ _ _ r c _        => c :: r.clusters

theorem mem_clusters (r : Run others id w w') : w'.cluster ∈ r.clusters := by
  cases r with
  | start | pass | step => exact List.mem_cons_self

theorem AfterPasses.mono {r : Run others id w w'} (h : r.AfterPasses P) (hpq : ∀ c, P c → Q c) :
    r.AfterPasses Q := by
  induction r with
  | start => trivial
  | pass r delay now hi => exact ⟨hi h.left, hpq _ h.right⟩
  | step r _ hi => exact hi h

-- What passes and others keep holds along the whole run.
theorem invariant (r : Run others id w w') (hp : P w.cluster)
    (hpass : ∀ delay now (w : World Cluster), P w.cluster → P (w.afterPass id delay now).cluster)
    (hothers : ∀ c c', P c → others c c' → P c') : P w'.cluster ∧ r.AfterPasses P := by
  induction r with
  | start => exact ⟨hp, trivial⟩
  | pass r delay now hi =>
    have ⟨hp, ha⟩ := hi
    exact ⟨hpass _ _ _ hp, ha, hpass _ _ _ hp⟩
  | step r h hi =>
    have ⟨hp, ha⟩ := hi
    exact ⟨hothers _ _ hp h, ha⟩

theorem forall_mem_clusters (r : Run others id w w') (hp : P w.cluster)
    (hpass : ∀ delay now (w : World Cluster), P w.cluster → P (w.afterPass id delay now).cluster)
    (hothers : ∀ c c', P c → others c c' → P c') : ∀ c ∈ r.clusters, P c := by
  induction r with
  | start => exact List.forall_mem_singleton.mpr hp
  | pass r delay now hi =>
    exact List.forall_mem_cons.mpr ⟨hpass _ _ _ (hi _ r.mem_clusters), hi⟩
  | step r h hi => exact List.forall_mem_cons.mpr ⟨hothers _ _ (hi _ r.mem_clusters) h, hi⟩

theorem BeforePasses.of_clusters {Q : Setup Cluster → World Cluster → Prop} {r : Run others id w w'}
    (h : ∀ c ∈ r.clusters, P c)
    (hq : ∀ delay now (w : World Cluster), P w.cluster → Q (.inMemory delay now) w) :
    r.BeforePasses Q := by
  induction r with
  | start => trivial
  | pass r delay now hi =>
    have ⟨_, h⟩ := List.forall_mem_cons.mp h
    exact ⟨hi h, hq _ _ _ (h _ r.mem_clusters)⟩
  | step r _ hi => exact hi (List.forall_mem_cons.mp h).right

theorem keyed (r : Run others id w w') (hk : w.cluster.Keyed)
    (hothers : ∀ c c', others c c' → c'.Keyed) : w'.cluster.Keyed :=
  (r.invariant hk (fun delay now _ => keyed_afterPass delay now) fun c c' _ => hothers c c').left

end Run

namespace Sample

def resource : Identity := ⟨"default", "onload"⟩

def onload (version : String) : Onload where
  metadata := { name := some resource.name, ns := some resource.ns, uid := some "1" }
  spec := {
    onload := ⟨[], "registry/onload-user", version, none⟩
    devicePlugin := { devicePluginImage := "registry/onload-device-plugin" }
    selector := Dict.empty.insert "role" "worker"
    serviceAccountName := "" }

def operands (version : String) : List Edit :=
  let t : Target := ⟨onload version, resource⟩
  (Operand.kernelModule t .onload).toOption.toList.map .putModule ++
  (Operand.cplane t).toOption.toList.map .putDaemonSet ++
  (Operand.devicePlugin t).toOption.toList.map .putDaemonSet

-- A node that the resource selects.
def worker (name : String) (markers : List (Marker × String)) : Node :=
  .labelled name (markers.foldl (fun labels e => labels.insert (e.1.key resource) e.2)
    (Dict.empty.insert "role" "worker"))

-- A node that has been brought to a version.
def openWorker (name version : String) : Node :=
  worker name [(.loader, version), (.ready, version)]

-- The resource and its operands may be at different versions.
def world (declared built : String) (nodes : List Node) : World Cluster where
  cluster := Edit.applyAll (.putOnload (onload declared) :: operands built ++ nodes.map .putNode) {}
  metrics := {}
  backoff := { min := .zero, max := .zero }

def now : Timestamp := ⟨⟨⟨2025, 1, 1⟩, 0, 0, 0, 0⟩, by decide⟩

theorem keyed_world (declared built : String) (nodes : List Node) :
    (world declared built nodes).cluster.Keyed :=
  Cluster.Keyed.empty.applyAll _

end Sample

end KernelRollout
