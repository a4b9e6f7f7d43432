import KernelRollout.Proofs.Rollout.Settled

namespace KernelRollout

open Operand (Daemon Writes Written)

variable {id : Identity} {c c' : Cluster} {t t' : Target} {spec : OnloadSpec} {kind : ModuleKind}
variable {daemon : Daemon} {delay : Duration} {now : Timestamp} {w w' : World Cluster}

namespace Operand

theorem owner_of_identified (hu : t.onload.metadata.uid.isSome = true) : ∃ o, owner t = .ok o := by
  rw [owner]
  cases h : t.onload.metadata.uid with
  | none => simp [h] at hu
  | some uid => exact ⟨_, rfl⟩

-- Resources of one identity that declare the same differ only in the owner of their operands.
theorem kernelModule_congr {m : KernelModule} (hspec : t'.spec = t.spec)
    (hu : t'.onload.metadata.uid.isSome = true) (h : kernelModule t kind = .ok m) :
    ∃ m', kernelModule t' kind = .ok m' ∧ m'.spec = m.spec := by
  have ⟨o, ho⟩ := owner_of_identified hu
  rw [kernelModule] at h
  cases howner : owner t <;> rw [howner] at h <;> cases h
  have hversion : t'.version = t.version := congrArg (·.onload.version) hspec
  refine ⟨_, by rw [kernelModule, ho]; rfl, ?_⟩
  simp only [moduleSpec, hspec, hversion]

theorem daemonSet_congr {name : String} {pods : PodSpec} {d : DaemonSet} (hid : t'.id = t.id)
    (hspec : t'.spec = t.spec) (hu : t'.onload.metadata.uid.isSome = true)
    (h : daemonSet t name pods = .ok d) :
    ∃ d', daemonSet t' name pods = .ok d' ∧ d'.metadata.labels = d.metadata.labels ∧
      d'.spec = d.spec := by
  have ⟨o, ho⟩ := owner_of_identified hu
  rw [daemonSet] at h
  cases howner : owner t <;> rw [howner] at h <;> cases h
  have hversion : t'.version = t.version := congrArg (·.onload.version) hspec
  refine ⟨_, by rw [daemonSet, ho]; rfl, ?_, ?_⟩
  all_goals simp only [labels, readyNodes, Target.key, hid, hspec, hversion]

theorem Daemon.build_congr {d : DaemonSet} (hid : t'.id = t.id) (hspec : t'.spec = t.spec)
    (hu : t'.onload.metadata.uid.isSome = true) (h : daemon.build t = .ok d) :
    ∃ d', daemon.build t' = .ok d' ∧ d'.metadata.labels = d.metadata.labels ∧ d'.spec = d.spec := by
  cases daemon with
  | cplane =>
    have ⟨d', hd', h⟩ := daemonSet_congr hid hspec hu h
    refine ⟨d', ?_, h⟩
    rw [← hd']
    simp only [Daemon.build, Operand.cplane, hid, hspec]
  | devicePlugin =>
    have ⟨d', hd', h⟩ := daemonSet_congr hid hspec hu h
    refine ⟨d', ?_, h⟩
    rw [← hd']
    simp only [Daemon.build, Operand.devicePlugin, hostOnloadPath, hid, hspec]

end Operand

-- But for what identifies it, a module is as it is built for every resource that declares this.
def ModuleAsBuilt (id : Identity) (kind : ModuleKind) (spec : OnloadSpec) (m : KernelModule) : Prop :=
  ∀ t : Target, t.id = id → t.spec = spec → t.onload.metadata.uid.isSome = true →
    ∃ built, Operand.kernelModule t kind = .ok built ∧ m.spec = built.spec

-- The same for a daemon set, the labels of which are built too.
def DaemonSetAsBuilt (id : Identity) (daemon : Daemon) (spec : OnloadSpec) (d : DaemonSet) : Prop :=
  ∀ t : Target, t.id = id → t.spec = spec → t.onload.metadata.uid.isSome = true →
    ∃ built, daemon.build t = .ok built ∧ d.metadata.labels = built.metadata.labels ∧ d.spec = built.spec

theorem moduleAsBuilt_of_built {m built : KernelModule} (hb : Operand.kernelModule t kind = .ok built)
    (hm : m.spec = built.spec) : ModuleAsBuilt t.id kind t.spec m := by
  intro t' _ hspec hu
  have ⟨built', hb', hsame⟩ := Operand.kernelModule_congr hspec hu hb
  exact ⟨built', hb', hm.trans hsame.symm⟩

theorem daemonSetAsBuilt_of_built {d built : DaemonSet} (hb : daemon.build t = .ok built)
    (hl : d.metadata.labels = built.metadata.labels) (hd : d.spec = built.spec) :
    DaemonSetAsBuilt t.id daemon t.spec d := by
  intro t' hid hspec hu
  have ⟨built', hb', hlabels, hsame⟩ := Operand.Daemon.build_congr hid hspec hu hb
  exact ⟨built', hb', hl.trans hlabels.symm, hd.trans hsame.symm⟩

-- Specifications are told apart by their versions.
def ToldApart (declared : OnloadSpec → Prop) : Prop :=
  ∀ spec spec', declared spec → declared spec' → spec.onload.version = spec'.onload.version →
    spec = spec'

-- An operand has a version that was declared, and is as it is built from the specification with this
-- version.
structure OfItsVersion (declared : OnloadSpec → Prop) (version : Option String)
    (asBuilt : OnloadSpec → Prop) : Prop where
  known : ∃ spec, declared spec ∧ version = some spec.onload.version
  built : ∀ spec, declared spec → version = some spec.onload.version → asBuilt spec

structure Faithful (id : Identity) (declared : OnloadSpec → Prop) (c : Cluster) : Prop where
  modules    : ∀ (kind : ModuleKind) m,
    c.modules.get? ⟨id.ns, kind.resourceName id.name⟩ = some m →
    OfItsVersion declared m.loaderVersion? fun spec => ModuleAsBuilt id kind spec m
  daemonSets : ∀ (daemon : Daemon) d,
    c.daemonSets.get? ⟨id.ns, daemon.resourceName id.name⟩ = some d →
    OfItsVersion declared (Operand.version? d) fun spec => DaemonSetAsBuilt id daemon spec d

variable {declared : OnloadSpec → Prop}

theorem OfItsVersion.of_declared {version : Option String} {asBuilt : OnloadSpec → Prop}
    (ha : ToldApart declared) (hd : declared spec) (hv : version = some spec.onload.version)
    (hb : asBuilt spec) : OfItsVersion declared version asBuilt := by
  refine ⟨⟨spec, hd, hv⟩, fun spec' hd' hv' => ?_⟩
  have hsame := ha spec spec' hd hd' (Option.some.inj (hv.symm.trans hv'))
  exact hsame ▸ hb

namespace Faithful

theorem congr (h : Faithful id declared c)
    (hm : ∀ kind : ModuleKind, c'.modules.get? ⟨id.ns, kind.resourceName id.name⟩ =
      c.modules.get? ⟨id.ns, kind.resourceName id.name⟩)
    (hd : ∀ daemon : Daemon, c'.daemonSets.get? ⟨id.ns, daemon.resourceName id.name⟩ =
      c.daemonSets.get? ⟨id.ns, daemon.resourceName id.name⟩) : Faithful id declared c' where
  modules kind m hget := h.modules kind m (hm kind ▸ hget)
  daemonSets daemon d hget := h.daemonSets daemon d (hd daemon ▸ hget)

-- What is written is built from what the resource declares now.
theorem writes (h : Faithful t.id declared c) (ha : ToldApart declared) (hd : declared t.spec)
    (hw : Writes t c c') : Faithful t.id declared c' := by
  constructor
  case modules =>
    intro kind m hget
    have hw := hw.modules kind
    have hold := h.modules kind
    change c'.modules.get? (t.moduleId kind) = some m at hget
    change ∀ m, c.modules.get? (t.moduleId kind) = some m → _ at hold
    rw [hget] at hw
    generalize c.modules.get? (t.moduleId kind) = x at hw hold
    cases hw with
    | kept => exact hold m rfl
    | created built _ hb | renewed _ built _ hb =>
      exact .of_declared ha hd (Operand.of_kernelModule hb).right (moduleAsBuilt_of_built hb rfl)
  case daemonSets =>
    intro daemon d hget
    have hw := hw.daemonSets daemon
    have hold := h.daemonSets daemon
    rw [hget] at hw
    generalize c.daemonSets.get? _ = x at hw hold
    cases hw with
    | kept => exact hold d rfl
    | created built _ hb | renewed _ built _ hb =>
      exact .of_declared ha hd (Daemon.of_build hb).right (daemonSetAsBuilt_of_built hb rfl rfl)

end Faithful

theorem Faithful.afterPass (h : Faithful id declared w.cluster) (hk : w.cluster.Keyed)
    (ha : ToldApart declared) (hd : ∀ spec, w.cluster.spec? id = some spec → declared spec) :
    Faithful id declared (w.afterPass id delay now).cluster := by
  obtain ⟨hm, hd⟩ | ⟨t, rfl, hspec, hw⟩ := operands_afterPass id delay now hk
  · exact h.congr (fun _ => hm ▸ rfl) fun _ => hd ▸ rfl
  · exact h.writes ha (hd _ hspec) hw

-- Others may do anything but write the operands of the resource.
structure LeavesOperands (id : Identity) (c c' : Cluster) : Prop where
  keyed      : c'.Keyed
  modules    : ∀ kind : ModuleKind, c'.modules.get? ⟨id.ns, kind.resourceName id.name⟩ =
    c.modules.get? ⟨id.ns, kind.resourceName id.name⟩
  daemonSets : ∀ daemon : Daemon, c'.daemonSets.get? ⟨id.ns, daemon.resourceName id.name⟩ =
    c.daemonSets.get? ⟨id.ns, daemon.resourceName id.name⟩

-- What the resource declares at any time of a run.
def Run.Declares (r : Run (LeavesOperands id) id w w') (spec : OnloadSpec) : Prop :=
  ∃ c ∈ r.clusters, c.spec? id = some spec

theorem LeavesOperands.keyed_of_run (r : Run (LeavesOperands id) id w w') (hk : w.cluster.Keyed) :
    w'.cluster.Keyed :=
  r.keyed hk fun _ _ h => h.keyed

-- The run is a part of another one, in which more may be declared.
theorem Faithful.run (r : Run (LeavesOperands id) id w w') (h : Faithful id declared w.cluster)
    (hk : w.cluster.Keyed) (ha : ToldApart declared) (hd : ∀ spec, r.Declares spec → declared spec) :
    Faithful id declared w'.cluster ∧ r.AfterPasses (Faithful id declared) := by
  induction r with
  | start => exact ⟨h, trivial⟩
  | @pass w₁ r delay now hi =>
    have hd₁ : ∀ spec, r.Declares spec → declared spec :=
      fun spec ⟨c, hc, hspec⟩ => hd spec ⟨c, List.mem_cons_of_mem _ hc, hspec⟩
    have ⟨h₁, hafter⟩ := hi hd₁
    have h' : Faithful id declared (w₁.afterPass id delay now).cluster :=
      h₁.afterPass (LeavesOperands.keyed_of_run r hk) ha fun spec hspec =>
        hd₁ spec ⟨_, r.mem_clusters, hspec⟩
    exact ⟨h', hafter, h'⟩
  | step r hothers hi =>
    have ⟨h₁, hafter⟩ := hi fun spec ⟨c, hc, hspec⟩ => hd spec ⟨c, List.mem_cons_of_mem _ hc, hspec⟩
    exact ⟨h₁.congr hothers.modules hothers.daemonSets, hafter⟩

-- There is no operand of the resource.
structure NoOperands (id : Identity) (c : Cluster) : Prop where
  modules    : ∀ kind : ModuleKind, c.modules.get? ⟨id.ns, kind.resourceName id.name⟩ = none
  daemonSets : ∀ daemon : Daemon, c.daemonSets.get? ⟨id.ns, daemon.resourceName id.name⟩ = none

theorem NoOperands.faithful (h : NoOperands id c) : Faithful id declared c where
  modules kind m hget := by cases (h.modules kind).symm.trans hget
  daemonSets daemon d hget := by cases (h.daemonSets daemon).symm.trans hget

-- Exactly the operands of the release are there, as they are built from one specification.
structure AllBuilt (id : Identity) (spec : OnloadSpec) (c : Cluster) : Prop where
  onloadModule : ∃ m, c.modules.get? ⟨id.ns, ModuleKind.onload.resourceName id.name⟩ = some m ∧
    ModuleAsBuilt id .onload spec m
  sfcModule    : spec.onload.usesSfc = true →
    ∃ m, c.modules.get? ⟨id.ns, ModuleKind.sfc.resourceName id.name⟩ = some m ∧ ModuleAsBuilt id .sfc spec m
  noSfcModule  : spec.onload.usesSfc = false →
    c.modules.get? ⟨id.ns, ModuleKind.sfc.resourceName id.name⟩ = none
  daemonSets   : ∀ daemon : Daemon, ∃ d,
    c.daemonSets.get? ⟨id.ns, daemon.resourceName id.name⟩ = some d ∧ DaemonSetAsBuilt id daemon spec d

theorem Faithful.module_asBuilt (h : Faithful id declared c) (hd : declared spec)
    (hversion : (c.modules.get? ⟨id.ns, kind.resourceName id.name⟩).map (·.loaderVersion?) =
      some (some spec.onload.version)) :
    ∃ m, c.modules.get? ⟨id.ns, kind.resourceName id.name⟩ = some m ∧ ModuleAsBuilt id kind spec m := by
  have ⟨m, hm, hv⟩ := Option.map_eq_some_iff.mp hversion
  exact ⟨m, hm, (h.modules kind m hm).built _ hd hv⟩

theorem Faithful.allBuilt (h : Faithful id declared c) (hd : declared spec)
    (hat : OperandsAt id spec c) : AllBuilt id spec c where
  onloadModule := h.module_asBuilt hd hat.onloadModule
  sfcModule hsfc := h.module_asBuilt hd (hat.sfcModule.trans (if_pos hsfc))
  noSfcModule hsfc := by simpa [hsfc] using hat.sfcModule
  daemonSets daemon := by
    have ⟨d, hget, hv⟩ := Option.map_eq_some_iff.mp (hat.daemonSets daemon)
    exact ⟨d, hget, (h.daemonSets daemon d hget).built _ hd hv⟩

-- However specifications are edited, operands are as they are built from the ones that have their
-- versions, and when nothing is left to do, from the current one.
theorem faithful_after_passes (hk : w.cluster.Keyed) (hnone : NoOperands id w.cluster)
    (r : Run (LeavesOperands id) id w w') (ha : ToldApart r.Declares) :
    r.AfterPasses (Faithful id r.Declares) ∧
    ∀ delay now o, w'.cluster.onloads.get? id = some o → o.metadata.terminating = false →
      w'.passAnswer id delay now = .ok .nothingToDo →
      AllBuilt id o.spec (w'.afterPass id delay now).cluster := by
  have hk' := LeavesOperands.keyed_of_run r hk
  have ⟨hfaithful, hafter⟩ := hnone.faithful.run r hk ha fun _ h => h
  refine ⟨hafter, fun delay now o ho hkept hdone => ?_⟩
  have ⟨t, ht, hto⟩ := Reconcile.handles_of_nothingToDo ho hkept hdone
  have ⟨hfinished, hr⟩ := Reconcile.finished_of_nothingToDo hk' ht hdone
  have hid := ht.id_eq hk'
  subst hid hto
  have h := hfaithful.allBuilt ⟨_, r.mem_clusters, ht.spec?⟩ hfinished.operandsAt
  rw [hr.eq]
  exact ⟨h.onloadModule, h.sfcModule, h.noSfcModule, h.daemonSets⟩

-- Edits that put no operands.
theorem LeavesOperands.of_edit (hk : c.Keyed) {e : Edit} (hm : ∀ m, e ≠ .putModule m)
    (hd : ∀ d, e ≠ .putDaemonSet d) : LeavesOperands id c (e.apply c) := by
  refine ⟨hk.edit e, fun kind => ?_, fun daemon => ?_⟩
  all_goals
    cases e with
    | putModule m => exact absurd rfl (hm m)
    | putDaemonSet d => exact absurd rfl (hd d)
    | _ => rfl

theorem ToldApart.of_forall_mem {s : List OnloadSpec} {r : Run (LeavesOperands id) id w w'}
    (hr : ∀ c ∈ r.clusters, ∀ spec, spec ∈ c.spec? id → spec ∈ s)
    (hs : ∀ a ∈ s, ∀ b ∈ s, a.onload.version = b.onload.version → a = b) :
    ToldApart r.Declares :=
  fun a b ⟨_, hc, ha⟩ ⟨_, hc', hb⟩ => hs a (hr _ hc a ha) b (hr _ hc' b hb)

-- A release with an SFC module is deleted, and comes back as a later one without.
theorem faithful_after_passes_edited :
    ∃ (w w' : World Cluster) (r : Run (LeavesOperands Sample.resource) Sample.resource w w')
      (o : Onload), w.cluster.Keyed ∧ NoOperands Sample.resource w.cluster ∧ ToldApart r.Declares ∧
      w'.cluster.onloads.get? Sample.resource = some o ∧ o.metadata.terminating = false ∧
      w'.passAnswer Sample.resource .zero Sample.now = .ok .nothingToDo ∧
      r.AfterPasses (Faithful Sample.resource r.Declares) ∧
      AllBuilt Sample.resource o.spec (w'.afterPass Sample.resource .zero Sample.now).cluster := by
  let w : World Cluster := {
    cluster := Edit.applyAll [.putOnload (Sample.sfcOnload "1")] {}
    metrics := {}
    backoff := { min := .zero, max := .zero } }
  have hk : w.cluster.Keyed := Cluster.Keyed.empty.applyAll _
  have hnone : NoOperands Sample.resource w.cluster := ⟨fun _ => rfl, fun _ => rfl⟩
  let pass (w : World Cluster) : World Cluster := w.afterPass Sample.resource .zero Sample.now
  let w₁ : World Cluster := pass (pass (pass (pass w)))
  let r₁ : Run (LeavesOperands Sample.resource) Sample.resource w w₁ :=
    Run.start.pass .zero Sample.now |>.pass .zero Sample.now |>.pass .zero Sample.now
      |>.pass .zero Sample.now
  let removed : Cluster := (Edit.removeOnload Sample.resource).apply w₁.cluster
  have hremove : LeavesOperands Sample.resource w₁.cluster removed :=
    .of_edit (LeavesOperands.keyed_of_run r₁ hk) (by simp) (by simp)
  let w₂ : World Cluster := pass { w₁ with cluster := removed }
  let r₂ : Run (LeavesOperands Sample.resource) Sample.resource w w₂ :=
    (r₁.step hremove).pass .zero Sample.now
  let back : Cluster := (Edit.putOnload (Sample.onload "2")).apply w₂.cluster
  have hback : LeavesOperands Sample.resource w₂.cluster back :=
    .of_edit (LeavesOperands.keyed_of_run r₂ hk) (by simp) (by simp)
  let w' : World Cluster := pass (pass (pass (pass { w₂ with cluster := back })))
  let r : Run (LeavesOperands Sample.resource) Sample.resource w w' :=
    r₂.step hback |>.pass .zero Sample.now |>.pass .zero Sample.now |>.pass .zero Sample.now
      |>.pass .zero Sample.now
  have ha : ToldApart r.Declares :=
    ToldApart.of_forall_mem (s := [(Sample.sfcOnload "1").spec, (Sample.onload "2").spec])
      (by simp only [r, r₂, r₁, Run.clusters]; decide +kernel) (by decide +kernel)
  have ho : w'.cluster.onloads.get? Sample.resource =
      some (Cluster.admitted (Sample.onload "2") (w₂.cluster.version + 1)) := by decide +kernel
  have hdone : w'.passAnswer Sample.resource .zero Sample.now = .ok .nothingToDo := by decide +kernel
  have h := faithful_after_passes hk hnone r ha
  exact ⟨w, w', r, _, hk, hnone, ha, ho, rfl, hdone, h.left, h.right .zero Sample.now _ ho rfl hdone⟩

end KernelRollout
