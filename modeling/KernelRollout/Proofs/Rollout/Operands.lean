import KernelRollout.Proofs.Rollout.Progress
import KernelRollout.Proofs.Rollout.Written
import KernelRollout.Rollout.Provision

namespace KernelRollout

open Pass
open Cluster (Aside Sets)

variable {delay : Duration} {now : Timestamp} {w : World Cluster} {t : Target} {c c' : Cluster}

namespace Operand

-- An operand that a resource has, or should not have.
structure Part where
  kind   : OperandKind
  id     : Identity
  wanted : Bool

def modulePart (t : Target) (kind : ModuleKind) : Part :=
  ⟨.module, t.moduleId kind, kind.wanted t.spec⟩

def daemonSetPart (t : Target) (name : String) : Part := ⟨.daemonSet, ⟨t.id.ns, name⟩, true⟩

def parts (t : Target) : List Part :=
  [modulePart t .onload, modulePart t .sfc, daemonSetPart t (cplaneName t.id.name),
    daemonSetPart t (devicePluginName t.id.name)]

namespace Part

variable {p q : Part}

def goal (t : Target) (p : Part) : Option (Option String) :=
  if p.wanted then some (some t.version) else none

-- The operand is at the version of the resource, or gone if it is not wanted.
def Current (t : Target) (c : Cluster) (p : Part) : Prop := c.operandVersion? p.id p.kind = p.goal t

-- The operand is there, at whatever version, or gone if it is not wanted.
def Placed (c : Cluster) (p : Part) : Prop := (c.operandVersion? p.id p.kind).isSome = p.wanted

instance : Decidable (p.Current t c) := inferInstanceAs (Decidable (_ = _))

theorem Placed.current_of_unwanted (h : p.Placed c) (hw : p.wanted = false) : p.Current t c := by
  rw [Placed, hw, Option.isSome_eq_false_iff, Option.isNone_iff_eq_none] at h
  rw [Current, goal, hw, h]
  rfl

end Part

-- Different operands of a resource are stored in different places.
theorem eq_of_mem_parts {p q : Part} (hp : p ∈ parts t) (hq : q ∈ parts t) (hk : p.kind = q.kind)
    (hid : p.id = q.id) : p = q := by
  have hkinds : ∀ x ∈ parts t, (∃ kind, x = modulePart t kind) ∨ ∃ name, x = daemonSetPart t name := by
    simp only [parts, List.forall_mem_cons]
    exact ⟨.inl ⟨_, rfl⟩, .inl ⟨_, rfl⟩, .inr ⟨_, rfl⟩, .inr ⟨_, rfl⟩, nofun⟩
  obtain ⟨k₁, rfl⟩ | ⟨n₁, rfl⟩ := hkinds p hp <;> obtain ⟨k₂, rfl⟩ | ⟨n₂, rfl⟩ := hkinds q hq
  · rw [moduleId_inj.mp hid]
  · cases hk
  · cases hk
  · exact congrArg (fun id => (⟨.daemonSet, id, true⟩ : Part)) hid

-- A write that brings an operand to where it should be, and was not.
structure Brings (t : Target) (p : Part) (c c' : Cluster) : Prop where
  stale  : ¬p.Current t c
  sets   : Sets p.kind p.id (p.goal t) c c'
  writes : Writes t c c'

theorem Brings.current {p : Part} (h : Brings t p c c') : p.Current t c' := by
  rw [Part.Current, h.sets.version, if_pos ⟨rfl, rfl⟩]

theorem Brings.keeps_current {p q : Part} (h : Brings t p c c') (hp : p ∈ parts t)
    (hq : q ∈ parts t) (hc : q.Current t c) : q.Current t c' := by
  by_cases hsame : q.kind = p.kind ∧ q.id = p.id
  case pos => exact eq_of_mem_parts hp hq hsame.left.symm hsame.right.symm ▸ h.current
  case neg => rwa [Part.Current, h.sets.version, if_neg hsame]

-- What the writes of a step come to.
inductive Operated (t : Target) (c : Cluster) : Cluster → Prop
  | brought {c₁} (p : Part) (hp : p ∈ parts t) (h : Brings t p c c₁) : Operated t c c₁
  | unwritten : Operated t c c

theorem Operated.aside (h : Operated t c c') : Aside c c' := by
  cases h with
  | brought p _ h => exact h.sets.aside
  | unwritten => exact .refl

theorem Operated.pods (h : Operated t c c') : c'.pods = c.pods := by
  cases h with
  | brought p _ h => exact h.sets.pods
  | unwritten => rfl

theorem Operated.writes (h : Operated t c c') : Writes t c c' := by
  cases h with
  | brought p _ h => exact h.writes
  | unwritten => exact .of_eq rfl rfl

-- What a step does that is not done.
structure Operates (t : Target) (c : Cluster) (r : Except OperatorError StepOutcome) (c' : Cluster) :
    Prop where
  operated : Operated t c c'
  progress : Progress t c r c'

theorem Operates.unowned {e : OperatorError} (h : Unowned t e) : Operates t c (.error e) c := by
  refine ⟨.unwritten, .of_stopped nofun (fun hs => ?_) fun e' he => ?_⟩
  · simpa [h.uid] using hs.owned
  · cases he
    exact h.error ▸ .missing _

theorem Operates.brought {p : Part} (hp : p ∈ parts t) (h : Brings t p c c') :
    Operates t c (.ok .requeueNow) c' where
  operated := .brought p hp h
  progress := .of_writes (h.sets.writes ▸ Nat.lt_succ_self _)

-- A write, after which the step asks for the next pass.
theorem ensures_write {α : Type} {call : Call α} {p : Part} {done : Prop} (hp : p ∈ parts t)
    (hs : ¬p.Current t w.cluster)
    (h : ∃ a c', w.cluster.answer call = (.ok a, c') ∧ Sets p.kind p.id (p.goal t) w.cluster c' ∧
      Writes t w.cluster c') :
    Ensures (Pass.call (.inMemory delay now) call >>= fun _ => pure StepOutcome.requeueNow) w
      fun r w' => (r = .ok .nothingToDo ∧ w' = w ∧ done) ∨
        (r ≠ .ok .nothingToDo ∧ Operates t w.cluster r w'.cluster) := by
  have ⟨_, c', hanswer, hsets, hwrites⟩ := h
  have hcall : Ensures (Pass.call (.inMemory delay now) call) w fun r w' =>
      (∃ a, r = .ok a) ∧ Brings t p w.cluster w'.cluster :=
    .call hanswer (fun a _ => ⟨⟨a, rfl⟩, hs, hsets, hwrites⟩) fun _ h => nomatch h
  refine hcall.bind (fun _ _ h => .pure (.inr ⟨nofun, ?_⟩)) fun _ _ ⟨⟨_, h⟩, _⟩ => nomatch h
  exact .brought hp h.right

end Operand

open Operand (parts modulePart daemonSetPart Daemon Operates)

theorem modulePart_mem_parts (kind : ModuleKind) : modulePart t kind ∈ parts t := by
  cases kind <;> simp [parts]

theorem current_modulePart {kind : ModuleKind} : (modulePart t kind).Current t c ↔
    (c.modules.get? (t.moduleId kind)).map (·.loaderVersion?) =
      if kind.wanted t.spec then some (some t.version) else none := .rfl

theorem placed_modulePart {kind : ModuleKind} : (modulePart t kind).Placed c ↔
    (c.modules.get? (t.moduleId kind)).isSome = kind.wanted t.spec := by
  rw [Operand.Part.Placed, modulePart, Cluster.operandVersion?, Option.isSome_map]

theorem current_daemonSetPart {name : String} : (daemonSetPart t name).Current t c ↔
    (c.daemonSets.get? ⟨t.id.ns, name⟩).map Operand.version? = some (some t.version) := .rfl

theorem placed_daemonSetPart {name : String} : (daemonSetPart t name).Placed c ↔
    (c.daemonSets.get? ⟨t.id.ns, name⟩).isSome = true := by
  rw [Operand.Part.Placed, daemonSetPart, Cluster.operandVersion?, Option.isSome_map]

theorem daemonSetPart_mem_parts (daemon : Daemon) :
    daemonSetPart t (daemon.resourceName t.id.name) ∈ parts t := by
  cases daemon <;> simp [parts, Daemon.resourceName]

-- A module that is not wanted is deleted.
theorem ensures_deleteModule {kind : ModuleKind} {m : KernelModule} {done : Prop}
    (hsome : w.cluster.modules.get? (t.moduleId kind) = some m)
    (hunwanted : kind.wanted t.spec = false) :
    Ensures (Pass.call (.inMemory delay now) (.deleteModule (t.moduleId kind)) >>= fun _ =>
        pure StepOutcome.requeueNow) w
      fun r w' => (r = .ok .nothingToDo ∧ w' = w ∧ done) ∨
        (r ≠ .ok .nothingToDo ∧ Operates t w.cluster r w'.cluster) := by
  have hs : ¬(modulePart t kind).Current t w.cluster := by
    simp [current_modulePart, hsome, hunwanted]
  have ⟨c', hanswer, hsets, hputs⟩ := Cluster.sets_deleteModule (c := w.cluster) hsome
  refine Operand.ensures_write (modulePart_mem_parts kind) hs
    ⟨(), c', hanswer, ?_, .of_putsModule hputs ?_⟩
  · rwa [Operand.Part.goal, modulePart, if_neg (by simp [hunwanted])]
  · rw [hsome]
    exact .deleted m hunwanted

namespace Provision

theorem kernelModule_settles (kind : ModuleKind) :
    Step.Settles (fun s t => kernelModule s t kind) (.inMemory delay now) t w
      ((modulePart t kind).Placed w.cluster) fun r w' => Operates t w.cluster r w'.cluster := by
  have hp := modulePart_mem_parts (t := t) kind
  refine .read rfl ?_
  split
  case h_1 hnone hwanted =>
    have hs : ¬(modulePart t kind).Current t w.cluster := by
      simp [current_modulePart, hnone, hwanted]
    refine .ofExcept_bind (fun m hm => ?_) fun e he => ?_
    · have ⟨hid, hversion⟩ := Operand.of_kernelModule hm
      have ⟨a, c', hanswer, hsets, hputs⟩ := Cluster.sets_createModule (c := w.cluster) (hid ▸ hnone)
      rw [hid] at hsets hputs
      refine Operand.ensures_write hp hs ⟨a, c', hanswer, ?_, .of_putsModule hputs ?_⟩
      · rwa [Operand.Part.goal, modulePart, if_pos hwanted, ← hversion]
      · rw [hnone]
        exact .created m hwanted hm
    · exact .inr ⟨nofun, .unowned (Operand.unowned_of_kernelModule he)⟩
  case h_2 m hsome hunwanted => exact ensures_deleteModule hsome hunwanted
  case h_3 hnone hsome =>
    refine .inl ⟨rfl, rfl, placed_modulePart.mpr ?_⟩
    cases hm : w.cluster.modules.get? (t.moduleId kind) <;> cases hw : kind.wanted t.spec
    case none.false | some.true => rfl
    case none.true => exact absurd hw (hnone hm)
    case some.false => exact absurd hw (hsome _ hm)

theorem kernelModules_settles :
    Step.Settles kernelModules (.inMemory delay now) t w
      ((modulePart t .onload).Placed w.cluster ∧ (modulePart t .sfc).Placed w.cluster)
      fun r w' => Operates t w.cluster r w'.cluster :=
  (kernelModule_settles .onload).andThen fun _ => kernelModule_settles .sfc

theorem daemonSet_settles (daemon : Daemon) {d : DaemonSet} (hd : daemon.build t = .ok d) :
    Step.Settles (fun s t => daemonSet s t (daemon.resourceName t.id.name) d) (.inMemory delay now) t w
      ((daemonSetPart t (daemon.resourceName t.id.name)).Placed w.cluster)
      fun r w' => Operates t w.cluster r w'.cluster := by
  have ⟨hid, hversion⟩ := Daemon.of_build hd
  refine .read rfl ?_
  split
  case h_1 d hsome => exact .inl ⟨rfl, rfl, placed_daemonSetPart.mpr (by simp [hsome])⟩
  case h_2 hnone =>
    have hs : ¬(daemonSetPart t (daemon.resourceName t.id.name)).Current t w.cluster := by
      simp [current_daemonSetPart, hnone]
    have ⟨a, c', hanswer, hsets, hputs⟩ := Cluster.sets_createDaemonSet (c := w.cluster) (hid ▸ hnone)
    rw [hid] at hsets hputs
    rw [hversion] at hsets
    refine Operand.ensures_write (daemonSetPart_mem_parts daemon) hs
      ⟨a, c', hanswer, hsets, .of_putsDaemonSet hputs ?_⟩
    rw [hnone]
    exact .created d rfl hd

theorem daemonSets_settles :
    Step.Settles daemonSets (.inMemory delay now) t w
      ((daemonSetPart t (Operand.cplaneName t.id.name)).Placed w.cluster ∧
        (daemonSetPart t (Operand.devicePluginName t.id.name)).Placed w.cluster)
      fun r w' => Operates t w.cluster r w'.cluster := by
  refine .ofExcept_bind (fun cplane hcplane => ?_)
    fun e he => .inr ⟨nofun, .unowned (Operand.unowned_of_daemonSet he)⟩
  refine .ofExcept_bind (fun plugin hplugin => ?_)
    fun e he => .inr ⟨nofun, .unowned (Operand.unowned_of_daemonSet he)⟩
  exact (daemonSet_settles .cplane hcplane).andThen fun _ => daemonSet_settles .devicePlugin hplugin

end Provision

namespace Renewal

theorem daemonSet_settles (daemon : Daemon) {built : DaemonSet} (hk : w.cluster.Keyed)
    (hb : daemon.build t = .ok built) :
    Step.Settles (fun s t => daemonSet s t built) (.inMemory delay now) t w
      ((daemonSetPart t (daemon.resourceName t.id.name)).Placed w.cluster →
        (daemonSetPart t (daemon.resourceName t.id.name)).Current t w.cluster)
      fun r w' => Operates t w.cluster r w'.cluster := by
  have ⟨hid, hversion⟩ := Daemon.of_build hb
  have hname : built.metadata.name.getD "" = daemon.resourceName t.id.name := congrArg (·.name) hid
  refine .read rfl ?_
  rw [hname]
  split
  case h_1 hnone =>
    exact .inl ⟨rfl, rfl, fun hplaced => by simp [placed_daemonSetPart, hnone] at hplaced⟩
  case h_2 live hsome =>
    have hcurrent : (daemonSetPart t (daemon.resourceName t.id.name)).Current t w.cluster ↔
        Operand.version? live = some t.version := by simp [current_daemonSetPart, hsome]
    split
    case isTrue h => exact .inl ⟨rfl, rfl, fun _ => hcurrent.mpr h⟩
    case isFalse h =>
      have hlive : Cluster.idOf (renewedDaemonSet live built) =
          ⟨t.id.ns, daemon.resourceName t.id.name⟩ := hk.daemonSets _ live hsome
      have hstored :
          w.cluster.daemonSets.get? (Cluster.idOf (renewedDaemonSet live built)) = some live := by
        rw [hlive, hsome]
      have ⟨a, c', hanswer, hsets, hputs⟩ := Cluster.sets_replaceDaemonSet hstored rfl
      have hrenewed : Operand.version? (renewedDaemonSet live built) = some t.version := hversion
      rw [hlive] at hsets hputs
      rw [hrenewed] at hsets
      refine Operand.ensures_write (daemonSetPart_mem_parts daemon) (mt hcurrent.mp h)
        ⟨a, c', hanswer, hsets, .of_putsDaemonSet hputs ?_⟩
      rw [hsome]
      exact .renewed live built rfl hb

theorem kernelModule_settles (hk : w.cluster.Keyed) (kind : ModuleKind) :
    Step.Settles (fun s t => kernelModule s t kind) (.inMemory delay now) t w
      ((modulePart t kind).Placed w.cluster → (modulePart t kind).Current t w.cluster)
      fun r w' => Operates t w.cluster r w'.cluster := by
  have hp := modulePart_mem_parts (t := t) kind
  refine .read rfl ?_
  split
  case h_1 hnone =>
    refine .inl ⟨rfl, rfl, fun hplaced => hplaced.current_of_unwanted ?_⟩
    rw [placed_modulePart, hnone] at hplaced
    exact hplaced.symm
  case h_2 live hsome =>
    split
    case isTrue hunwanted =>
      have hunwanted : kind.wanted t.spec = false := by simpa using hunwanted
      exact ensures_deleteModule hsome hunwanted
    case isFalse hwanted =>
      have hwanted : kind.wanted t.spec = true := by simpa using hwanted
      have hcurrent : (modulePart t kind).Current t w.cluster ↔
          live.loaderVersion? = some t.version := by simp [current_modulePart, hsome, hwanted]
      split
      case isTrue h => exact .inl ⟨rfl, rfl, fun _ => hcurrent.mpr h⟩
      case isFalse h =>
        refine .ofExcept_bind (fun built hbuilt => ?_) fun e he => ?_
        · have hlive : Cluster.idOf (renewedModule live built) = t.moduleId kind :=
            hk.modules _ live hsome
          have hstored :
              w.cluster.modules.get? (Cluster.idOf (renewedModule live built)) = some live := by
            rw [hlive, hsome]
          have ⟨a, c', hanswer, hsets, hputs⟩ := Cluster.sets_replaceModule hstored rfl
          have hrenewed : (renewedModule live built).loaderVersion? = some t.version :=
            (Operand.of_kernelModule hbuilt).right
          rw [hlive] at hsets hputs
          rw [hrenewed] at hsets
          refine Operand.ensures_write hp (mt hcurrent.mp h)
            ⟨a, c', hanswer, ?_, .of_putsModule hputs ?_⟩
          · rwa [Operand.Part.goal, modulePart, if_pos hwanted]
          · rw [hsome]
            exact .renewed live built hwanted hbuilt
        · exact .inr ⟨nofun, .unowned (Operand.unowned_of_kernelModule he)⟩

theorem builtDaemonSet_settles (daemon : Daemon) (hk : w.cluster.Keyed) :
    Step.Settles (fun s t => Pass.ofExcept (daemon.build t) >>= daemonSet s t) (.inMemory delay now) t w
      ((daemonSetPart t (daemon.resourceName t.id.name)).Placed w.cluster →
        (daemonSetPart t (daemon.resourceName t.id.name)).Current t w.cluster)
      fun r w' => Operates t w.cluster r w'.cluster :=
  .ofExcept_bind (fun _ hbuilt => daemonSet_settles daemon hk hbuilt)
    fun _ he => .inr ⟨nofun, .unowned (Daemon.unowned_of_build he)⟩

theorem operands_settles (hk : w.cluster.Keyed) :
    Step.Settles operands (.inMemory delay now) t w
      (∀ p ∈ parts t, p.Placed w.cluster → p.Current t w.cluster)
      fun r w' => Operates t w.cluster r w'.cluster := by
  refine ((builtDaemonSet_settles .devicePlugin hk).andThen fun _ =>
    (kernelModule_settles hk .onload).andThen fun _ => (kernelModule_settles hk .sfc).andThen fun _ =>
    builtDaemonSet_settles .cplane hk).mono ?_ fun _ _ h => h
  intro ⟨hplugin, honload, hsfc, hcplane⟩
  simp only [parts, List.forall_mem_cons]
  exact ⟨honload, hsfc, hcplane, hplugin, nofun⟩

end Renewal

end KernelRollout
