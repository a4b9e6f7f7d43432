import KernelRollout.Proofs.Cluster.Lossy
import KernelRollout.Proofs.Rollout.InFlight
import KernelRollout.Proofs.Rollout.Order

namespace KernelRollout

open Pass

variable {loses : Nat → Bool} {delay : Duration} {now : Timestamp} {w : World Lossy}
variable {id : Identity} {m m' : Marker} {n n' : Node} {ns : List Node} {l l₁ l' : Lossy}
variable {keep : Node → Bool} {t : Target} {name : String}

-- A node is still not selected when it has lost a label.
theorem Target.selects_of_removed {key : String} {k : Nat}
    (h : t.selects (n.relabelled key none k) = true) : t.selects n = true := by
  refine Node.matches_iff.mpr fun key' v hv => ?_
  have hlabel := Node.matches_iff.mp h key' v hv
  rw [Node.label?_relabelled] at hlabel
  split at hlabel
  case isTrue => cases hlabel
  case isFalse => exact hlabel

namespace Lossy

-- What becomes of one node when a marker is swept from a list of nodes.
inductive Fate (m : Marker) (id : Identity) (l' : Lossy) (n : Node) : Node → Prop
  | lost (hl : l'.Lost n.name (m.key id)) : Fate m id l' n n
  | struck (hl : ¬l'.Lost n.name (m.key id)) (k : Nat) :
    Fate m id l' n (n.relabelled (m.key id) none k)

-- What a sweep over a list of nodes does to nodes and to the log.
structure Struck (m : Marker) (id : Identity) (ns : List Node) (l l' : Lossy) : Prop where
  keyed    : l.cluster.Keyed → l'.cluster.Keyed
  listed   : ∀ n ∈ ns, ∃ n', l'.cluster.Stores n' ∧ Fate m id l' n n'
  unlisted : ∀ name, (∀ n ∈ ns, n.name ≠ name) →
    l'.cluster.nodes.get? name = l.cluster.nodes.get? name ∧
    (l'.Lost name (m.key id) ↔ l.Lost name (m.key id))
  others   : ∀ name key, key ≠ m.key id → (l'.Lost name key ↔ l.Lost name key)

namespace Struck

theorem nil : Struck m id [] l l where
  keyed := fun h => h
  listed _ hn := by simp at hn
  unlisted _ _ := ⟨rfl, .rfl⟩
  others _ _ _ := .rfl

-- The sweep of the first node, and then of the others, which have other names.
theorem cons (h : Struck m id ns l₁ l') (hne : ∀ x ∈ ns, n.name ≠ x.name)
    (hk : l.cluster.Keyed → l₁.cluster.Keyed)
    (hn : ∃ n', l₁.cluster.Stores n' ∧ Fate m id l₁ n n')
    (hnodes : ∀ name, n.name ≠ name → l₁.cluster.nodes.get? name = l.cluster.nodes.get? name)
    (hlost : ∀ name key, ¬(name = n.name ∧ key = m.key id) → (l₁.Lost name key ↔ l.Lost name key)) :
    Struck m id (n :: ns) l l' where
  keyed hkeyed := h.keyed (hk hkeyed)
  listed := by
    refine List.forall_mem_cons.mpr ⟨?_, h.listed⟩
    obtain ⟨n', hs, hfate⟩ := hn
    have hname : n'.name = n.name := by cases hfate <;> rfl
    obtain ⟨hsame, hiff⟩ := h.unlisted n.name fun x hx => (hne x hx).symm
    refine ⟨n', by rwa [Cluster.Stores, hname, hsame, ← hname], ?_⟩
    cases hfate with
    | lost hl => exact .lost (hiff.mpr hl)
    | struck hl k => exact .struck (mt hiff.mp hl) k
  unlisted name hnot := by
    obtain ⟨hn, hns⟩ := List.forall_mem_cons.mp hnot
    obtain ⟨hsame, hiff⟩ := h.unlisted name hns
    exact ⟨hsame.trans (hnodes name hn), hiff.trans (hlost name _ fun he => hn he.left.symm)⟩
  others name key hkey := (h.others name key hkey).trans (hlost name key fun he => hkey he.right)

end Struck

theorem ensures_nodes (hs : ∀ n ∈ ns, w.cluster.cluster.Stores n)
    (hd : ns.Pairwise (·.name ≠ ·.name)) (hnew : ∀ n ∈ ns, ¬w.cluster.Lost n.name (m.key id)) :
    Succeeds (Sweep.nodes (.lossy loses delay now) (m.key id) ns) w fun _ w' =>
      Struck m id ns w.cluster w'.cluster := by
  induction ns generalizing w with
  | nil => exact ⟨false, rfl, .nil⟩
  | cons n ns hi =>
    have ⟨hne, hd⟩ := List.pairwise_cons.mp hd
    have hn := hs n (by simp)
    have hs : ∀ x ∈ ns, w.cluster.cluster.Stores x := fun x hx => hs x (by simp [hx])
    have hkept : ¬w.cluster.Lost n.name (m.key id) := hnew n (by simp)
    have hnew : ∀ x ∈ ns, ¬w.cluster.Lost x.name (m.key id) := fun x hx => hnew x (by simp [hx])
    cases answer_unset loses hn (m.key id)
    case inl h =>
      have ⟨e, he⟩ := h
      have hnew : ∀ x ∈ ns, ¬(w.cluster.drop n (m.key id)).Lost x.name (m.key id) := by
        intro x hx
        rw [lost_drop, not_or]
        exact ⟨hnew x hx, fun h => hne x hx h.left.symm⟩
      have hi := hi (w := { w with cluster := w.cluster.drop n (m.key id) }) hs hd hnew
      refine .attempt_bind he (hi.bind fun rest w' h => ⟨rest, rfl, ?_⟩)
      refine h.cons hne (fun hk => hk) ⟨n, hn, .lost (lost_drop.mpr (.inr ⟨rfl, rfl⟩))⟩
        (fun _ _ => rfl) fun name key hother => ?_
      rw [lost_drop, or_iff_left hother]
    case inr h =>
      have ⟨a, ha⟩ := h
      have hs : ∀ x ∈ ns, (w.cluster.strike n (m.key id)).cluster.Stores x :=
        fun x hx => (hs x hx).relabel_other (hne x hx).symm
      have hi := hi (w := { w with cluster := w.cluster.strike n (m.key id) }) hs hd hnew
      have hkept : ¬(w.cluster.strike n (m.key id)).Lost n.name (m.key id) := hkept
      refine .attempt_bind ha (hi.bind fun rest w' h => ⟨true, rfl, ?_⟩)
      refine h.cons hne (fun hk => hk.relabel n) ⟨_, Cluster.stores_relabelled, .struck hkept _⟩
        (fun name hname => ?_) fun _ _ _ => .rfl
      exact Cluster.nodes_relabel.trans (if_neg hname.symm)

-- What becomes of a node that is there when a marker is swept from all nodes.
inductive Swept (m : Marker) (id : Identity) (keep : Node → Bool) (l' : Lossy) (n : Node) :
    Node → Prop
  | kept (h : n.label? (m.key id) = none ∨ keep n = true) (hl : ¬l'.Lost n.name (m.key id)) :
    Swept m id keep l' n n
  | lost (hk : keep n = false) (hp : (n.label? (m.key id)).isSome = true)
    (hl : l'.Lost n.name (m.key id)) : Swept m id keep l' n n
  | struck (hk : keep n = false) (hl : ¬l'.Lost n.name (m.key id)) (k : Nat) :
    Swept m id keep l' n (n.relabelled (m.key id) none k)

namespace Swept

theorem name_eq (h : Swept m id keep l' n n') : n'.name = n.name := by
  cases h <;> rfl

theorem marker?_other (h : Swept m t.id keep l' n n') (hm : m' ≠ m) :
    t.marker? m' n' = t.marker? m' n := by
  cases h with
  | kept | lost => rfl
  | struck =>
    rw [Target.marker?, Target.key, Node.label?_relabelled, if_neg (mt Marker.key_inj.mp hm)]
    rfl

-- A node that has a marker after the sweep had it before.
theorem isSome_of_isSome (h : Swept m t.id keep l' n n') (hp : (t.marker? m' n').isSome = true) :
    (t.marker? m' n).isSome = true := by
  cases h with
  | kept | lost => exact hp
  | struck =>
    rw [Target.marker?, Node.label?_relabelled] at hp
    split at hp
    case isTrue => cases hp
    case isFalse => exact hp

theorem selects (h : Swept m id keep l' n n') (hs : t.selects n' = true) : t.selects n = true := by
  cases h with
  | kept | lost => exact hs
  | struck _ _ k => exact t.selects_of_removed hs

theorem congr (h : Swept m id keep l₁ n n')
    (hl : l'.Lost n.name (m.key id) ↔ l₁.Lost n.name (m.key id)) : Swept m id keep l' n n' := by
  cases h with
  | kept h hnot => exact .kept h (mt hl.mp hnot)
  | lost hk hp hlost => exact .lost hk hp (hl.mpr hlost)
  | struck hk hnot k => exact .struck hk (mt hl.mp hnot) k

end Swept

-- What the sweep of a marker from all nodes does to nodes and to the log.
structure Sweeps (m : Marker) (id : Identity) (keep : Node → Bool) (l l' : Lossy) : Prop where
  keyed  : l'.cluster.Keyed
  stored : ∀ n, l.cluster.Stores n → ∃ n', l'.cluster.Stores n' ∧ Swept m id keep l' n n'
  absent : ∀ name, l.cluster.nodes.get? name = none →
    l'.cluster.nodes.get? name = none ∧ ¬l'.Lost name (m.key id)
  others : ∀ name key, key ≠ m.key id → (l'.Lost name key ↔ l.Lost name key)

theorem ensures_label (hk : w.cluster.cluster.Keyed)
    (hnew : ∀ name, ¬w.cluster.Lost name (m.key id)) :
    Succeeds (Sweep.label (.lossy loses delay now) (m.key id) keep) w fun _ w' =>
      Sweeps m id keep w.cluster w'.cluster := by
  refine .read rfl ?_
  have hmem : ∀ n, n ∈ (w.cluster.cluster.listNodes (.hasKey (m.key id))).filter (!keep ·) ↔
      w.cluster.cluster.Stores n ∧ (n.label? (m.key id)).isSome = true ∧ keep n = false := by
    intro n
    rw [List.mem_filter, Cluster.mem_listNodes hk, Sweep.selects_hasKey]
    simp [and_assoc]
  have hnames := ((Cluster.listNodes_pairwise (q := .hasKey (m.key id)) hk).imp
    String.ne_of_lt).filter (!keep ·)
  generalize (w.cluster.cluster.listNodes (.hasKey (m.key id))).filter (!keep ·) = ns at hmem hnames
  refine (ensures_nodes (fun n hn => ((hmem n).mp hn).left) hnames fun n _ => hnew n.name).mono ?_
  intro _ w' h
  have hunlisted : ∀ n, w.cluster.cluster.Stores n → n ∉ ns → ∀ x ∈ ns, x.name ≠ n.name := by
    intro n hn hnot x hx he
    exact hnot ((hn.unique ((hmem x).mp hx).left he.symm) ▸ hx)
  refine ⟨h.keyed hk, fun n hn => ?stored, fun name hname => ?absent, h.others⟩
  case stored =>
    by_cases hin : n ∈ ns
    case pos =>
      obtain ⟨_, hp, hkeep⟩ := (hmem n).mp hin
      obtain ⟨n', hs, hfate⟩ := h.listed n hin
      refine ⟨n', hs, ?_⟩
      cases hfate with
      | lost hl => exact .lost hkeep hp hl
      | struck hl k => exact .struck hkeep hl k
    case neg =>
      obtain ⟨hsame, hiff⟩ := h.unlisted n.name (hunlisted n hn hin)
      refine ⟨n, by rwa [Cluster.Stores, hsame], .kept ?_ (mt hiff.mp (hnew n.name))⟩
      rw [hmem, not_and, not_and, Bool.not_eq_false, Option.isSome_iff_ne_none] at hin
      exact Decidable.or_iff_not_imp_left.mpr (hin hn)
  case absent =>
    have hnone : ∀ x ∈ ns, x.name ≠ name := by
      intro x hx he
      have hs := ((hmem x).mp hx).left
      rw [Cluster.Stores, he, hname] at hs
      cases hs
    obtain ⟨hsame, hiff⟩ := h.unlisted name hnone
    exact ⟨hsame.trans hname, mt hiff.mp (hnew name)⟩

end Lossy

namespace Sample

-- A node that is no longer selected, and still has all markers.
def left (name : String) : Node :=
  .labelled name ([Marker.loader, .sfc, .ready].foldl (fun labels m => labels.insert (m.key resource) "1")
    Dict.empty)

def lossyWorld (nodes : List Node) : World Lossy where
  cluster := { cluster := Edit.applyAll (nodes.map .putNode) {} }
  metrics := {}
  backoff := { min := .zero, max := .zero }

end Sample

namespace Marking

open Lossy (Swept Sweeps)

-- The removal of the SFC marker fails, and that of no other marker of the node.
structure LosesSfc (t : Target) (l : Lossy) (name : String) : Prop where
  sfc    : l.Lost name (t.key .sfc)
  ready  : ¬l.Lost name (t.key .ready)
  loader : ¬l.Lost name (t.key .loader)

-- What becomes of a node in the three sweeps.
structure Stripping (t : Target) (l : Lossy) (n n₁ n₂ n₃ : Node) : Prop where
  ready  : Swept .ready t.id t.selects l n n₁
  sfc    : Swept .sfc t.id (fun n => t.sfcWanted && keepsModules t n) l n₁ n₂
  loader : Swept .loader t.id (keepsModules t) l n₂ n₃

theorem ensures_dropStale_lossy (loses : Nat → Bool) (delay : Duration) (now : Timestamp) (t : Target)
    (hk : w.cluster.cluster.Keyed)
    (hnew : ∀ name m, ¬w.cluster.Lost name (t.key m)) :
    Succeeds (dropStale (.lossy loses delay now) t) w fun _ w' =>
      (∀ name, w.cluster.cluster.nodes.get? name = none →
        w'.cluster.cluster.nodes.get? name = none ∧ ¬w'.cluster.Lost name (t.key .sfc)) ∧
      ∀ n, w.cluster.cluster.Stores n → ∃ n₁ n₂ n₃, w'.cluster.cluster.Stores n₃ ∧
        Stripping t w'.cluster n n₁ n₂ n₃ := by
  have hne {m₁ m₂ : Marker} (h : m₁ ≠ m₂) : t.key m₁ ≠ t.key m₂ := mt Marker.key_inj.mp h
  refine (Lossy.ensures_label hk fun name => hnew name .ready).bind fun ready w₁ h₁ => ?_
  have hsfc : ∀ name, ¬w₁.cluster.Lost name (t.key .sfc) :=
    fun name => mt (h₁.others name (t.key .sfc) (hne nofun)).mp (hnew name .sfc)
  refine (Lossy.ensures_label h₁.keyed hsfc).bind fun sfc w₂ h₂ => ?_
  have hloader : ∀ name, ¬w₂.cluster.Lost name (t.key .loader) := by
    intro name
    have h₁₂ := h₂.others name (t.key .loader) (hne nofun)
    exact mt (h₁₂.trans (h₁.others name (t.key .loader) (hne nofun))).mp (hnew name .loader)
  refine (Lossy.ensures_label h₂.keyed hloader).bind fun loader w₃ h₃ => ?_
  refine .pure ⟨_, rfl, fun name h => ?absent, fun n hn => ?stored⟩
  case absent =>
    have ⟨hnone, hnot⟩ := h₂.absent name (h₁.absent name h).left
    exact ⟨(h₃.absent name hnone).left, mt (h₃.others name (t.key .sfc) (hne nofun)).mp hnot⟩
  have ⟨n₁, hn₁, hs₁⟩ := h₁.stored n hn
  have ⟨n₂, hn₂, hs₂⟩ := h₂.stored n₁ hn₁
  have ⟨n₃, hn₃, hs₃⟩ := h₃.stored n₂ hn₂
  -- Later sweeps make other patches, so that what was lost before is as it was.
  have h₁₂ := h₂.others n.name (t.key .ready) (hne nofun)
  have h₂₃ := h₃.others n.name (t.key .ready) (hne nofun)
  exact ⟨n₁, n₂, n₃, hn₃, hs₁.congr (h₂₃.trans h₁₂),
    hs₂.congr (h₃.others n₁.name (t.key .sfc) (hne nofun)), hs₃⟩

namespace Stripping

variable {n₁ n₂ n₃ : Node}

theorem loader_eq (h : Stripping t l n n₁ n₂ n₃) : t.marker? .loader n₂ = t.marker? .loader n := by
  have h₁ : t.marker? .loader n₁ = t.marker? .loader n := h.ready.marker?_other nofun
  have h₂ : t.marker? .loader n₂ = t.marker? .loader n₁ := h.sfc.marker?_other nofun
  exact h₂.trans h₁

theorem loader_of_ready (h : Stripping t l n n₁ n₂ n₃)
    (ho : (t.marker? .ready n).isSome = true → (t.marker? .loader n).isSome = true)
    (hr : (t.marker? .ready n₃).isSome = true) : (t.marker? .loader n₃).isSome = true := by
  have hr₂ : (t.marker? .ready n₂).isSome = true := h.loader.isSome_of_isSome hr
  have hr₀ : (t.marker? .ready n).isSome = true :=
    h.ready.isSome_of_isSome (h.sfc.isSome_of_isSome hr₂)
  have hkeep : keepsModules t n₂ = true := by simp [keepsModules, hr₂]
  cases h.loader with
  | kept => exact h.loader_eq ▸ ho hr₀
  | lost hk | struck hk => simp [hkeep] at hk

-- A node that has lost its loader marker and not its SFC marker is not selected, and of its
-- patches only the one for the SFC marker was lost.
theorem losesSfc (h : Stripping t l n n₁ n₂ n₃)
    (ho : (t.marker? .sfc n).isSome = true → (t.marker? .loader n).isSome = true)
    (hs : (t.marker? .sfc n₃).isSome = true) (hl : t.marker? .loader n₃ = none) :
    t.selects n = false ∧ LosesSfc t l n.name := by
  have hs₂ : (t.marker? .sfc n₂).isSome = true := h.loader.isSome_of_isSome hs
  have hs₀ := h.ready.isSome_of_isSome (h.sfc.isSome_of_isSome hs₂)
  have hl₂ : (t.marker? .loader n₂).isSome = true := h.loader_eq ▸ ho hs₀
  obtain ⟨hkeep, hstruck⟩ : keepsModules t n₂ = false ∧ ¬l.Lost n₂.name (t.key .loader) := by
    cases h.loader with
    | kept | lost => simp [hl] at hl₂
    | struck hk hnot => exact ⟨hk, hnot⟩
  obtain ⟨hlost, he⟩ : l.Lost n₁.name (t.key .sfc) ∧ n₂ = n₁ := by
    cases h.sfc with
    | kept hkept =>
      cases hkept with
      | inl hnone => exact absurd hs₂ (by simp [Target.marker?, Target.key, hnone])
      | inr hkept => simp [hkeep] at hkept
    | lost _ _ hlost => exact ⟨hlost, rfl⟩
    | struck => simp [Target.marker?, Target.key, Node.label?_relabelled] at hs₂
  subst he
  obtain ⟨hsel, hready⟩ := keepsModules_eq_false.mp hkeep
  rw [h.ready.name_eq] at hlost hstruck
  cases h.ready with
  | kept _ hnot => exact ⟨hsel, hlost, hnot, hstruck⟩
  | lost _ hp => exact absurd hp (by simpa [Target.marker?, Target.key] using hready)
  | struck hk hnot => exact ⟨hk, hlost, hnot, hstruck⟩

theorem loader_of_losesSfc (h : Stripping t l n n₁ n₂ n₃) (hsel : t.selects n = false)
    (hlost : LosesSfc t l n.name) :
    (t.marker? .sfc n₃).isSome = true ∧ t.marker? .loader n₃ = none := by
  have hname : n₂.name = n.name := h.sfc.name_eq.trans h.ready.name_eq
  have hready : t.marker? .ready n₁ = none := by
    cases h.ready with
    | kept hkept =>
      cases hkept with
      | inl hnone => exact hnone
      | inr hkept => simp [hsel] at hkept
    | lost _ _ hl => exact absurd hl hlost.ready
    | struck => simp [Target.marker?, Target.key, Node.label?_relabelled]
  obtain ⟨hs, he⟩ : (t.marker? .sfc n₁).isSome = true ∧ n₂ = n₁ := by
    have hl := h.ready.name_eq ▸ hlost.sfc
    cases h.sfc with
    | kept _ hnot | struck _ hnot => exact absurd hl hnot
    | lost _ hp => exact ⟨hp, rfl⟩
  subst he
  have hkeep : keepsModules t n₂ = false := by
    refine keepsModules_eq_false.mpr ⟨?_, hready⟩
    rw [← Bool.not_eq_true] at hsel ⊢
    exact mt h.ready.selects hsel
  have hnot : ¬l.Lost n₂.name (t.key .loader) := hname ▸ hlost.loader
  have hsfc : t.marker? .sfc n₃ = t.marker? .sfc n₂ := h.loader.marker?_other (by decide)
  refine ⟨hsfc ▸ hs, ?_⟩
  cases h.loader with
  | kept hkept =>
    cases hkept with
    | inl hnone => exact hnone
    | inr hkept => simp [hkeep] at hkept
  | lost _ _ hl => exact absurd hl hnot
  | struck => simp [Target.marker?, Target.key, Node.label?_relabelled]

end Stripping

-- Whichever patches are lost, a node does not keep its ready marker without its loader marker, and it
-- keeps its SFC marker without it only where the removal of the SFC marker alone is lost.
theorem dropStale_keeps_order (loses : Nat → Bool) (delay : Duration) (now : Timestamp) (t : Target)
    (hk : w.cluster.cluster.Keyed) (hnew : w.cluster.lost = [])
    (ho : ∀ name, Ordered w.cluster.cluster t.id name) (name : String) :
    let l' := (exec (dropStale (.lossy loses delay now) t) w).2.cluster
    ((l'.cluster.marker? t.id .ready name).isSome = true →
      (l'.cluster.marker? t.id .loader name).isSome = true) ∧
    (((l'.cluster.marker? t.id .sfc name).isSome = true →
      (l'.cluster.marker? t.id .loader name).isSome = true) ↔
      ¬(¬w.cluster.cluster.Matches t.spec.selector name ∧ LosesSfc t l' name)) := by
  have hnew : ∀ name m, ¬w.cluster.Lost name (t.key m) := fun name m => by simp [Lossy.Lost, hnew]
  obtain ⟨_, -, habsent, hstored⟩ := ensures_dropStale_lossy loses delay now t hk hnew
  generalize (exec (dropStale (.lossy loses delay now) t) w).2.cluster = l' at habsent hstored
  have hloader : ∀ m, m ≠ .loader → (w.cluster.cluster.marker? t.id m name).isSome = true →
      (w.cluster.cluster.marker? t.id .loader name).isSome = true := by
    intro m hm hp
    obtain ⟨v, hv⟩ := Option.isSome_iff_exists.mp hp
    cases m with
    | loader => exact absurd rfl hm
    | sfc => rw [(ho name).sfc v hv, Option.isSome_some]
    | ready => rw [(ho name).ready v hv, Option.isSome_some]
  cases hn : w.cluster.cluster.nodes.get? name with
  | none =>
    obtain ⟨hnone, hnot⟩ := habsent name hn
    have hmarker : ∀ m, l'.cluster.marker? t.id m name = none :=
      fun m => by rw [Cluster.marker?, hnone]; rfl
    simp only [hmarker]
    exact ⟨by simp, iff_of_true (by simp) fun h => hnot h.right.sfc⟩
  | some n =>
    have hname := hk.nodes name n hn
    subst hname
    have hs := hk.stores hn
    obtain ⟨n₁, n₂, n₃, hs₃, hstripping⟩ := hstored n hs
    have hname : n₃.name = n.name := hstripping.loader.name_eq.trans
      (hstripping.sfc.name_eq.trans hstripping.ready.name_eq)
    have hmatches : ¬w.cluster.cluster.Matches t.spec.selector n.name ↔ t.selects n = false := by
      rw [hs.matches_iff, ← Bool.not_eq_true]
      rfl
    simp only [hs.marker?] at hloader
    simp only [← hname, hs₃.marker?]
    refine ⟨hstripping.loader_of_ready (hloader .ready (by decide)), ?_⟩
    rw [hname, hmatches]
    constructor
    case mp =>
      rintro hkept ⟨hsel, hlost⟩
      obtain ⟨hsfc, hgone⟩ := hstripping.loader_of_losesSfc hsel hlost
      have hkept := hkept hsfc
      rw [show n₃.label? (Marker.loader.key t.id) = none from hgone] at hkept
      cases hkept
    case mpr =>
      intro hnot hsfc
      refine Option.isSome_iff_ne_none.mpr fun hgone => hnot ?_
      exact hstripping.losesSfc (hloader .sfc (by decide)) hsfc hgone

-- Of two nodes that have left, one keeps its ready marker and one its SFC marker.
theorem dropStale_keeps_order_lossy :
    ∃ (w : World Lossy) (loses : Nat → Bool) (t : Target),
      let l' := (exec (dropStale (.lossy loses .zero Sample.now) t) w).2.cluster
      w.cluster.cluster.Keyed ∧ w.cluster.lost = [] ∧
      (∀ name, Ordered w.cluster.cluster t.id name) ∧
      l'.cluster.marker? t.id .ready "a" = some "1" ∧ l'.cluster.marker? t.id .sfc "b" = some "1" ∧
      (l'.cluster.marker? t.id .loader "a").isSome = true ∧
      ((l'.cluster.marker? t.id .loader "b").isSome = true ↔
        ¬(¬w.cluster.cluster.Matches t.spec.selector "b" ∧ LosesSfc t l' "b")) := by
  let w := Sample.lossyWorld [Sample.left "a", Sample.left "b"]
  let t : Target := ⟨Sample.onload "1", Sample.resource⟩
  -- The patches are: ready on a and b, SFC on a and b, and loader on b.
  let loses (k : Nat) : Bool := k = 0 || k = 3
  have hk : w.cluster.cluster.Keyed := Cluster.Keyed.empty.applyAll _
  have ho : ∀ name, Ordered w.cluster.cluster t.id name := by decide +kernel
  have ha := dropStale_keeps_order loses .zero Sample.now t hk rfl ho "a"
  have hb := dropStale_keeps_order loses .zero Sample.now t hk rfl ho "b"
  refine ⟨w, loses, t, hk, rfl, ho, by decide +kernel, by decide +kernel, ha.left (by decide +kernel), ?_⟩
  exact Iff.trans ⟨fun h _ => h, fun h => h (by decide +kernel)⟩ hb.right

-- Where the second of three patches is lost, the SFC marker stays and the loader marker goes.
theorem dropStale_leaves_sfcMarker :
    ∃ (w : World Lossy) (loses : Nat → Bool) (t : Target),
      let l' := (exec (dropStale (.lossy loses .zero Sample.now) t) w).2.cluster
      w.cluster.cluster.Keyed ∧ w.cluster.lost = [] ∧
      (∀ name, Ordered w.cluster.cluster t.id name) ∧
      (l'.cluster.marker? t.id .sfc "a").isSome = true ∧ l'.cluster.marker? t.id .loader "a" = none := by
  let w := Sample.lossyWorld [Sample.left "a"]
  refine ⟨w, fun k => k = 1, ⟨Sample.onload "1", Sample.resource⟩, ?_, rfl, ?_, ?_, ?_⟩
  · exact Cluster.Keyed.empty.applyAll _
  all_goals decide +kernel

end Marking

end KernelRollout
