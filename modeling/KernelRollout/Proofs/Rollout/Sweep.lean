import KernelRollout.Proofs.Rollout.Progress

namespace KernelRollout

open Pass

variable {delay : Duration} {now : Timestamp} {w : World Cluster}
variable {id : Identity} {rule : Node → Marker → Option String → Prop} {m : Marker}

-- What comes of the patch of a marker on a node as it is stored.
inductive Patched (id : Identity) (m : Marker) (v : Option String) (n : Node) (w : World Cluster) :
    Except OperatorError Node → World Cluster → Prop
  | refused (hf : w.cluster.refuses n.name = true) :
    Patched id m v n w (.error (.cluster (Cluster.refusal n.name))) w
  | changed (hf : w.cluster.refuses n.name = false) :
    Patched id m v n w (.ok (n.relabelled (m.key id) v (w.cluster.version + 1)))
      { w with cluster := w.cluster.relabel n (m.key id) v }

theorem ensures_patch {n : Node} (hs : w.cluster.Stores n) (v : Option String) :
    Ensures (call (.inMemory delay now) (.patchNodeLabels n (Node.change (m.key id) v))) w
      (Patched id m v n w) := by
  cases Cluster.answer_patchNodeLabels hs (m.key id) v
  case inl h =>
    have ⟨hf, he⟩ := h
    refine .call he (fun _ h => nomatch h) fun e he => ?_
    cases he
    exact .refused hf
  case inr h =>
    have ⟨hf, he⟩ := h
    refine .call he (fun a ha => ?_) (fun _ h => nomatch h)
    cases ha
    exact .changed hf

namespace Sweep

-- Where a sweep over a list of nodes ends. Each node has lost the marker, or it is as it was before
-- and is not in the list, or refuses patches.
def Swept (id : Identity) (m : Marker) (ns : List Node) (c c' : Cluster) : Prop :=
  ∀ n', c'.Stores n' →
    (∃ n ∈ ns, ∃ k, n' = n.relabelled (m.key id) none k) ∨
    (c.Stores n' ∧ (n' ∈ ns → c.refuses n'.name = true))

namespace Swept

variable {n : Node} {ns : List Node} {c c' : Cluster}

theorem nil : Swept id m [] c c :=
  fun _ hn' => .inr ⟨hn', by simp⟩

theorem cons_refused (hf : c.refuses n.name = true) (h : Swept id m ns c c') :
    Swept id m (n :: ns) c c' := by
  intro n' hn'
  cases h n' hn'
  case inl h =>
    have ⟨x, hx, k, he⟩ := h
    exact .inl ⟨x, by simp [hx], k, he⟩
  case inr h =>
    have ⟨hs, hr⟩ := h
    refine .inr ⟨hs, fun hm => ?_⟩
    cases List.mem_cons.mp hm
    case inl h => exact h ▸ hf
    case inr h => exact hr h

theorem cons_relabelled (h : Swept id m ns (c.relabel n (m.key id) none) c') :
    Swept id m (n :: ns) c c' := by
  intro n' hn'
  cases h n' hn'
  case inl h =>
    have ⟨x, hx, k, he⟩ := h
    exact .inl ⟨x, by simp [hx], k, he⟩
  case inr h =>
    have ⟨hs, hr⟩ := h
    cases hs.of_relabel
    case inl he => exact .inl ⟨n, by simp, _, he⟩
    case inr h =>
      have ⟨hname, hs⟩ := h
      refine .inr ⟨hs, fun hm => ?_⟩
      cases List.mem_cons.mp hm
      case inl h => exact absurd (h ▸ rfl) hname
      case inr h => exact hr h

end Swept

theorem ensures_nodes {ns : List Node} (hs : ∀ n ∈ ns, w.cluster.Stores n)
    (hd : ns.Pairwise (·.name ≠ ·.name))
    (hr : ∀ n ∈ ns, w.cluster.refuses n.name = false → rule n m none) :
    Succeeds (nodes (.inMemory delay now) (m.key id) ns) w fun changed w' =>
      Relabelling id rule w.cluster w'.cluster ∧ Swept id m ns w.cluster w'.cluster ∧
      Changes w changed w' := by
  induction ns generalizing w with
  | nil => exact ⟨false, rfl, .refl, .nil, .refl⟩
  | cons n ns hi =>
    have ⟨hne, hd⟩ := List.pairwise_cons.mp hd
    have hn := hs n (by simp)
    have hs : ∀ x ∈ ns, w.cluster.Stores x := fun x hx => hs x (by simp [hx])
    have hr' : ∀ x ∈ ns, w.cluster.refuses x.name = false → rule x m none :=
      fun x hx => hr x (by simp [hx])
    cases Cluster.answer_patchNodeLabels hn (m.key id) none
    case inl h =>
      have ⟨hf, he⟩ := h
      refine .attempt_bind he ((hi hs hd hr').bind fun rest w' ⟨hrel, hsw, hc⟩ => ?_)
      exact ⟨rest, rfl, hrel, hsw.cons_refused hf, hc⟩
    case inr h =>
      have ⟨hf, he⟩ := h
      have hs : ∀ x ∈ ns, (w.cluster.relabel n (m.key id) none).Stores x :=
        fun x hx => (hs x hx).relabel_other (hne x hx).symm
      have hi := hi (w := { w with cluster := w.cluster.relabel n (m.key id) none }) hs hd hr'
      have hc : Changes w true { w with cluster := w.cluster.relabel n (m.key id) none } :=
        ⟨nofun, by simp⟩
      refine .attempt_bind he (hi.bind fun rest w' ⟨hrel, hsw, hrest⟩ => ?_)
      exact ⟨true, rfl, .step hn (hr n (by simp) hf) hrel, hsw.cons_relabelled, hc.trans hrest⟩

-- Where the sweep of a marker ends. Each node has lost it, refuses patches, or keeps it.
def Cleared (id : Identity) (m : Marker) (keep : Node → Bool) (c c' : Cluster) : Prop :=
  ∀ n', c'.Stores n' →
    (∃ n k, c.Stores n ∧ n' = n.relabelled (m.key id) none k) ∨
    (c.Stores n' ∧ (c.refuses n'.name = true ∨ n'.label? (m.key id) = none ∨ keep n' = true))

namespace Cleared

variable {n : Node} {keep : Node → Bool} {c c' : Cluster}

theorem lost (h : Cleared id m keep c c') (hn : c'.Stores n) (hf : c.refuses n.name = false)
    (hk : keep n = false) : n.label? (m.key id) = none := by
  cases h n hn
  case inl h =>
    have ⟨x, k, _, he⟩ := h
    rw [he, Node.label?_relabelled, if_pos rfl]
  case inr h => simpa [hf, hk] using h.right

-- A marker that the nodes did not have before, they do not get by the sweep of another one.
theorem lost_other {m' : Marker} (h : Cleared id m keep c c') (hm : m' ≠ m)
    (hb : ∀ x, c.Stores x → c.refuses x.name = false → x.label? (m'.key id) = none)
    (hn : c'.Stores n) (hf : c.refuses n.name = false) : n.label? (m'.key id) = none := by
  cases h n hn
  case inl h =>
    have ⟨x, k, hx, he⟩ := h
    subst he
    rw [Node.label?_relabelled, if_neg (mt Marker.key_inj.mp hm)]
    exact hb x hx hf
  case inr h => exact hb n h.left hf

end Cleared

theorem selects_hasKey {n : Node} {key : String} :
    (LabelQuery.hasKey key).selects n.metadata.labels = (n.label? key).isSome := by
  simp [LabelQuery.hasKey, LabelQuery.selects, LabelRequirement.holds, Dict.contains, Node.label?_eq]

theorem Swept.cleared {keep : Node → Bool} {c c' : Cluster} (hk : c.Keyed)
    (h : Swept id m ((c.listNodes (.hasKey (m.key id))).filter (!keep ·)) c c') :
    Cleared id m keep c c' := by
  intro n' hn'
  cases h n' hn'
  case inl h =>
    have ⟨n, hn, k, he⟩ := h
    have ⟨hm, _⟩ := List.mem_filter.mp hn
    exact .inl ⟨n, k, ((Cluster.mem_listNodes hk).mp hm).left, he⟩
  case inr h =>
    have ⟨hs, hr⟩ := h
    refine .inr ⟨hs, ?_⟩
    simp only [List.mem_filter, Cluster.mem_listNodes hk, selects_hasKey] at hr
    by_cases hl : n'.label? (m.key id) = none
    case pos => exact .inr (.inl hl)
    case neg =>
      cases hkeep : keep n' with
      | true => exact .inr (.inr rfl)
      | false => exact .inl (hr ⟨⟨hs, Option.isSome_iff_ne_none.mpr hl⟩, by simp [hkeep]⟩)

theorem ensures_label (rule : Node → Marker → Option String → Prop) {keep : Node → Bool}
    (hk : w.cluster.Keyed)
    (hr : ∀ n, w.cluster.Stores n → keep n = false → (n.label? (m.key id)).isSome = true →
      w.cluster.refuses n.name = false → rule n m none) :
    Succeeds (label (.inMemory delay now) (m.key id) keep) w fun changed w' =>
      Relabelling id rule w.cluster w'.cluster ∧ Cleared id m keep w.cluster w'.cluster ∧
      Changes w changed w' := by
  refine .read rfl ?_
  have hstored : ∀ n ∈ (w.cluster.listNodes (.hasKey (m.key id))).filter (!keep ·),
      w.cluster.Stores n ∧ keep n = false ∧ (n.label? (m.key id)).isSome = true := by
    intro n hn
    have ⟨hm, hkeep⟩ := List.mem_filter.mp hn
    have ⟨hs, hp⟩ := (Cluster.mem_listNodes hk).mp hm
    exact ⟨hs, by simpa using hkeep, selects_hasKey ▸ hp⟩
  have hnames : ((w.cluster.listNodes (.hasKey (m.key id))).filter (!keep ·)).Pairwise
      (·.name ≠ ·.name) :=
    ((Cluster.listNodes_pairwise hk).filter _).imp String.ne_of_lt
  refine (ensures_nodes (fun n hn => (hstored n hn).left) hnames fun n hn =>
    hr n (hstored n hn).left (hstored n hn).right.left (hstored n hn).right.right).mono ?_
  exact fun changed w' ⟨hrel, hsw, hw⟩ => ⟨hrel, hsw.cleared hk, hw⟩

-- The nodes that take patches have no markers of the resource.
def Bare (id : Identity) (c : Cluster) : Prop :=
  ∀ n, c.Stores n → c.refuses n.name = false → ∀ m : Marker, n.label? (m.key id) = none

-- Nodes that take patches lose all markers, the ready and the SFC marker before the loader marker.
structure Takes (id : Identity) (c : Cluster) (n : Node) (m : Marker) (v : Option String) : Prop where
  clears : Clears id n m v
  taken  : c.refuses n.name = false

theorem Clears.eq_none {n : Node} {v : Option String} (h : Clears id n m v) : v = none := by
  cases h <;> rfl

theorem ensures_allMarkers (hk : w.cluster.Keyed) :
    Succeeds (allMarkers (.inMemory delay now) id) w fun _ w' =>
      Relabelling id (Takes id w.cluster) w.cluster w'.cluster ∧ Bare id w'.cluster := by
  refine (ensures_label (Takes id w.cluster) hk fun _ _ _ _ hf => ⟨.ready, hf⟩).bind ?_
  intro _ w₁ ⟨hrel₁, hready, _⟩
  have hk₁ := hrel₁.keyed hk
  refine (ensures_label (Takes id w.cluster) hk₁ fun _ _ _ _ hf => ⟨.sfc, hrel₁.refuses ▸ hf⟩).bind ?_
  intro _ w₂ ⟨hrel₂, hsfc, _⟩
  have hrel := hrel₁.trans hrel₂
  have hk₂ := hrel₂.keyed hk₁
  have hready₂ : ∀ n, w₂.cluster.Stores n → w₂.cluster.refuses n.name = false →
      n.label? (Marker.ready.key id) = none := fun n hn hf =>
    hsfc.lost_other (by decide) (fun x hx hf => hready.lost hx (hrel₁.refuses ▸ hf) rfl) hn
      (hrel₂.refuses ▸ hf)
  have hsfc₂ : ∀ n, w₂.cluster.Stores n → w₂.cluster.refuses n.name = false →
      n.label? (Marker.sfc.key id) = none := fun n hn hf => hsfc.lost hn (hrel₂.refuses ▸ hf) rfl
  refine (ensures_label (Takes id w.cluster) hk₂ fun n hn _ _ hf =>
    ⟨.loader (hready₂ n hn hf) (hsfc₂ n hn hf), hrel.refuses ▸ hf⟩).bind ?_
  intro _ w₃ ⟨hrel₃, hloader, _⟩
  refine .pure ⟨(), rfl, hrel.trans hrel₃, fun n hn hf m => ?_⟩
  rw [hrel₃.refuses] at hf
  cases m with
  | loader => exact hloader.lost hn hf rfl
  | sfc => exact hloader.lost_other (by decide) hsfc₂ hn hf
  | ready => exact hloader.lost_other (by decide) hready₂ hn hf

end Sweep

end KernelRollout
