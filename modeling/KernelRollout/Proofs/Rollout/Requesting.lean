import KernelRollout.Proofs.Cluster.Pods
import KernelRollout.Proofs.Cluster.Territory
import KernelRollout.Proofs.Rollout.Settled

namespace KernelRollout

open Pass

variable {delay : Duration} {now : Timestamp} {w : World Cluster} {t : Target} {n : Node}
variable {c c₁ c' : Cluster} {name : String} {kind : ModuleKind} {m : Marker}

theorem ModuleKind.marker_inj {kind kind' : ModuleKind} : kind.marker = kind'.marker ↔ kind = kind' := by
  cases kind <;> cases kind' <;> decide

-- A request for a module on a node.
structure Ask where
  node : String
  kind : ModuleKind

-- What may be in the way of a request.
inductive Hindrance where
  | loaderPod
  | refusal

-- The answer of a pass that stops there.
def Hindrance.answer {α : Type} (waiting : α) (node : String) : Hindrance → Except OperatorError α
  | loaderPod => .ok waiting
  | refusal   => .error (.cluster (Cluster.refusal node))

theorem Hindrance.answer_ne {α : Type} {node : String} {a : α} (h : Hindrance) :
    h.answer none node ≠ .ok (some a) := by
  cases h <;> simp [answer]

namespace Ask

variable {q q₁ q₂ : Ask} {h h₁ h₂ : Hindrance}

-- Requests come by node names, and on a node the one for the Onload module comes first.
inductive Before (q₁ q₂ : Ask) : Prop
  | node (h : q₁.node < q₂.node)
  | kind (hn : q₁.node = q₂.node) (h₁ : q₁.kind = .onload) (h₂ : q₂.kind = .sfc)

-- The node lacks the marker. The SFC module comes on top of a current Onload module, or of one that
-- is asked for just before.
def Lacking (t : Target) (c : Cluster) (q : Ask) : Prop :=
  match q.kind with
  | .onload => c.marker? t.id .loader q.node = none
  | .sfc    => t.sfcWanted = true ∧ c.marker? t.id .sfc q.node = none ∧
    ∀ v, c.marker? t.id .loader q.node = some v → v = t.version

def Needed (t : Target) (c : Cluster) (q : Ask) : Prop :=
  c.Matches t.spec.selector q.node ∧ q.Lacking t c

-- A pod that loads or unloads the module is on the node.
def Occupied (t : Target) (c : Cluster) (q : Ask) : Prop :=
  ∃ j p, c.pods.get? j = some p ∧ p.nodeName? = some q.node ∧ j.ns = t.id.ns ∧
    p.metadata.label? loaderPodLabel = some (q.kind.resourceName t.id.name)

-- Pods are looked for before the node is patched.
inductive Hindered (t : Target) (c : Cluster) (q : Ask) : Hindrance → Prop
  | loaderPod (hp : q.Occupied t c) : Hindered t c q .loaderPod
  | refusal (hp : ¬q.Occupied t c) (hf : c.refuses q.node = true) : Hindered t c q .refusal

-- Of some requests this is the first one with something in the way.
structure Stops (t : Target) (c : Cluster) (asks : Ask → Prop) (q : Ask) (h : Hindrance) : Prop where
  asked    : asks q
  hindered : q.Hindered t c h
  first    : ∀ q₁, asks q₁ → q₁.Before q → ∀ h₁, ¬q₁.Hindered t c h₁

-- A patch writes the marker.
def WrittenBy (t : Target) (a : Action) (q : Ask) : Prop :=
  ∃ changes v, a = .patchNode q.node changes ∧ changes.get? (t.key q.kind.marker) = some (some v)

theorem writtenBy_change {v : Option String}
    (h : q.WrittenBy t (.patchNode name (Node.change (m.key t.id) v))) :
    q.node = name ∧ q.kind.marker = m ∧ ∃ v', v = some v' := by
  obtain ⟨_, v', ha, hv⟩ := h
  injection ha with hname hchanges
  rw [← hchanges, Node.change, Dict.get?_insert] at hv
  split at hv
  case isTrue hkey => exact ⟨hname.symm, Marker.key_inj.mp hkey, v', Option.some.inj hv⟩
  case isFalse => cases hv

theorem Before.asymm (h : q₁.Before q₂) : ¬q₂.Before q₁ := by
  intro h'
  cases h with
  | node h =>
    cases h' with
    | node h' => exact String.lt_asymm h h'
    | kind hn => exact String.lt_irrefl _ (hn ▸ h)
  | kind hn h₁ h₂ =>
    cases h' with
    | node h' => exact String.lt_irrefl _ (hn ▸ h')
    | kind _ h₂' => exact nomatch h₂.symm.trans h₂'

theorem Before.connected (h₁ : ¬q₁.Before q₂) (h₂ : ¬q₂.Before q₁) : q₁ = q₂ := by
  obtain ⟨node₁, kind₁⟩ := q₁
  obtain ⟨node₂, kind₂⟩ := q₂
  have hnode : node₁ = node₂ := OrderedKey.connected (fun h => h₁ (.node h)) fun h => h₂ (.node h)
  subst hnode
  cases kind₁ <;> cases kind₂
  case onload.onload | sfc.sfc => rfl
  case onload.sfc => exact absurd (.kind rfl rfl rfl) h₁
  case sfc.onload => exact absurd (.kind rfl rfl rfl) h₂

theorem node_eq_iff : q.node = name ↔ q = ⟨name, .onload⟩ ∨ q = ⟨name, .sfc⟩ := by
  obtain ⟨node, kind⟩ := q
  cases kind <;> simp

theorem Hindered.unique (h₁' : q.Hindered t c h₁) (h₂' : q.Hindered t c h₂) : h₁ = h₂ := by
  cases h₁' with
  | loaderPod hp =>
    cases h₂' with
    | loaderPod => rfl
    | refusal hp' => exact absurd hp hp'
  | refusal hp =>
    cases h₂' with
    | loaderPod hp' => exact absurd hp' hp
    | refusal => rfl

theorem Stops.unique {asks : Ask → Prop} (hs₁ : Stops t c asks q₁ h₁) (hs₂ : Stops t c asks q₂ h₂) :
    q₁ = q₂ ∧ h₁ = h₂ := by
  have hq : q₁ = q₂ := Before.connected
    (fun hb => hs₂.first _ hs₁.asked hb _ hs₁.hindered) (fun hb => hs₁.first _ hs₂.asked hb _ hs₂.hindered)
  subst hq
  exact ⟨rfl, hs₁.hindered.unique hs₂.hindered⟩

theorem occupied_iff :
    Occupied t c ⟨name, kind⟩ ↔ c.listPods (Marking.loaderPods t kind name) ≠ [] := by
  simp only [ne_eq, List.eq_nil_iff_forall_not_mem, Marking.loaderPods, Cluster.mem_listPods_labelled,
    not_forall, not_not]
  exact exists_comm

theorem Hindered.of_waiting (hp : c.listPods (Marking.loaderPods t kind name) ≠ []) :
    Hindered t c ⟨name, kind⟩ .loaderPod :=
  .loaderPod (occupied_iff.mpr hp)

theorem Hindered.of_refused (hp : c.listPods (Marking.loaderPods t kind name) = [])
    (hf : c.refuses name = true) : Hindered t c ⟨name, kind⟩ .refusal :=
  .refusal (fun ho => occupied_iff.mp ho hp) hf

theorem free (hp : c.listPods (Marking.loaderPods t kind name) = []) (hf : c.refuses name = false) :
    ∀ h, ¬Hindered t c ⟨name, kind⟩ h := by
  intro h hh
  cases hh with
  | loaderPod ho => exact occupied_iff.mp ho hp
  | refusal _ hf' => exact absurd hf' (by simp [hf])

theorem lacking_congr (hq : q.node = name) (h : ∀ m, c'.marker? t.id m name = c.marker? t.id m name) :
    q.Lacking t c' ↔ q.Lacking t c := by
  subst hq
  rw [Lacking, Lacking, h, h]

end Ask

-- The requests have been granted, and nothing else is done.
structure Granted (t : Target) (given : Ask → Prop) (c c' : Cluster) : Prop where
  markers   : ∀ q, given q → c'.marker? t.id q.kind.marker q.node = some t.version
  labels    : c.nodes.Pointwise (fun name => Node.Remarked fun key =>
    ∃ kind, given ⟨name, kind⟩ ∧ key = t.key kind.marker) c'.nodes
  untouched : ∀ name, (∀ kind, ¬given ⟨name, kind⟩) → c'.nodes.get? name = c.nodes.get? name
  others    : c' = { c with nodes := c'.nodes, actions := c'.actions, version := c'.version }
  log       : ∃ as, c'.actions = c.actions ++ as ∧ ∀ a, a ∈ as ↔
    ∃ q, given q ∧ a = .patchNode q.node (Node.change (t.key q.kind.marker) (some t.version))

namespace Granted

variable {given given₁ given₂ : Ask → Prop} {q : Ask} {h : Hindrance}

theorem refl (hg : ∀ q, ¬given q) : Granted t given c c where
  markers q hq := absurd hq (hg q)
  labels := .refl fun _ _ => .refl
  untouched _ _ := rfl
  others := rfl
  log := ⟨[], by simp, by simp [hg]⟩

theorem single (hs : c.Stores n) (kind : ModuleKind) :
    Granted t (· = ⟨n.name, kind⟩) c (c.relabel n (t.key kind.marker) (some t.version)) where
  markers := by
    rintro _ rfl
    exact (Cluster.marker?_relabel hs ..).trans (if_pos ⟨rfl, rfl⟩)
  labels := .insert_right (.refl fun _ _ => .refl) hs (.relabelled ⟨kind, rfl, rfl⟩ _)
  untouched name hn := by
    rw [Cluster.nodes_relabel, if_neg]
    rintro rfl
    exact hn kind rfl
  others := rfl
  log := ⟨_, Cluster.actions_relabel, by simp⟩

theorem congr (h : Granted t given c c') (hg : ∀ q, given q ↔ given₁ q) : Granted t given₁ c c' := by
  have hgiven : given = given₁ := funext fun q => propext (hg q)
  exact hgiven ▸ h

-- Markers that were not asked for.
theorem marker?_eq (h : Granted t given c c') (hm : ∀ kind, given ⟨name, kind⟩ → kind.marker ≠ m) :
    c'.marker? t.id m name = c.marker? t.id m name := by
  have hname := h.labels name
  rw [Cluster.marker?, Cluster.marker?]
  generalize c.nodes.get? name = x, c'.nodes.get? name = x' at hname
  cases hname with
  | none => rfl
  | some hn =>
    refine hn.labels _ ?_
    rintro ⟨kind, hgiven, hkey⟩
    exact hm kind hgiven (Marker.key_inj.mp hkey).symm

theorem marker?_untouched (h : Granted t given c c') (hn : ∀ kind, ¬given ⟨name, kind⟩) (m : Marker) :
    c'.marker? t.id m name = c.marker? t.id m name := by
  rw [Cluster.marker?, h.untouched name hn]
  rfl

theorem trans (h₁ : Granted t given₁ c c₁) (h₂ : Granted t given₂ c₁ c') :
    Granted t (fun q => given₁ q ∨ given₂ q) c c' where
  markers q hq := by
    by_cases hq₂ : given₂ q
    case pos => exact h₂.markers q hq₂
    case neg =>
      rw [h₂.marker?_eq]
      · exact h₁.markers q (hq.resolve_right hq₂)
      · intro kind hkind he
        have hkind' := ModuleKind.marker_inj.mp he
        subst hkind'
        exact hq₂ hkind
  labels := h₁.labels.trans h₂.labels fun _ _ _ _ h h' =>
    (h.mono fun _ ⟨kind, hk, he⟩ => ⟨kind, .inl hk, he⟩).trans
      (h'.mono fun _ ⟨kind, hk, he⟩ => ⟨kind, .inr hk, he⟩)
  untouched name hn := by
    rw [h₂.untouched name fun kind hk => hn kind (.inr hk),
      h₁.untouched name fun kind hk => hn kind (.inl hk)]
  others := by
    rw [h₂.others, h₁.others]
  log := by
    obtain ⟨as₁, has₁, hin₁⟩ := h₁.log
    obtain ⟨as₂, has₂, hin₂⟩ := h₂.log
    refine ⟨as₁ ++ as₂, by rw [has₂, has₁, List.append_assoc], fun a => ?_⟩
    rw [List.mem_append, hin₁, hin₂, ← exists_or]
    exact exists_congr fun q => or_and_right.symm

theorem log_unoccupied (hg : Granted t given c c') (hfree : ∀ q, given q → ¬q.Occupied t c) :
    ∃ as, c'.actions = c.actions ++ as ∧ ∀ q a, a ∈ as → Ask.WrittenBy t a q → ¬q.Occupied t c := by
  obtain ⟨as, has, hin⟩ := hg.log
  refine ⟨as, has, fun q a ha hwritten => ?_⟩
  obtain ⟨q₁, hq₁, rfl⟩ := (hin a).mp ha
  obtain ⟨hnode, hmarker, _⟩ := Ask.writtenBy_change hwritten
  have hq : q = q₁ := by
    cases q
    cases q₁
    cases hnode
    cases ModuleKind.marker_inj.mp hmarker
    rfl
  exact hq ▸ hfree q₁ hq₁

-- What is in the way of requests stays there.
theorem hindered_iff (hg : Granted t given c c') : q.Hindered t c' h ↔ q.Hindered t c h := by
  have hoccupied : q.Occupied t c' ↔ q.Occupied t c := by
    rw [hg.others]
    rfl
  have hrefuses : c'.refuses q.node = c.refuses q.node := by
    rw [hg.others]
    rfl
  constructor
  all_goals
    intro hh
    cases hh with
    | loaderPod hp => exact .loaderPod (by simpa only [hoccupied] using hp)
    | refusal hp hf => exact .refusal (by simpa only [hoccupied] using hp) (by simpa only [hrefuses] using hf)

end Granted

-- All requests have been granted, and whoever made them knows whether there were any.
structure Passed (t : Target) (asks : Ask → Prop) (c : Cluster) (changed : Bool) (c' : Cluster) : Prop where
  free    : ∀ q, asks q → ∀ h, ¬q.Hindered t c h
  granted : Granted t asks c c'
  changes : changed = true ↔ ∃ q, asks q

-- Where some requests end. The first one with something in the way and those after it are not granted.
inductive Answered (t : Target) (asks : Ask → Prop) (c : Cluster) :
    Except OperatorError (Option Bool) → Cluster → Prop
  | stopped {q h c'} (hs : q.Stops t c asks h) (hg : Granted t (fun q₁ => asks q₁ ∧ q₁.Before q) c c') :
    Answered t asks c (h.answer none q.node) c'
  | passed {changed c'} (h : Passed t asks c changed c') : Answered t asks c (.ok (some changed)) c'

theorem Passed.single (hs : c.Stores n) (hn : ∀ h, ¬Ask.Hindered t c ⟨n.name, kind⟩ h) :
    Passed t (· = ⟨n.name, kind⟩) c true (c.relabel n (t.key kind.marker) (some t.version)) :=
  ⟨fun _ hq => hq ▸ hn, .single hs kind, by simp⟩

namespace Answered

variable {asks asks₁ asks₂ : Ask → Prop} {r : Except OperatorError (Option Bool)} {q : Ask}
variable {h : Hindrance} {changed : Bool}

theorem congr (h : Answered t asks c r c') (ha : ∀ q, asks q ↔ asks₁ q) : Answered t asks₁ c r c' := by
  have hasks : asks = asks₁ := funext fun q => propext (ha q)
  exact hasks ▸ h

theorem unneeded (ha : ∀ q, ¬asks q) : Answered t asks c (.ok (some false)) c :=
  .passed ⟨fun q hq => absurd hq (ha q), .refl ha, by simp [ha]⟩

theorem passed_of_ok (h : Answered t asks c r c') (hr : r = .ok (some changed)) :
    Passed t asks c changed c' := by
  cases h with
  | stopped => exact absurd hr (Hindrance.answer_ne _)
  | passed h =>
    cases hr
    exact h

theorem stopped_or_passed (h : Answered t asks c r c') :
    (∃ q h, q.Stops t c asks h ∧ r = h.answer none q.node ∧
      Granted t (fun q₁ => asks q₁ ∧ q₁.Before q) c c') ∨
    ∃ changed, r = .ok (some changed) ∧ Passed t asks c changed c' := by
  cases h with
  | stopped hs hg => exact .inl ⟨_, _, hs, rfl, hg⟩
  | passed h => exact .inr ⟨_, rfl, h⟩

-- Requests that come after one with something in the way are not made.
theorem or_later (h : Answered t asks₁ c r c') (hr : ∀ changed, r ≠ .ok (some changed))
    (hlater : ∀ q₁ q₂, asks₁ q₁ → asks₂ q₂ → q₁.Before q₂) :
    Answered t (fun q => asks₁ q ∨ asks₂ q) c r c' := by
  cases h with
  | passed => exact absurd rfl (hr _)
  | @stopped q _ _ hs hg =>
    have hnone : ∀ q₂, asks₂ q₂ → ¬q₂.Before q := fun q₂ h₂ => (hlater q q₂ hs.asked h₂).asymm
    refine .stopped ⟨.inl hs.asked, hs.hindered, ?_⟩ (hg.congr fun q₁ => ?_)
    case refine_1 =>
      intro q₁ hq₁ hb
      exact hs.first q₁ (hq₁.resolve_right fun h₂ => hnone q₁ h₂ hb) hb
    case refine_2 =>
      refine and_congr_left fun hb => ?_
      rw [or_iff_left fun h₂ => hnone q₁ h₂ hb]

-- Requests that go on after others have been granted.
theorem after (h₁ : Passed t asks₁ c changed c₁) (h₂ : Answered t asks₂ c₁ r c')
    (hlater : ∀ q₁ q₂, asks₁ q₁ → asks₂ q₂ → q₁.Before q₂) :
    Answered t (fun q => asks₁ q ∨ asks₂ q) c (r.map (·.map (changed || ·))) c' := by
  cases h₂ with
  | @stopped q h _ hs hg =>
    have hanswer : (h.answer none q.node).map (·.map (changed || ·)) = h.answer none q.node := by
      cases h <;> rfl
    rw [hanswer]
    refine .stopped ⟨.inr hs.asked, h₁.granted.hindered_iff.mp hs.hindered, ?_⟩
      ((h₁.granted.trans hg).congr fun q₁ => ?_)
    case refine_1 =>
      rintro q₁ (hq | hq) hb h'
      · exact h₁.free q₁ hq h'
      · exact mt h₁.granted.hindered_iff.mpr (hs.first q₁ hq hb h')
    case refine_2 =>
      rw [or_and_right, and_iff_left_of_imp fun hq => hlater q₁ q hq hs.asked]
  | passed h₂ =>
    refine .passed ⟨?_, h₁.granted.trans h₂.granted, ?_⟩
    · rintro q (hq | hq) h'
      · exact h₁.free q hq h'
      · exact mt h₁.granted.hindered_iff.mpr (h₂.free q hq h')
    · rw [Bool.or_eq_true, h₁.changes, h₂.changes, ← exists_or]

-- One request.
theorem alone (hh : q.Hindered t c h) : Answered t (· = q) c (h.answer none q.node) c := by
  have hfirst : ∀ q₁, q₁ = q → ¬q₁.Before q := by
    rintro _ rfl hb
    exact hb.asymm hb
  exact .stopped ⟨rfl, hh, fun q₁ h₁ hb => absurd hb (hfirst q₁ h₁)⟩
    (.refl fun q₁ h₁ => hfirst q₁ h₁.left h₁.right)

end Answered

namespace Marking

theorem lacking_sfc (hs : c.Stores n) (hl : (t.marker? .loader n).isSome = true) :
    Ask.Lacking t c ⟨n.name, .sfc⟩ ↔ needsSfc t n = true := by
  obtain ⟨v, hv⟩ := Option.isSome_iff_exists.mp hl
  have hloader : c.marker? t.id .loader n.name = some v := (hs.marker? ..).trans hv
  have hsfc : c.marker? t.id .sfc n.name = t.marker? .sfc n := hs.marker? ..
  simp [Ask.Lacking, needsSfc, hloader, hsfc, hv, and_assoc]

-- The node lacks the SFC module after the Onload module was asked for, if it did before.
theorem lacking_after_loader (hs : c.Stores n) (hl : c.marker? t.id .loader n.name = none) :
    Ask.Lacking t (c.relabel n (t.key .loader) (some t.version)) ⟨n.name, .sfc⟩ ↔
      Ask.Lacking t c ⟨n.name, .sfc⟩ := by
  simp [Ask.Lacking, Target.key, Cluster.marker?_relabel hs, hl]

theorem answered_requestSfc (hs : w.cluster.Stores n) (hl : (t.marker? .loader n).isSome = true) :
    Ensures (requestSfc (.inMemory delay now) t n) w fun r w' =>
      Answered t (fun q => q = ⟨n.name, .sfc⟩ ∧ q.Lacking t w.cluster) w.cluster r w'.cluster := by
  have hlacking := lacking_sfc hs hl
  rw [requestSfc]
  split
  case isFalse hneeds =>
    refine .pure (.unneeded ?_)
    rintro _ ⟨rfl, hq⟩
    exact hneeds (hlacking.mp hq)
  case isTrue hneeds =>
    have hasks : ∀ q : Ask, q = ⟨n.name, .sfc⟩ ↔ q = ⟨n.name, .sfc⟩ ∧ q.Lacking t w.cluster := by
      refine fun q => (and_iff_left_of_imp ?_).symm
      rintro rfl
      exact hlacking.mpr hneeds
    refine (ensures_request hs .sfc).bind ?ok ?error
    case ok =>
      intro _ _ h
      cases h with
      | waiting hp => exact .pure ((Answered.alone (.of_waiting hp)).congr hasks)
      | marked hp hf => exact .pure ((Answered.passed (.single hs (Ask.free hp hf))).congr hasks)
    case error =>
      intro _ _ h
      cases h with
      | refused hp hf => exact (Answered.alone (.of_refused hp hf)).congr hasks

theorem answered_requestModules (hs : w.cluster.Stores n) :
    Ensures (requestModules (.inMemory delay now) t n) w fun r w' =>
      Answered t (fun q => q.node = n.name ∧ q.Lacking t w.cluster) w.cluster r w'.cluster := by
  have hloader : w.cluster.marker? t.id .loader n.name = t.marker? .loader n := hs.marker? ..
  rw [requestModules]
  split
  case isTrue hl =>
    refine (answered_requestSfc hs hl).mono fun _ _ h => h.congr fun q => ?_
    rw [Ask.node_eq_iff, or_and_right, or_iff_right]
    rintro ⟨rfl, hlacking⟩
    rw [Option.isSome_iff_ne_none, ← hloader] at hl
    exact hl hlacking
  case isFalse hl =>
    have hnone : w.cluster.marker? t.id .loader n.name = none := hloader.trans (by simpa using hl)
    have hsplit : ∀ q : Ask, (q = ⟨n.name, .onload⟩ ∨ q = ⟨n.name, .sfc⟩ ∧ q.Lacking t w.cluster) ↔
        q.node = n.name ∧ q.Lacking t w.cluster := by
      intro q
      rw [Ask.node_eq_iff, or_and_right]
      refine or_congr_left (and_iff_left_of_imp ?_).symm
      rintro rfl
      exact hnone
    have hlater : ∀ q₁ q₂ : Ask, q₁ = ⟨n.name, .onload⟩ → q₂ = ⟨n.name, .sfc⟩ ∧ q₂.Lacking t w.cluster →
        q₁.Before q₂ := by
      rintro _ _ rfl ⟨rfl, _⟩
      exact .kind rfl rfl rfl
    refine (ensures_request hs .onload).bind ?ok ?error
    case error =>
      intro _ _ h
      cases h with
      | refused hp hf =>
        refine ((Answered.alone (.of_refused hp hf)).or_later ?_ hlater).congr hsplit
        exact fun _ => Hindrance.answer_ne _
    case ok =>
      intro _ _ h
      cases h with
      | waiting hp =>
        refine .pure (((Answered.alone (.of_waiting hp)).or_later ?_ hlater).congr hsplit)
        exact fun _ => Hindrance.answer_ne _
      | marked hp hf =>
        -- The second request is for the node as the first patch answered it.
        have hpassed : Passed t _ w.cluster true _ := .single hs (Ask.free hp hf)
        have hlacking : ∀ q : Ask,
            q = ⟨n.name, .sfc⟩ ∧ q.Lacking t (w.cluster.relabel n (t.key .loader) (some t.version)) ↔
              q = ⟨n.name, .sfc⟩ ∧ q.Lacking t w.cluster := by
          refine fun q => and_congr_right ?_
          rintro rfl
          exact lacking_after_loader hs hnone
        refine Ensures.bind (answered_requestSfc (t := t) Cluster.stores_relabelled ?_) ?_ ?_
        · simp [Target.marker?, Node.label?_relabelled, ModuleKind.marker]
        · exact fun r w' h => .pure ((Answered.after hpassed (h.congr hlacking) hlater).congr hsplit)
        · exact fun e w' h => (Answered.after hpassed (h.congr hlacking) hlater).congr hsplit

theorem answered_requestOnNodes {ns : List Node} (hs : ∀ n ∈ ns, w.cluster.Stores n)
    (hd : ns.Pairwise (·.name < ·.name)) :
    Ensures (requestOnNodes (.inMemory delay now) t ns) w fun r w' =>
      Answered t (fun q => (∃ n ∈ ns, q.node = n.name) ∧ q.Lacking t w.cluster) w.cluster r w'.cluster := by
  induction ns generalizing w with
  | nil => exact .unneeded (by simp)
  | cons n ns hi =>
    have ⟨hlt, hd⟩ := List.pairwise_cons.mp hd
    have hn := hs n (by simp)
    have hsplit : ∀ q : Ask, ((q.node = n.name ∧ q.Lacking t w.cluster) ∨
        ((∃ n ∈ ns, q.node = n.name) ∧ q.Lacking t w.cluster)) ↔
        (∃ x ∈ n :: ns, q.node = x.name) ∧ q.Lacking t w.cluster := by
      intro q
      rw [← or_and_right]
      simp only [List.mem_cons, exists_eq_or_imp]
    have hlater : ∀ q₁ q₂ : Ask, q₁.node = n.name ∧ q₁.Lacking t w.cluster →
        (∃ n ∈ ns, q₂.node = n.name) ∧ q₂.Lacking t w.cluster → q₁.Before q₂ := by
      rintro q₁ q₂ ⟨h₁, _⟩ ⟨⟨x, hx, h₂⟩, _⟩
      exact .node (h₁ ▸ h₂ ▸ hlt x hx)
    refine (answered_requestModules hn).bind ?ok ?error
    case error => exact fun e w' h => (h.or_later (by simp) hlater).congr hsplit
    case ok =>
      intro changed? w₁ h₁
      cases changed? with
      | none => exact .pure ((h₁.or_later (by simp) hlater).congr hsplit)
      | some changed =>
        have hpassed := h₁.passed_of_ok rfl
        -- The nodes after this one are still as they were listed.
        have hrest : ∀ x ∈ ns, ∀ kind, ¬(x.name = n.name ∧ Ask.Lacking t w.cluster ⟨x.name, kind⟩) :=
          fun x hx _ h => String.ne_of_lt (hlt x hx) h.left.symm
        have hs₁ : ∀ x ∈ ns, w₁.cluster.Stores x :=
          fun x hx => (hpassed.granted.untouched x.name (hrest x hx)).trans (hs x (by simp [hx]))
        have hlacking : ∀ q : Ask, (∃ n ∈ ns, q.node = n.name) ∧ q.Lacking t w₁.cluster ↔
            (∃ n ∈ ns, q.node = n.name) ∧ q.Lacking t w.cluster := by
          refine fun q => and_congr_right fun ⟨x, hx, hq⟩ => ?_
          exact Ask.lacking_congr hq (hpassed.granted.marker?_untouched (hrest x hx))
        refine (hi hs₁ hd).bind ?ok ?error
        case ok =>
          exact fun rest w' h₂ => .pure ((Answered.after hpassed (h₂.congr hlacking) hlater).congr hsplit)
        case error => exact fun e w' h₂ => (Answered.after hpassed (h₂.congr hlacking) hlater).congr hsplit

-- What the step does, by what is needed and what is in the way of it.
structure AsksInOrder (t : Target) (s : Setup Cluster) (w : World Cluster)
    (r : Except OperatorError StepOutcome) (w' : World Cluster) : Prop where
  stopped : ∀ (q : Ask) (h : Hindrance), q.Stops t w.cluster (Ask.Needed t w.cluster) h →
    r = h.answer (.requeueAfter s.requeueDelay) q.node ∧
    Granted t (fun q₁ => q₁.Needed t w.cluster ∧ q₁.Before q) w.cluster w'.cluster
  granted : (¬∃ (q : Ask) (h : Hindrance), q.Stops t w.cluster (Ask.Needed t w.cluster) h) →
    (∃ q : Ask, q.Needed t w.cluster) →
    r = .ok .requeueNow ∧ Granted t (Ask.Needed t w.cluster) w.cluster w'.cluster
  idle    : (∀ q : Ask, ¬q.Needed t w.cluster) →
    (r, w') = exec (StepOutcome.ofChanged <$> dropStale s t) w
  log     : ∃ as, w'.cluster.actions = w.cluster.actions ++ as ∧
    ∀ (q : Ask) (a : Action), a ∈ as → q.WrittenBy t a → ¬q.Occupied t w.cluster

theorem needed_iff (hk : c.Keyed) {q : Ask} :
    (∃ n ∈ c.listNodes t.selector, q.node = n.name) ∧ q.Lacking t c ↔ q.Needed t c := by
  refine and_congr_left fun _ => ?_
  simp only [Cluster.mem_listNodes hk]
  constructor
  case mp =>
    rintro ⟨n, ⟨hs, hsel⟩, hq⟩
    exact ⟨n, hq ▸ hs, hsel⟩
  case mpr =>
    rintro ⟨n, hn, hsel⟩
    exact ⟨n, ⟨hk.stores hn, hsel⟩, (hk.nodes _ _ hn).symm⟩

namespace AsksInOrder

variable {s : Setup Cluster} {q : Ask} {h : Hindrance} {w' : World Cluster}

theorem of_stop (hs : q.Stops t w.cluster (Ask.Needed t w.cluster) h)
    (hg : Granted t (fun q₁ => q₁.Needed t w.cluster ∧ q₁.Before q) w.cluster w'.cluster) :
    AsksInOrder t s w (h.answer (.requeueAfter s.requeueDelay) q.node) w' where
  stopped q' h' hs' := by
    obtain ⟨hq, hh⟩ := hs.unique hs'
    subst hq hh
    exact ⟨rfl, hg⟩
  granted hn := absurd ⟨q, h, hs⟩ hn
  idle hn := absurd hs.asked (hn q)
  log := hg.log_unoccupied fun q₁ hq₁ hp => hs.first q₁ hq₁.left hq₁.right _ (.loaderPod hp)

theorem of_passed (h : Passed t (Ask.Needed t w.cluster) w.cluster true w'.cluster) :
    AsksInOrder t s w (.ok .requeueNow) w' where
  stopped q' h' hs' := absurd hs'.hindered (h.free q' hs'.asked h')
  granted _ _ := ⟨rfl, h.granted⟩
  idle hn := by
    obtain ⟨q, hq⟩ := h.changes.mp rfl
    exact absurd hq (hn q)
  log := h.granted.log_unoccupied fun q hq hp => h.free q hq _ (.loaderPod hp)

-- Where nothing is needed, markers are dropped, and none is written.
theorem of_dropStale (hk : w.cluster.Keyed) (hn : ∀ q : Ask, ¬q.Needed t w.cluster) :
    Ensures (StepOutcome.ofChanged <$> dropStale (.inMemory delay now) t) w
      (AsksInOrder t (.inMemory delay now) w) := by
  have hdrops : Ensures (StepOutcome.ofChanged <$> dropStale (.inMemory delay now) t) w fun _ w' =>
      Relabelling t.id (Drops t) w.cluster w'.cluster :=
    (ensures_dropStale hk).map fun _ _ h => h.left
  obtain ⟨as, has, hrule⟩ := hdrops.log
  constructor
  case stopped => exact fun q _ hs => absurd hs.asked (hn q)
  case granted => exact fun _ ⟨q, hq⟩ => absurd hq (hn q)
  case idle => exact fun _ => rfl
  case log =>
    refine ⟨as, has, fun q a ha hwritten => ?_⟩
    obtain ⟨n, m, v, hdrop, rfl⟩ := hrule a ha
    obtain ⟨_, _, v', hv⟩ := Ask.writtenBy_change hwritten
    subst hv
    cases hdrop

end AsksInOrder

-- The requests on all selected nodes.
theorem answered_requests (hk : w.cluster.Keyed) :
    Ensures (requestOnNodes (.inMemory delay now) t (w.cluster.listNodes t.selector)) w fun r w' =>
      Answered t (Ask.Needed t w.cluster) w.cluster r w'.cluster ∧ (r = .ok (some false) → w' = w) := by
  have hmem : ∀ n, n ∈ w.cluster.listNodes t.selector ↔ w.cluster.Stores n ∧ t.selects n = true :=
    fun n => Cluster.mem_listNodes hk
  have hstores : ∀ n ∈ w.cluster.listNodes t.selector, w.cluster.Stores n := fun n hn => ((hmem n).mp hn).left
  have hsorted : (w.cluster.listNodes t.selector).Pairwise (·.name < ·.name) := Cluster.listNodes_pairwise hk
  have hanswered : Ensures (requestOnNodes (.inMemory delay now) t (w.cluster.listNodes t.selector)) w
      fun r w' => Answered t (Ask.Needed t w.cluster) w.cluster r w'.cluster :=
    (answered_requestOnNodes hstores hsorted).mono fun _ _ h => h.congr fun _ => needed_iff hk
  have hrequesting : Ensures (requestOnNodes (.inMemory delay now) t (w.cluster.listNodes t.selector)) w
      (Requesting t _ _ w) :=
    ensures_requestOnNodes hstores (fun n hn => ((hmem n).mp hn).right) (hsorted.imp String.ne_of_lt)
  exact ⟨hanswered, fun hr => (hrequesting.changes false hr).unchanged rfl⟩

-- The step asks for what selected nodes lack, one after the other up to the first request with
-- something in the way. It drops markers if there is nothing to ask for. Markers of modules are never
-- written where a loader pod still is.
theorem loaderMarkers_exact (hk : w.cluster.Keyed) (t : Target) (delay : Duration) (now : Timestamp) :
    Ensures (loaderMarkers (.inMemory delay now) t) w (AsksInOrder t (.inMemory delay now) w) := by
  refine ensures_selectedNodes_bind hk ((answered_requests hk).bind ?ok ?error)
  case error =>
    intro e w' ⟨hanswered, _⟩
    obtain ⟨q, h, hs, hr, hg⟩ | ⟨_, hr, _⟩ := hanswered.stopped_or_passed
    case inl =>
      cases h with
      | loaderPod => cases hr
      | refusal =>
        cases hr
        exact .of_stop hs hg
    case inr => cases hr
  case ok =>
    intro changed? w₁ ⟨hanswered, hidle⟩
    obtain ⟨q, h, hs, hr, hg⟩ | ⟨changed, hr, hpassed⟩ := hanswered.stopped_or_passed
    case inl =>
      cases h with
      | loaderPod =>
        cases hr
        exact .pure (.of_stop hs hg)
      | refusal => cases hr
    case inr =>
      cases hr
      cases changed with
      | true => exact .pure (.of_passed hpassed)
      | false =>
        have hw := hidle rfl
        subst hw
        have hnone : ∀ q : Ask, ¬q.Needed t w₁.cluster :=
          fun q hq => nomatch hpassed.changes.mpr ⟨q, hq⟩
        exact .of_dropStale hk hnone

-- Of three workers without modules the second one has to wait for its SFC module.
theorem loaderMarkers_exact_occupied :
    ∃ (w : World Cluster) (t : Target), w.cluster.Keyed ∧
      (∃ (q : Ask) (h : Hindrance), q.Stops t w.cluster (Ask.Needed t w.cluster) h) ∧
      Ensures (loaderMarkers (.inMemory .zero Sample.now) t) w fun r w' =>
        AsksInOrder t (.inMemory .zero Sample.now) w r w' ∧ r = .ok (.requeueAfter .zero) ∧
        ["a", "b", "c"].map (w'.cluster.marker? t.id .loader) = [some t.version, some t.version, none] ∧
        ["a", "b", "c"].map (w'.cluster.marker? t.id .sfc) = [some t.version, none, none] := by
  let t : Target := ⟨Sample.sfcOnload "2", Sample.resource⟩
  let pod := Pod.onNode ⟨"default", "unloading"⟩ "b"
    (Dict.empty.insert loaderPodLabel (ModuleKind.sfc.resourceName "onload"))
  let start := Sample.sfcWorld "2" (["a", "b", "c"].map (Sample.worker · []))
  let w := { start with cluster := start.cluster.putPod pod }
  have hk : w.cluster.Keyed := (Sample.keyed_sfcWorld ..).edit (.putPod pod)
  have hexact := loaderMarkers_exact hk t .zero Sample.now
  have hanswer : (exec (loaderMarkers (.inMemory .zero Sample.now) t) w).1 = .ok (.requeueAfter .zero) := by
    decide +kernel
  have hneeded : Ask.Needed t w.cluster ⟨"a", .onload⟩ := by
    rw [Ask.Needed, Ask.Lacking]
    decide +kernel
  refine ⟨w, t, hk, ?_, hexact, hanswer, by decide +kernel, by decide +kernel⟩
  by_contra hn
  have hgranted := (AsksInOrder.granted hexact hn ⟨_, hneeded⟩).left
  rw [hanswer] at hgranted
  cases hgranted

end Marking

end KernelRollout
