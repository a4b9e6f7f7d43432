import KernelRollout.Cluster.Http
import KernelRollout.Cluster.Memory
import KernelRollout.Proofs.Text.Occurrences

namespace KernelRollout

namespace LabelRequirement

-- A text without the characters that divide a selector.
def Plain (s : String) : Prop := ',' ∉ s.toList ∧ '=' ∉ s.toList

structure PlainKey (key : String) : Prop where
  filled : key ≠ ""
  plain  : Plain key

instance (s : String) : Decidable (Plain s) := inferInstanceAs (Decidable (_ ∧ _))

instance (key : String) : Decidable (PlainKey key) :=
  decidable_of_iff (key ≠ "" ∧ Plain key) ⟨fun h => ⟨h.left, h.right⟩, fun h => ⟨h.filled, h.plain⟩⟩

-- What a server asks of the labels of an object. Without labels an object meets no requirement.
inductive Met : LabelRequirement → Option Labels → Prop
  | equals {key value : String} {labels : Labels} (h : labels.get? key = some value) :
    Met (equals key value) (some labels)
  | present {key value : String} {labels : Labels} (h : labels.get? key = some value) :
    Met (present key) (some labels)

theorem holds_iff {r : LabelRequirement} {labels : Option Labels} :
    r.holds (labels.getD .empty) = true ↔ r.Met labels := by
  constructor
  case mp =>
    intro h
    cases labels with
    | none => cases r <;> simp [holds, Dict.contains] at h
    | some labels =>
      cases r with
      | equals key value => exact .equals (of_decide_eq_true h)
      | present key =>
        have ⟨value, hvalue⟩ := Option.isSome_iff_exists.mp h
        exact .present hvalue
  case mpr =>
    intro h
    cases h with
    | equals h => exact decide_eq_true h
    | present h => exact Option.isSome_iff_exists.mpr ⟨_, h⟩

instance (r : LabelRequirement) (labels : Option Labels) : Decidable (r.Met labels) :=
  decidable_of_iff _ holds_iff

-- The requirement stands for itself in a selector.
structure Legible (r : LabelRequirement) : Prop where
  filled  : r.text.toList ≠ []
  unsplit : ',' ∉ r.text.toList
  read    : ofText r.text.toList = r

variable {key value : String}

-- What stands before the first separator, and what stands behind it.
theorem cut_of_not_mem {c : Char} {before after : List Char} (h : c ∉ before) :
    Text.cut [c] (before ++ c :: after) = some (before, after) :=
  (Text.unbordered_singleton c).cut_join (Text.free_singleton_iff.mpr h) after

theorem legible_equals (hk : PlainKey key) (hv : Plain value) : (equals key value).Legible := by
  have htext : (equals key value).text.toList = key.toList ++ '=' :: value.toList := by
    simp [text, String.toList_append]
  refine ⟨by simp [htext], ?_, ?_⟩
  · simp [htext, hk.plain.left, hv.left]
  · rw [ofText, htext, cut_of_not_mem hk.plain.right]
    simp only [String.ofList_toList]

theorem legible_present (hk : PlainKey key) : (present key).Legible := by
  have hnone : Text.cut ['='] key.toList = none :=
    Text.cut_eq_none_iff.mpr (Text.free_singleton_iff.mpr hk.plain.right)
  refine ⟨by simpa [text] using hk.filled, hk.plain.left, ?_⟩
  rw [ofText, text, hnone]
  simp only [String.ofList_toList]

end LabelRequirement

namespace LabelQuery

open LabelRequirement (Plain PlainKey Legible legible_equals legible_present)

variable {q q' : LabelQuery}

-- Queries by the ways in which they are put together, in any order, of keys and values as labels have.
inductive Built : LabelQuery → Prop
  | everything : Built everything
  | ofLabels (labels : Labels) (h : ∀ key value, labels.get? key = some value → PlainKey key ∧ Plain value) :
    Built (ofLabels labels)
  | hasKey {key : String} (hk : PlainKey key) : Built (hasKey key)
  | andEquals {q : LabelQuery} {key value : String} (h : Built q) (hk : PlainKey key) (hv : Plain value) :
    Built (q.andEquals key value)
  | andPresent {q : LabelQuery} {key : String} (h : Built q) (hk : PlainKey key) :
    Built (q.andPresent key)

theorem Built.legible (h : q.Built) : ∀ r ∈ q.requirements, r.Legible := by
  induction h with
  | everything => exact nofun
  | ofLabels labels h =>
    simp only [LabelQuery.ofLabels, List.forall_mem_map]
    intro e he
    have ⟨hk, hv⟩ := h e.1 e.2 (Dict.get?_eq_some_iff.mpr he)
    exact legible_equals hk hv
  | hasKey hk => exact List.forall_mem_singleton.mpr (legible_present hk)
  | andEquals _ hk hv hi =>
    exact List.forall_mem_append.mpr ⟨hi, List.forall_mem_singleton.mpr (legible_equals hk hv)⟩
  | andPresent _ hk hi =>
    exact List.forall_mem_append.mpr ⟨hi, List.forall_mem_singleton.mpr (legible_present hk)⟩

theorem pieces_eq_splitOn (cs : List Char) : ofText.pieces cs = cs.splitOn ',' := by
  induction cs with
  | nil => rfl
  | cons c cs hi =>
    rw [ofText.pieces, hi, List.splitOn_cons_eq_if_modifyHead]
    cases h : cs.splitOn ',' with
    | nil => exact absurd h (List.splitOn_ne_nil _ _)
    | cons p ps => by_cases hc : c = ',' <;> simp [hc]

-- What is joined by commas is taken apart at the commas.
theorem ofText_text (h : ∀ r ∈ q.requirements, r.Legible) : ofText q.text = q := by
  by_cases hnone : q.requirements = []
  case pos =>
    obtain ⟨rs⟩ := q
    subst hnone
    rfl
  case neg =>
    have htext : q.text.toList = [','].intercalate (q.requirements.map (·.text.toList)) := by
      simp [text, String.toList_intercalate, Function.comp_def]
    have hpieces : ofText.pieces q.text.toList = q.requirements.map (·.text.toList) := by
      rw [pieces_eq_splitOn, htext]
      refine List.splitOn_intercalate ',' ?_ (by simpa using hnone)
      simpa only [List.forall_mem_map] using fun r hr => (h r hr).unsplit
    have hread : (q.requirements.map (·.text.toList)).map .ofText = q.requirements := by
      rw [List.map_map]
      exact (List.map_congr_left fun r hr => (h r hr).read).trans (List.map_id _)
    rw [ofText]
    split
    case h_1 hempty =>
      -- The empty text would be the one requirement that has an empty text.
      have hmem : [] ∈ q.requirements.map (·.text.toList) := by
        rw [← hpieces, hempty]
        exact List.mem_singleton.mpr rfl
      have ⟨r, hr, hnil⟩ := List.mem_map.mp hmem
      exact absurd hnil (h r hr).filled
    case h_2 => rw [hpieces, hread]

theorem selects_iff {labels : Option Labels} :
    q.selects labels = true ↔ ∀ r ∈ q.requirements, r.Met labels := by
  simp only [selects, List.all_eq_true, LabelRequirement.holds_iff]

end LabelQuery

namespace Http

-- The two paths part behind `/api/v1/`.
theorem pods_none_ne (ns : String) : pods none ≠ pods (some ns) := by
  intro h
  have hchar := congrArg (·.toList[8]?) h
  simp [pods, collection, String.toList_append] at hchar

-- A path leads to the pods of all namespaces or to those of one.
theorem path_pods_iff {ns : Option String} {n : String} :
    pods ns = pods none ∨ pods ns = pods (some n) ↔ ∀ x ∈ ns, x = n := by
  cases ns with
  | none => simp
  | some ns =>
    rw [or_iff_right (pods_none_ne ns).symm]
    simp [pods, collection]

namespace Request

-- What a server reads off a request. Without a selector the request asks for no label.
def selector (r : Request) : LabelQuery :=
  match r.query.lookup "labelSelector" with
  | none   => .everything
  | some s => .ofText s

-- A server selects the objects that meet all requirements. Pods have to be in the namespace and on the
-- node too, if the request names these.
def Selects (r : Request) (labels : Option Labels) : Prop :=
  ∀ x ∈ r.selector.requirements, x.Met labels

def SelectsPod (r : Request) (id : Identity) (p : Pod) : Prop :=
  (r.path = pods none ∨ r.path = pods (some id.ns)) ∧ r.Selects p.metadata.labels ∧
    ∀ s ∈ r.query.lookup "fieldSelector", ∃ node ∈ p.nodeName?, s = "spec.nodeName=" ++ node

instance (r : Request) (labels : Option Labels) : Decidable (r.Selects labels) :=
  inferInstanceAs (Decidable (∀ x ∈ r.selector.requirements, x.Met labels))

instance (r : Request) (id : Identity) (p : Pod) : Decidable (r.SelectsPod id p) :=
  inferInstanceAs (Decidable (_ ∧ _ ∧ ∀ s ∈ _, ∃ node ∈ p.nodeName?, s = "spec.nodeName=" ++ node))

end Request

variable {r : Request} {q : LabelQuery} {fields : Option String}

theorem fields_listQuery : (listQuery q fields).lookup "fieldSelector" = fields := by
  cases fields <;> by_cases h : q.text = "" <;> simp [listQuery, List.lookup_cons, h]

theorem labels_listQuery :
    (listQuery q fields).lookup "labelSelector" = if q.text = "" then none else some q.text := by
  cases fields <;> by_cases h : q.text = "" <;> simp [listQuery, List.lookup_cons, h]

-- A server reads the query that the request was made for.
theorem selector_listQuery (hq : q.Built) (hr : r.query = listQuery q fields) : r.selector = q := by
  have hread := LabelQuery.ofText_text hq.legible
  rw [Request.selector, hr, labels_listQuery]
  by_cases h : q.text = ""
  case pos => simpa [h, LabelQuery.ofText] using hread
  case neg => simpa [h] using hread

end Http

namespace Cluster

open Http (Request)

variable {r : Request} {q : LabelQuery}

theorem listNodes_eq_selected (c : Cluster) (hq : r.selector = q) :
    c.listNodes q = c.nodes.values.filter fun n => r.Selects n.metadata.labels := by
  refine List.filter_congr fun n _ => ?_
  rw [Bool.eq_iff_iff, decide_eq_true_iff, LabelQuery.selects_iff, Request.Selects, hq]

theorem listPods_eq_selected (c : Cluster) {ns node : Option String} (hq : r.selector = q)
    (hpath : r.path = Http.pods ns)
    (hfields : r.query.lookup "fieldSelector" = PodQuery.fieldText ⟨ns, q, node⟩) :
    c.listPods ⟨ns, q, node⟩ = (c.pods.toList.filter fun e => r.SelectsPod e.1 e.2).map (·.2) := by
  refine congrArg (List.map _) (List.filter_congr fun (id, p) _ => ?_)
  rw [Bool.eq_iff_iff, decide_eq_true_iff, Request.SelectsPod, hpath, Http.path_pods_iff, Request.Selects,
    hq, hfields, ← LabelQuery.selects_iff]
  simp [PodQuery.fieldText, Option.all_eq_true, and_assoc]

end Cluster

-- The text of a query says exactly what the query requires. Queries of one text select alike, in memory
-- and by a server that has nothing but the request with the text.
theorem LabelQuery.selects_by_text {q : LabelQuery} (h : q.Built) :
    ofText q.text = q ∧
    (∀ labels, q.selects labels = true ↔ ∀ r ∈ (ofText q.text).requirements, r.Met labels) ∧
    ∀ q' : LabelQuery, q'.Built → q'.text = q.text →
      (∀ labels, q'.selects labels = q.selects labels) ∧
      (∀ c : Cluster, ∃ r, Http.request (.listNodes q') = .ok r ∧ r.selector = q ∧
        c.listNodes q = c.nodes.values.filter fun n => r.Selects n.metadata.labels) ∧
      ∀ (c : Cluster) (ns node : Option String), ∃ r, Http.request (.listPods ⟨ns, q', node⟩) = .ok r ∧
        r.selector = q ∧
        c.listPods ⟨ns, q, node⟩ = (c.pods.toList.filter fun e => r.SelectsPod e.1 e.2).map (·.2) := by
  have hread := ofText_text h.legible
  refine ⟨hread, fun labels => hread.symm ▸ selects_iff, fun q' h' htext => ?_⟩
  have hsame : q' = q := by rw [← ofText_text h'.legible, htext, hread]
  subst hsame
  refine ⟨fun _ => rfl, fun c => ⟨_, rfl, ?nodes⟩, fun c ns node => ⟨_, rfl, ?pods⟩⟩
  case nodes =>
    exact ⟨Http.selector_listQuery h rfl, c.listNodes_eq_selected (Http.selector_listQuery h rfl)⟩
  case pods =>
    exact ⟨Http.selector_listQuery h rfl,
      c.listPods_eq_selected (Http.selector_listQuery h rfl) rfl Http.fields_listQuery⟩

-- One text of two queries, with an empty value and with a key that is required twice.
theorem LabelQuery.selects_by_text_repeated :
    ∃ q q' : LabelQuery, q.Built ∧ q'.Built ∧ q.text = "nic=,zone=a,ready,ready=" ∧ q'.text = q.text ∧
      ofText q.text = q ∧ ∀ labels, q'.selects labels = q.selects labels := by
  let labels : Labels := (Dict.empty.insert "zone" "a").insert "nic" ""
  let q := ((LabelQuery.ofLabels labels).andPresent "ready").andEquals "ready" ""
  let q' := (((everything.andEquals "nic" "").andEquals "zone" "a").andPresent "ready").andEquals "ready" ""
  have hlabels : ∀ e ∈ labels.entries, LabelRequirement.PlainKey e.1 ∧ LabelRequirement.Plain e.2 := by
    decide
  have h : q.Built := by
    refine .andEquals (.andPresent (.ofLabels labels fun key value hget => ?_) (by decide)) (by decide) (by decide)
    exact hlabels (key, value) (Dict.get?_eq_some_iff.mp hget)
  have h' : q'.Built :=
    .andEquals (.andPresent (.andEquals (.andEquals .everything (by decide) (by decide)) (by decide)
      (by decide)) (by decide)) (by decide) (by decide)
  have htext : q'.text = q.text := by decide
  have ⟨hread, _, hselects⟩ := selects_by_text h
  exact ⟨q, q', h, h', by decide, htext, hread, (hselects q' h' htext).left⟩

end KernelRollout
