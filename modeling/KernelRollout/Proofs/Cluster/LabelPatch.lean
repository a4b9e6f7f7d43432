import KernelRollout.Cluster.Http
import KernelRollout.Proofs.Cluster.Relabel
import KernelRollout.Proofs.Json.MergePatch

namespace KernelRollout

variable {c : Cluster} {stored snapshot n : Node} {changes : Node.LabelChanges} {m : Metadata}
variable {doc v : Json} {f g df mf mf' lf : Fields} {d : Labels}

namespace Json

-- A field of the metadata of a document.
def metadataField? (doc : Json) (name : String) : Option Json := (doc.get? "metadata").bind (·.get? name)

-- The fields of the labels of a document.
def labelFields (doc : Json) : Fields := fieldsOf ((doc.metadataField? "labels").getD null)

theorem eq_obj_of_ofKind? {α : Type} [Resource α] (h : ofKind? α v = some f) : v = obj f := by
  simp only [ofKind?, Option.bind_eq_bind, Option.bind_eq_some_iff] at h
  obtain ⟨f', hf', _, _, _, _, h⟩ := h
  cases v with
  | obj fields =>
    cases hf'
    split at h
    · rw [Option.some.inj h]
    · cases h
  | null | bool | int | real | str | arr => cases hf'

theorem ofKind?_congr {α : Type} [Resource α] (h : ofKind? α (obj f) = some f)
    (hversion : g.lookup "apiVersion" = f.lookup "apiVersion") (hkind : g.lookup "kind" = f.lookup "kind") :
    ofKind? α (obj g) = some g := by
  simp only [ofKind?, object?, Option.bind_eq_bind, Option.bind_some,
    Fields.defaulted_congr hversion, Fields.defaulted_congr hkind,
    Option.bind_eq_some_iff] at h ⊢
  obtain ⟨version, hversion, kind, hkind, h⟩ := h
  refine ⟨version, hversion, kind, hkind, ?_⟩
  split at h
  case isTrue hright => rw [if_pos hright]
  case isFalse => cases h

theorem exists_of_metadata? (h : metadata? v = some m) : ∃ mf, v = obj mf := by
  cases v with
  | obj mf => exact ⟨mf, rfl⟩
  | null | bool | int | real | str | arr => simp [metadata?, object?] at h

-- Each part of metadata is read from its own field.
theorem metadata?_eq_some_iff :
    metadata? (obj mf) = some m ↔
      mf.optional "name" string? = some m.name ∧ mf.optional "namespace" string? = some m.ns ∧
      mf.optional "uid" string? = some m.uid ∧
      mf.optional "resourceVersion" string? = some m.resourceVersion ∧
      mf.optional "labels" labels? = some m.labels ∧
      mf.optional "annotations" labels? = some m.annotations ∧
      mf.optional "deletionTimestamp" timestamp? = some m.deletionTimestamp ∧
      mf.optional "ownerReferences" (list? ownerReference?) = some m.ownerReferences := by
  simp only [metadata?, object?, Option.bind_eq_bind, Option.bind_some, Option.bind_eq_some_iff,
    Option.some.injEq]
  constructor
  case mp =>
    rintro ⟨_, hname, _, hns, _, huid, _, hversion, _, hlabels, _, hannotations, _, hdeletion, _,
      howners, rfl⟩
    exact ⟨hname, hns, huid, hversion, hlabels, hannotations, hdeletion, howners⟩
  case mpr =>
    rintro ⟨hname, hns, huid, hversion, hlabels, hannotations, hdeletion, howners⟩
    exact ⟨_, hname, _, hns, _, huid, _, hversion, _, hlabels, _, hannotations, _, hdeletion, _,
      howners, rfl⟩

-- Labels are set in metadata, and all other fields of it are left alone.
theorem metadata?_relabelled (h : metadata? (obj mf) = some m) (hlabels : mf'.lookup "labels" = some (obj lf))
    (hd : labels? (obj lf) = some d) (hsame : ∀ k, k ≠ "labels" → mf'.lookup k = mf.lookup k) :
    metadata? (obj mf') = some { m with labels := some d } := by
  have hother {α : Type} {read : Read α} (k : String) (hk : k ≠ "labels") :
      mf'.optional k read = mf.optional k read := Fields.optional_congr (hsame k hk)
  have hself : mf'.optional "labels" labels? = some (some d) := by
    rw [Fields.optional, hlabels]
    show (labels? (obj lf)).map some = _
    rw [hd, Option.map_some]
  rw [metadata?_eq_some_iff] at h ⊢
  obtain ⟨hname, hns, huid, hversion, _, hannotations, hdeletion, howners⟩ := h
  exact ⟨(hother _ (by decide)).trans hname, (hother _ (by decide)).trans hns,
    (hother _ (by decide)).trans huid, (hother _ (by decide)).trans hversion, hself,
    (hother _ (by decide)).trans hannotations, (hother _ (by decide)).trans hdeletion,
    (hother _ (by decide)).trans howners⟩

-- The fields of a document of a node, and those of its metadata.
structure DocumentOf (doc : Json) (n : Node) (df mf : Fields) : Prop where
  eq_obj   : doc = obj df
  ofKind   : ofKind? Node (obj df) = some df
  metadata : df.lookup "metadata" = some (obj mf)
  reads    : metadata? (obj mf) = some n.metadata

namespace DocumentOf

theorem of_node? (h : Json.node? doc = some n) (hname : n.name ≠ "") :
    ∃ df mf, DocumentOf doc n df mf := by
  simp only [Json.node?, Option.bind_eq_bind, Option.bind_eq_some_iff] at h
  obtain ⟨df, hkind, m, hm, hn⟩ := h
  obtain ⟨o, ho, hom⟩ := Option.map_eq_some_iff.mp hm
  obtain rfl := eq_obj_of_ofKind? hkind
  cases Option.some.inj hn
  cases o with
  | none =>
    cases hom
    exact absurd rfl hname
  | some m' =>
    cases hom
    obtain ⟨v, hv, hread⟩ := Fields.optional_eq_some ho
    obtain ⟨mf, rfl⟩ := exists_of_metadata? hread
    exact ⟨df, mf, rfl, hkind, hv, hread⟩

theorem version (h : DocumentOf doc n df mf) :
    mf.optional "resourceVersion" string? = some n.metadata.resourceVersion :=
  have ⟨_, _, _, hversion, _⟩ := metadata?_eq_some_iff.mp h.reads
  hversion

theorem labels (h : DocumentOf doc n df mf) :
    mf.optional "labels" Json.labels? = some n.metadata.labels :=
  have ⟨_, _, _, _, hlabels, _⟩ := metadata?_eq_some_iff.mp h.reads
  hlabels

theorem node? (h : DocumentOf doc n df mf) (hreads : metadata? (obj mf') = some m) :
    Json.node? (obj (setField "metadata" (obj mf') df)) = some ⟨m⟩ := by
  have hother (k : String) (hk : k ≠ "metadata") :
      (setField "metadata" (obj mf') df).lookup k = df.lookup k := by
    rw [lookup_setField, if_neg hk]
  have hself : (setField "metadata" (obj mf') df).lookup "metadata" = some (obj mf') := by
    rw [lookup_setField, if_pos rfl]
  have hkind := ofKind?_congr h.ofKind (hother "apiVersion" (by decide)) (hother "kind" (by decide))
  simp [Json.node?, hkind, Fields.lenient, Fields.optional, hself, nullable?, hreads]

theorem metadataField? (h : DocumentOf doc n df mf) (k : String) : doc.metadataField? k = mf.lookup k := by
  rw [Json.metadataField?, h.eq_obj, get?, h.metadata]
  rfl

-- Unset labels have no fields.
theorem labelFields (h : DocumentOf doc n df mf) (hnodup : (doc.labelFields.map (·.1)).Nodup) :
    LabelFields doc.labelFields (n.metadata.labels.getD .empty) := by
  have hlabels := h.labels
  rw [Json.labelFields, h.metadataField?] at hnodup ⊢
  cases hd : n.metadata.labels with
  | none =>
    rw [hd] at hlabels
    rw [Fields.optional_eq_none hlabels]
    exact .empty
  | some d =>
    rw [hd] at hlabels
    obtain ⟨v, hv, hread⟩ := Fields.optional_eq_some hlabels
    rw [hv] at hnodup ⊢
    cases v with
    | obj lf => exact .of_labels? hnodup hread
    | null | bool | int | real | str | arr => cases hread

end DocumentOf

end Json

namespace Http

open Json (DocumentOf LabelFields obj str setField metadata? labels?)
open Fields (always whenSet)

-- The version that a document has, or that a patch asks for.
def version? (doc : Json) : Option String := (doc.metadataField? "resourceVersion").bind Json.string?

-- What a server stores for a merge patch, unless it refuses the patch.
def patched? (doc patch : Json) : Option Json :=
  if (version? patch).isSome && version? patch ≠ version? doc then none else some (doc.mergePatch patch)

theorem version?_labelPatch (snapshot : Node) (changes : Node.LabelChanges) :
    version? (labelPatch snapshot changes) = snapshot.metadata.resourceVersion := by
  cases h : snapshot.metadata.resourceVersion <;>
    simp [version?, Json.metadataField?, labelPatch, Json.get?, List.lookup_append, h]

theorem version?_document (h : DocumentOf doc n df mf) : version? doc = n.metadata.resourceVersion := by
  have hversion := h.version
  rw [version?, h.metadataField?]
  cases hv : n.metadata.resourceVersion with
  | some v =>
    rw [hv] at hversion
    obtain ⟨v, hv, hread⟩ := Fields.optional_eq_some hversion
    rw [hv]
    exact hread
  | none =>
    rw [hv] at hversion
    have hnull := Fields.optional_eq_none hversion
    cases hl : mf.lookup "resourceVersion" with
    | none => rfl
    | some v =>
      rw [hl, Option.getD_some] at hnull
      rw [hnull]
      rfl

theorem patched?_labelPatch (h : DocumentOf doc n df mf) (snapshot : Node) (changes : Node.LabelChanges) :
    patched? doc (labelPatch snapshot changes) =
      if Cluster.stale snapshot.metadata n.metadata then none
      else some (doc.mergePatch (labelPatch snapshot changes)) := by
  rw [patched?, version?_labelPatch, version?_document h, Cluster.stale]

-- The fields of the metadata that the server stores.
def patchedMetadata (mf lf : Fields) : Option String → Fields
  | none   => setField "labels" (obj lf) mf
  | some v => setField "resourceVersion" (str v) (setField "labels" (obj lf) mf)

theorem mergePatch_labelPatch (h : DocumentOf doc n df mf) (snapshot : Node) (changes : Node.LabelChanges) :
    doc.mergePatch (labelPatch snapshot changes) =
      obj (setField "metadata" (obj (patchedMetadata mf
        (Json.mergeFields doc.labelFields (changes.toList.map fun c => (c.1, Json.option str c.2)))
        snapshot.metadata.resourceVersion)) df) := by
  have hlabels : doc.labelFields = Json.fieldsOf ((mf.lookup "labels").getD .null) := by
    rw [Json.labelFields, h.metadataField?]
  rw [hlabels, h.eq_obj]
  cases hv : snapshot.metadata.resourceVersion <;>
    simp [labelPatch, hv, Json.mergePatch, Json.mergeFields, Json.fieldsOf, h.metadata, always, whenSet,
      patchedMetadata, Json.ofDict]

theorem lookup_patchedMetadata_labels (mf lf : Fields) (version : Option String) :
    (patchedMetadata mf lf version).lookup "labels" = some (obj lf) := by
  cases version <;> simp [patchedMetadata, Json.lookup_setField]

-- A version that is not refused is there already.
theorem lookup_patchedMetadata (h : DocumentOf doc n df mf)
    (hfresh : Cluster.stale snapshot.metadata n.metadata = false) (lf : Fields) {k : String}
    (hk : k ≠ "labels") :
    (patchedMetadata mf lf snapshot.metadata.resourceVersion).lookup k = mf.lookup k := by
  cases hv : snapshot.metadata.resourceVersion with
  | none => rw [patchedMetadata, Json.lookup_setField, if_neg hk]
  | some v =>
    have hn : some v = n.metadata.resourceVersion := by simpa [Cluster.stale, hv] using hfresh
    have hversion := h.version
    rw [← hn] at hversion
    obtain ⟨v', hv', hread⟩ := Fields.optional_eq_some hversion
    rw [patchedMetadata, Json.lookup_setField, Json.lookup_setField, if_neg hk]
    split
    case isTrue hk => rw [hk, hv', Json.eq_str_of_string? hread]
    case isFalse => rfl

-- What a server and a cluster in memory have made of one node: it has the same labels in both, and
-- nothing else but the version has changed.
structure PatchedAlike (stored updated : Node) (doc doc' : Json) : Prop where
  reads    : Json.node? doc' =
    some ⟨{ updated.metadata with resourceVersion := stored.metadata.resourceVersion }⟩
  node     : updated = ⟨{ stored.metadata with
    labels := updated.metadata.labels, resourceVersion := updated.metadata.resourceVersion }⟩
  document : ∀ k, k ≠ "metadata" → doc'.get? k = doc.get? k
  metadata : ∀ k, k ≠ "labels" → doc'.metadataField? k = doc.metadataField? k

theorem patchedAlike (h : DocumentOf doc stored df mf) (hnodup : (doc.labelFields.map (·.1)).Nodup)
    (hfresh : Cluster.stale snapshot.metadata stored.metadata = false) (changes : Node.LabelChanges)
    (version : Nat) :
    PatchedAlike stored
      ⟨Cluster.withVersion { stored.metadata with
        labels := some (Node.changeLabels (stored.metadata.labels.getD .empty) changes) } version⟩
      doc (doc.mergePatch (labelPatch snapshot changes)) := by
  have hlabels := (h.labelFields hnodup).mergeFields changes.toList
  have hsame {k : String} := lookup_patchedMetadata h hfresh (k := k)
    (Json.mergeFields doc.labelFields (changes.toList.map fun c => (c.1, Json.option str c.2)))
  have hreads := Json.metadata?_relabelled h.reads (lookup_patchedMetadata_labels _ _ _) hlabels.labels?
    fun k hk => hsame hk
  rw [mergePatch_labelPatch h]
  refine { reads := h.node? hreads, node := rfl, document := fun k hk => ?document,
           metadata := fun k hk => ?metadata }
  case document => rw [h.eq_obj, Json.get?, Json.get?, Json.lookup_setField, if_neg hk]
  case metadata =>
    rw [h.metadataField?, Json.metadataField?, Json.get?, Json.lookup_setField, if_pos rfl,
      Option.bind_some, Json.get?, hsame hk]

-- A server that merges the patch into the document that it stores, unless the patch names another
-- version, does what the cluster in memory does.
theorem labelPatch_agrees (hs : c.Stores stored) (hname : stored.name ≠ "")
    (hf : c.refuses stored.name = false) (hdoc : Json.node? doc = some stored)
    (hnodup : (doc.labelFields.map (·.1)).Nodup) (hsnapshot : snapshot.name = stored.name)
    (changes : Node.LabelChanges) :
    request (.patchNodeLabels snapshot changes) =
      .ok (mergePatch (labelPatch snapshot changes) (nodes ++ "/" ++ stored.name)) ∧
    (((∃ e, (c.patchNodeLabels snapshot changes).1 = .error e) ∧
        patched? doc (labelPatch snapshot changes) = none) ∨
      ∃ updated doc', (c.patchNodeLabels snapshot changes).1 = .ok updated ∧
        (c.patchNodeLabels snapshot changes).2.Stores updated ∧
        patched? doc (labelPatch snapshot changes) = some doc' ∧ PatchedAlike stored updated doc doc') := by
  have ⟨df, mf, hd⟩ := DocumentOf.of_node? hdoc hname
  refine ⟨by simp [request, item, hsnapshot, hname], ?_⟩
  rw [Cluster.Stores] at hs
  rw [Cluster.refuses] at hf
  rw [patched?_labelPatch hd]
  simp only [Cluster.patchNodeLabels, hsnapshot, hf, hs]
  cases hstale : Cluster.stale snapshot.metadata stored.metadata with
  | true => exact .inl ⟨⟨_, rfl⟩, rfl⟩
  | false =>
    refine .inr ⟨_, _, rfl, ?stores, rfl, patchedAlike hd hnodup hstale changes _⟩
    case stores => exact Dict.get?_insert_self _ _ _

-- A node without labels, in a document with more fields than are read. One label is set and another
-- one removed that is not there, first without a version and then with an old one.
theorem labelPatch_agrees_unlabelled :
    ∃ (c : Cluster) (stored unversioned old : Node) (doc : Json) (changes : Node.LabelChanges),
      stored.metadata.labels = none ∧ Json.node? doc = some stored ∧
      (∃ updated doc', (c.patchNodeLabels unversioned changes).1 = .ok updated ∧
        updated.metadata.labels = some (Dict.empty.insert "role" "worker") ∧
        patched? doc (labelPatch unversioned changes) = some doc' ∧
        PatchedAlike stored updated doc doc') ∧
      (∃ e, (c.patchNodeLabels old changes).1 = .error e) ∧
      patched? doc (labelPatch old changes) = none := by
  let node (version : Option String) : Node := ⟨{ name := some "a", resourceVersion := version }⟩
  let c : Cluster := Cluster.putNode {} (node none)
  let stored : Node := Cluster.admitted (node none) 1
  let doc : Json := obj [("kind", str "Node"), ("spec", obj [("unschedulable", .bool true)]),
    ("metadata", obj [("uid", str "uid-1     "), ("name", str "a"), ("resourceVersion", str "1"),
      ("generation", .int 3)])]
  let changes : Node.LabelChanges := (Dict.empty.insert "role" (some "worker")).insert "zone" none
  have hs : c.Stores stored := rfl
  have hdoc : Json.node? doc = some stored := by decide +kernel
  have hnodup : (doc.labelFields.map (·.1)).Nodup := .nil
  have hagrees (version : Option String) :=
    (labelPatch_agrees hs (by decide) rfl hdoc hnodup
      (show (node version).name = stored.name from rfl) changes).right
  refine ⟨c, stored, node none, node (some "0"), doc, changes, rfl, hdoc, ?ok, ?conflict⟩
  case ok =>
    have hlabels : (c.patchNodeLabels (node none) changes).1.toOption.map (·.metadata.labels) =
        some (some (Dict.empty.insert "role" "worker")) := by decide +kernel
    obtain ⟨⟨e, he⟩, _⟩ | ⟨updated, doc', hupdated, _, hdoc', halike⟩ := hagrees none
    · rw [he] at hlabels
      cases hlabels
    · rw [hupdated] at hlabels
      exact ⟨updated, doc', hupdated, Option.some.inj hlabels, hdoc', halike⟩
  case conflict =>
    have hfails : (c.patchNodeLabels (node (some "0")) changes).1.isOk = false := by decide +kernel
    obtain hrefused | ⟨updated, doc', hupdated, _⟩ := hagrees (some "0")
    · exact hrefused
    · rw [hupdated] at hfails
      cases hfails

end Http

end KernelRollout
