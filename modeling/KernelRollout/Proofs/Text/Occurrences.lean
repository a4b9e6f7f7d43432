import KernelRollout.Text.Cut
import Mathlib.Data.List.Infix

namespace KernelRollout.Text

variable {sep cs before after : List Char} {c : Char}

-- How many places there are at which `sep` stands.
def occurrences (sep cs : List Char) : Nat := cs.tails.countP (sep.isPrefixOf ·)

theorem occurrences_cons :
    occurrences sep (c :: cs) = occurrences sep cs + if sep.isPrefixOf (c :: cs) then 1 else 0 := by
  rw [occurrences, List.tails_cons, List.countP_cons, occurrences]

theorem occurrences_eq_zero_iff : occurrences sep cs = 0 ↔ Free sep cs := by
  simp only [occurrences, List.countP_eq_zero, List.mem_tails, List.isPrefixOf_iff_prefix, Free,
    List.infix_iff_prefix_suffix, not_exists, not_and']

instance : Decidable (Free sep cs) := decidable_of_iff (occurrences sep cs = 0) occurrences_eq_zero_iff

theorem free_cons_iff : Free sep (c :: cs) ↔ sep.isPrefixOf (c :: cs) = false ∧ Free sep cs := by
  rw [Free, List.infix_cons_iff, not_or, ← List.isPrefixOf_iff_prefix, Bool.not_eq_true, Free]

-- Only the whole separator is both a beginning and an end of it.
structure Unbordered (sep : List Char) : Prop where
  filled   : sep ≠ []
  bordered : ∀ border, border ≠ [] → border <+: sep → border <:+ sep → border = sep

instance : Decidable (Unbordered sep) :=
  decidable_of_iff (sep ≠ [] ∧ ∀ border ∈ sep.inits, border ≠ [] → border <:+ sep → border = sep)
    ⟨fun h => ⟨h.left, fun border hne hpre => h.right border ((List.mem_inits _ _).mpr hpre) hne⟩,
     fun h => ⟨h.filled, fun border hpre hne => h.bordered border hne ((List.mem_inits _ _).mp hpre)⟩⟩

theorem free_singleton_iff : Free [c] cs ↔ c ∉ cs := by
  rw [Free, List.singleton_infix_iff]

-- A single character has no ends to overlap with.
theorem unbordered_singleton (c : Char) : Unbordered [c] where
  filled := List.cons_ne_nil c []
  bordered border hne hpre _ := ((List.infix_singleton_iff border c).mp hpre.isInfix).resolve_left hne

namespace Unbordered

variable (hs : Unbordered sep)
include hs

theorem free_nil : Free sep [] := by
  simpa [Free] using hs.filled

-- No occurrence starts in front of a separator and ends in it or behind it.
theorem isPrefixOf_join (b : Char) (before after : List Char) :
    sep.isPrefixOf (b :: (before ++ (sep ++ after))) = sep.isPrefixOf (b :: before) := by
  have happend : b :: before <+: b :: (before ++ (sep ++ after)) := List.prefix_append (b :: before) _
  rw [Bool.eq_iff_iff, List.isPrefixOf_iff_prefix, List.isPrefixOf_iff_prefix]
  refine ⟨fun h => ?_, fun h => h.trans happend⟩
  obtain h | ⟨border, rfl⟩ := List.prefix_or_prefix_of_prefix h happend
  case inl => exact h
  case inr =>
    -- The occurrence goes over by an end of the separator, which the separator begins with.
    have hsuf : border <:+ b :: before ++ border := List.suffix_append _ border
    have hpre : border <+: b :: before ++ border :=
      List.prefix_of_prefix_length_le ((List.prefix_append_right_inj (b :: before)).mp h)
        (List.prefix_append _ after) hsuf.length_le
    by_cases hnil : border = []
    case pos => simp [hnil]
    case neg =>
      have hborder := hs.bordered border hnil hpre hsuf
      exact absurd (List.self_eq_append_left.mp hborder) (List.cons_ne_nil b before)

-- No occurrence starts in a separator, but for its first character.
theorem occurrences_suffix {t : List Char} (ht : t <:+ sep) (hne : t ≠ sep) (after : List Char) :
    occurrences sep (t ++ after) = occurrences sep after := by
  induction t with
  | nil => rfl
  | cons c t hi =>
    have hnone : ¬sep.isPrefixOf (c :: (t ++ after)) := by
      intro h
      have hpre : c :: t <+: sep :=
        List.prefix_of_prefix_length_le (List.prefix_append _ after)
          (List.isPrefixOf_iff_prefix.mp h) ht.length_le
      exact hne (hs.bordered _ (List.cons_ne_nil _ _) hpre ht)
    have hlt : t.length < sep.length := ht.length_le
    have ht' : t <:+ sep := (List.suffix_cons c t).trans ht
    rw [List.cons_append, occurrences_cons, if_neg hnone, hi ht' (fun h => by simp [h] at hlt), Nat.add_zero]

theorem occurrences_separator (after : List Char) :
    occurrences sep (sep ++ after) = occurrences sep after + 1 := by
  have hpre : sep.isPrefixOf (sep ++ after) := List.isPrefixOf_iff_prefix.mpr (List.prefix_append _ _)
  match hsep : sep with
  | [] => exact absurd rfl hs.filled
  | s :: t =>
    rw [List.cons_append] at hpre ⊢
    rw [occurrences_cons, if_pos hpre, hs.occurrences_suffix (List.suffix_cons s t) (by simp) after]

-- Joining two texts adds one occurrence, and makes none where they meet.
theorem occurrences_join (before after : List Char) :
    occurrences sep (before ++ (sep ++ after)) = occurrences sep before + 1 + occurrences sep after := by
  induction before with
  | nil =>
    rw [List.nil_append, hs.occurrences_separator, occurrences_eq_zero_iff.mpr hs.free_nil]
    omega
  | cons b before hi =>
    rw [List.cons_append, occurrences_cons, occurrences_cons, hi, hs.isPrefixOf_join]
    omega

theorem cut_join (hb : Free sep before) (after : List Char) :
    cut sep (before ++ (sep ++ after)) = some (before, after) := by
  induction before with
  | nil =>
    have hpre : sep.isPrefixOf (sep ++ after) := List.isPrefixOf_iff_prefix.mpr (List.prefix_append _ _)
    rw [List.nil_append]
    cases hjoin : sep ++ after with
    | nil => exact absurd (List.append_eq_nil_iff.mp hjoin).left hs.filled
    | cons c cs => rw [cut, if_pos (hjoin ▸ hpre), ← hjoin, List.drop_left]
  | cons b before hi =>
    obtain ⟨hpre, hfree⟩ := free_cons_iff.mp hb
    rw [List.cons_append, cut, hs.isPrefixOf_join, hpre, hi hfree]
    rfl

theorem free_of_cut (h : cut sep cs = some (before, after)) : Free sep before := by
  have hcs := cut_eq_some h
  induction cs generalizing before with
  | nil => simp [cut, hs.filled] at h
  | cons c cs hi =>
    rw [cut] at h
    split at h
    case isTrue =>
      cases h
      exact hs.free_nil
    case isFalse hpre =>
      obtain ⟨⟨before', after'⟩, hcut, he⟩ := Option.map_eq_some_iff.mp h
      cases he
      refine free_cons_iff.mpr ⟨?_, hi hcut (cut_eq_some hcut)⟩
      rwa [hcs, List.append_assoc, List.cons_append, hs.isPrefixOf_join, Bool.not_eq_true] at hpre

-- A text is cut at the first occurrence.
theorem cut_eq_some_iff :
    cut sep cs = some (before, after) ↔ cs = before ++ (sep ++ after) ∧ Free sep before := by
  constructor
  case mp => exact fun h => ⟨by rw [cut_eq_some h, List.append_assoc], hs.free_of_cut h⟩
  case mpr => exact fun ⟨hcs, hb⟩ => hcs ▸ hs.cut_join hb after

theorem occurrences_of_cut (h : cut sep cs = some (before, after)) :
    occurrences sep cs = occurrences sep after + 1 := by
  have ⟨hcs, hb⟩ := hs.cut_eq_some_iff.mp h
  rw [hcs, hs.occurrences_join, occurrences_eq_zero_iff.mpr hb]
  omega

end Unbordered

end KernelRollout.Text
