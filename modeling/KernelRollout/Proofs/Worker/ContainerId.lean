import KernelRollout.Proofs.Text.Occurrences
import KernelRollout.Worker.ContainerId

namespace KernelRollout.ContainerId

open Text (Free occurrences Unbordered)

variable {raw : String} {c : ContainerId}

-- The identifier as container statuses have it.
def text (c : ContainerId) : String := c.runtime ++ "://" ++ c.id

-- Neither part has a separator in it.
structure Divided (c : ContainerId) : Prop where
  runtime : Free separator c.runtime.toList
  id      : Free separator c.id.toList

theorem unbordered_separator : Unbordered separator := by
  decide

theorem toList_text (c : ContainerId) :
    c.text.toList = c.runtime.toList ++ (separator ++ c.id.toList) := by
  simp [text, separator]

theorem parse_text (h : c.Divided) : parse c.text = .ok c := by
  have hcut := unbordered_separator.cut_join h.runtime c.id.toList
  have hnone := Text.cut_eq_none_iff.mpr h.id
  rw [parse, toList_text, hcut]
  simp only [hnone, String.ofList_toList]

theorem text_of_parse (h : parse raw = .ok c) : c.text = raw ∧ c.Divided := by
  rw [parse] at h
  split at h
  case h_1 => cases h
  case h_2 runtime id hcut =>
    split at h
    case h_2 => cases h
    case h_1 hnone =>
      cases h
      have ⟨hraw, hruntime⟩ := unbordered_separator.cut_eq_some_iff.mp hcut
      refine ⟨String.toList_inj.mp ?_, ?_, ?_⟩
      · rw [toList_text, hraw, String.toList_ofList, String.toList_ofList]
      · rwa [String.toList_ofList]
      · rwa [String.toList_ofList, ← Text.cut_eq_none_iff]

theorem exists_parse_of_occurrences (h : occurrences separator raw.toList = 1) :
    ∃ c, parse raw = .ok c := by
  cases hcut : Text.cut separator raw.toList with
  | none => simp [Text.occurrences_eq_zero_iff.mpr (Text.cut_eq_none_iff.mp hcut)] at h
  | some parts =>
    obtain ⟨runtime, id⟩ := parts
    have hid : occurrences separator id = 0 := by
      have hsome := unbordered_separator.occurrences_of_cut hcut
      omega
    have hnone := Text.cut_eq_none_iff.mpr (Text.occurrences_eq_zero_iff.mp hid)
    refine ⟨⟨String.ofList runtime, String.ofList id⟩, ?_⟩
    rw [parse, hcut]
    simp only [hnone]

theorem occurrences_text (h : c.Divided) : occurrences separator c.text.toList = 1 := by
  rw [toList_text, unbordered_separator.occurrences_join, Text.occurrences_eq_zero_iff.mpr h.runtime,
    Text.occurrences_eq_zero_iff.mpr h.id]

-- A text that cannot be read is given back in the error.
theorem error_of_parse {e : WorkerError} (h : parse raw = .error e) : e = .invalidContainerId raw := by
  rw [parse] at h
  split at h
  case h_1 => exact (Except.error.inj h).symm
  case h_2 =>
    split at h
    case h_1 => cases h
    case h_2 => exact (Except.error.inj h).symm

-- The separator occurs exactly once in the texts that are read, and joining two parts makes none but
-- the one that they are joined by.
theorem parse_exact (raw : String) :
    ((∃ c, parse raw = .ok c) ↔ occurrences separator raw.toList = 1) ∧
    (∀ c, parse raw = .ok c → c.text = raw) ∧
    (occurrences separator raw.toList ≠ 1 → parse raw = .error (.invalidContainerId raw)) ∧
    ∀ c : ContainerId, c.Divided → parse c.text = .ok c := by
  refine ⟨⟨fun ⟨c, hc⟩ => ?_, exists_parse_of_occurrences⟩, fun c hc => (text_of_parse hc).left,
    fun hne => ?_, fun c => parse_text⟩
  · have ⟨htext, hdivided⟩ := text_of_parse hc
    exact htext ▸ occurrences_text hdivided
  · cases hparse : parse raw with
    | error e => rw [error_of_parse hparse]
    | ok c =>
      have ⟨htext, hdivided⟩ := text_of_parse hparse
      exact absurd (htext ▸ occurrences_text hdivided) hne

-- The parts end and begin with characters of the separator, and the other text has two separators.
theorem parse_exact_seams :
    ∃ c : ContainerId, c.text = "cri:/:///b" ∧ c.Divided ∧ parse c.text = .ok c ∧
      occurrences separator c.text.toList = 1 ∧ occurrences separator "a://b://c".toList ≠ 1 ∧
      parse "a://b://c" = .error (.invalidContainerId "a://b://c") := by
  let c : ContainerId := ⟨"cri:/", "/b"⟩
  have hdivided : c.Divided := ⟨by decide, by decide⟩
  have ⟨hiff, _, _, hread⟩ := parse_exact c.text
  have hc := hread c hdivided
  have htwice : occurrences separator "a://b://c".toList ≠ 1 := by decide
  exact ⟨c, by decide, hdivided, hc, hiff.mp ⟨c, hc⟩, htwice, (parse_exact _).right.right.left htwice⟩

end KernelRollout.ContainerId
