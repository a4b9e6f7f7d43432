import KernelRollout.Text.Blank

namespace KernelRollout.Text

variable {s : String} {cs : List Char}

-- What is left of a text without the blanks at its ends.
structure Trimmed (s : String) (cs : List Char) : Prop where
  split : ∃ before after, s.toList = before ++ (cs ++ after) ∧
    (∀ c ∈ before, isBlank c) ∧ ∀ c ∈ after, isBlank c
  head  : ∀ c ∈ cs.head?, isBlank c = false
  last  : ∀ c ∈ cs.getLast?, isBlank c = false

theorem dropWhile_eq_iff {p : Char → Bool} {cs rest : List Char} :
    cs.dropWhile p = rest ↔
      ∃ before, cs = before ++ rest ∧ (∀ c ∈ before, p c) ∧ ∀ c ∈ rest.head?, p c = false := by
  constructor
  case mp =>
    rintro rfl
    refine ⟨cs.takeWhile p, List.takeWhile_append_dropWhile.symm, List.all_eq_true.mp List.all_takeWhile, ?_⟩
    intro c hc
    have h := List.head?_dropWhile_not p cs
    rw [Option.mem_def.mp hc] at h
    exact h
  case mpr =>
    rintro ⟨before, rfl, hbefore, hhead⟩
    rw [List.dropWhile_append_of_pos hbefore]
    cases rest with
    | nil => rfl
    | cons c rest => exact List.dropWhile_cons_of_neg (by simp [hhead c rfl])

theorem trimEnd_eq_iff {rest : List Char} : trimEnd cs = rest ↔
    ∃ after, cs = rest ++ after ∧ (∀ c ∈ after, isBlank c) ∧ ∀ c ∈ rest.getLast?, isBlank c = false := by
  rw [trimEnd, List.reverse_eq_iff, dropWhile_eq_iff, List.head?_reverse]
  constructor
  case mp =>
    rintro ⟨before, hcs, hbefore, hlast⟩
    exact ⟨before.reverse, by simpa using congrArg List.reverse hcs, by simpa using hbefore, hlast⟩
  case mpr =>
    rintro ⟨after, rfl, hafter, hlast⟩
    exact ⟨after.reverse, List.reverse_append, by simpa using hafter, hlast⟩

-- Trimming takes the blanks from both ends of a text and leaves the rest as it is.
theorem trim_eq_iff : trim s = cs ↔ Trimmed s cs := by
  rw [trim]
  constructor
  case mp =>
    intro h
    have ⟨before, hsplit, hbefore, hhead⟩ := dropWhile_eq_iff.mp (show trimStart s.toList = _ from rfl)
    have ⟨after, hstart, hafter, hlast⟩ := trimEnd_eq_iff.mp h
    rw [hstart] at hsplit hhead
    refine ⟨⟨before, after, hsplit, hbefore, hafter⟩, fun c hc => hhead c ?_, hlast⟩
    rw [List.head?_append, Option.mem_def.mp hc]
    rfl
  case mpr =>
    rintro ⟨⟨before, after, hsplit, hbefore, hafter⟩, hhead, hlast⟩
    cases cs with
    | nil =>
      -- Blanks alone are all taken from the start.
      have hstart : trimStart s.toList = [] := dropWhile_eq_iff.mpr
        ⟨before ++ after, by simp [hsplit], List.forall_mem_append.mpr ⟨hbefore, hafter⟩, nofun⟩
      rw [hstart]
      rfl
    | cons c cs =>
      have hstart : trimStart s.toList = c :: cs ++ after :=
        dropWhile_eq_iff.mpr ⟨before, hsplit, hbefore, hhead⟩
      rw [hstart]
      exact trimEnd_eq_iff.mpr ⟨after, rfl, hafter, hlast⟩

theorem trim_eq_nil_iff : trim s = [] ↔ allBlank s = true := by
  rw [trim_eq_iff, allBlank, List.all_eq_true]
  constructor
  case mp =>
    rintro ⟨⟨before, after, hsplit, hbefore, hafter⟩, _, _⟩
    exact hsplit ▸ List.forall_mem_append.mpr ⟨hbefore, hafter⟩
  case mpr => exact fun h => ⟨⟨s.toList, [], by simp, h, nofun⟩, nofun, nofun⟩

end KernelRollout.Text
