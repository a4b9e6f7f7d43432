namespace KernelRollout.Text

-- What stands before and after the first occurrence of `sep`.
def cut (sep : List Char) : List Char → Option (List Char × List Char)
  | [] => if sep = [] then some ([], []) else none
  | c :: cs =>
    if sep.isPrefixOf (c :: cs) then some ([], (c :: cs).drop sep.length)
    else (cut sep cs).map fun (before, after) => (c :: before, after)

-- The separator does not occur.
def Free (sep cs : List Char) : Prop := ¬sep <:+: cs

theorem cut_eq_some {sep cs before after : List Char} (h : cut sep cs = some (before, after)) :
    cs = before ++ sep ++ after := by
  induction cs generalizing before with
  | nil =>
    simp only [cut] at h
    split at h <;> simp_all
  | cons c cs ih =>
    simp only [cut] at h
    split at h
    case isTrue hp =>
      obtain ⟨rest, hr⟩ := List.isPrefixOf_iff_prefix.mp hp
      simp only [Option.some.injEq, Prod.mk.injEq] at h
      obtain ⟨rfl, rfl⟩ := h
      simp [← hr]
    case isFalse =>
      obtain ⟨⟨b, a⟩, hb, he⟩ := Option.map_eq_some_iff.mp h
      simp only [Prod.mk.injEq] at he
      obtain ⟨rfl, rfl⟩ := he
      simp [ih hb]

theorem cut_eq_none_iff {sep cs : List Char} : cut sep cs = none ↔ Free sep cs := by
  induction cs with
  | nil => simp [cut, Free]
  | cons c cs ih =>
    simp only [cut]
    split
    case isTrue hp =>
      simp only [reduceCtorEq, Free, false_iff, Classical.not_not]
      exact (List.isPrefixOf_iff_prefix.mp hp).isInfix
    case isFalse hp =>
      rw [Option.map_eq_none_iff, ih, Free, Free, List.infix_cons_iff]
      simp [List.isPrefixOf_iff_prefix] at hp
      simp [hp]

end KernelRollout.Text
