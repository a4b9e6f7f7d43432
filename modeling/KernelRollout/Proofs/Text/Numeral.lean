import KernelRollout.Text.Blank
import KernelRollout.Text.Numeral
import KernelRollout.Text.Scan
import Mathlib.Algebra.Group.Nat.Defs

namespace KernelRollout.Text

variable {width n : Nat} {c : Char} {ds rest : List Char}

theorem natOf_eq_ofDigitChars (ds : List Char) : natOf ds = Nat.ofDigitChars 10 ds 0 := by
  simp only [natOf, digitValue, Nat.ofDigitChars_eq_foldl, Nat.mul_comm]

theorem isDigit_of_mem_repr (h : c ∈ n.repr.toList) : c.isDigit :=
  Nat.isDigit_of_mem_toDigits (by decide) (by decide) (Nat.toList_repr ▸ h)

theorem natOf_repr (n : Nat) : natOf n.repr.toList = n := by
  rw [natOf_eq_ofDigitChars, Nat.toList_repr, Nat.ofDigitChars_ten_toDigits]

theorem repr_injective : Function.Injective Nat.repr :=
  Function.LeftInverse.injective (g := fun s : String => natOf s.toList) natOf_repr

-- No numeral starts with a sign, so that numbers below zero have numerals of their own.
theorem repr_int_injective : Function.Injective Int.repr := by
  have hsign (m n : Nat) : "-" ++ m.repr ≠ n.repr := fun h => by
    have hmem : '-' ∈ n.repr.toList := by simp [← h, String.toList_append]
    exact absurd (isDigit_of_mem_repr hmem) (by decide)
  intro a b h
  rw [Int.repr_eq_if, Int.repr_eq_if] at h
  split at h <;> split at h
  case isTrue.isTrue =>
    have hnat := repr_injective h
    omega
  case isTrue.isFalse => exact absurd h.symm (hsign _ _)
  case isFalse.isTrue => exact absurd h (hsign _ _)
  case isFalse.isFalse =>
    have hnat := repr_injective ((String.append_right_inj _).mp h)
    omega

-- Zeros behind the digits count as places.
theorem natOf_append_zeros (ds : List Char) (k : Nat) :
    natOf (ds ++ List.replicate k '0') = natOf ds * 10 ^ k := by
  rw [natOf_eq_ofDigitChars, natOf_eq_ofDigitChars, Nat.ofDigitChars_append,
    Nat.ofDigitChars_replicate_zero, Nat.mul_comm]

theorem toList_pushn (s : String) (c : Char) (n : Nat) :
    (s.pushn c n).toList = s.toList ++ List.replicate n c := by
  induction n with
  | zero => exact (List.append_nil _).symm
  | succ n hi =>
    rw [String.pushn_eq_repeat_push] at hi ⊢
    rw [Nat.repeat, String.toList_push, hi, List.append_assoc, List.replicate_succ']

theorem toList_padded (width n : Nat) :
    (padded width n).toList = List.replicate (width - n.repr.length) '0' ++ n.repr.toList := by
  simp only [padded, Nat.toString_eq_repr, String.toList_append, toList_pushn, String.toList_empty,
    List.nil_append]

theorem isDigit_of_mem_padded (h : c ∈ (padded width n).toList) : c.isDigit := by
  rw [toList_padded, List.mem_append, List.mem_replicate] at h
  cases h
  case inl h => exact h.right ▸ rfl
  case inr h => exact isDigit_of_mem_repr h

theorem natOf_padded (width n : Nat) : natOf (padded width n).toList = n := by
  rw [natOf_eq_ofDigitChars, toList_padded, Nat.ofDigitChars_append,
    Nat.ofDigitChars_replicate_zero, Nat.mul_zero, ← natOf_eq_ofDigitChars, natOf_repr]

theorem length_padded (hw : 0 < width) (h : n < 10 ^ width) : (padded width n).toList.length = width := by
  have hle := (Nat.length_repr_le_iff hw).mpr h
  rw [toList_padded, List.length_append, List.length_replicate, String.length_toList]
  omega

-- A numeral starts with a digit.
theorem exists_padded (width n : Nat) : ∃ c cs, (padded width n).toList = c :: cs ∧ c.isDigit := by
  cases h : (padded width n).toList with
  | nil =>
    rw [toList_padded] at h
    exact absurd (String.toList_eq_nil_iff.mp (List.append_eq_nil_iff.mp h).right) Nat.repr_ne_empty
  | cons c cs => exact ⟨c, cs, rfl, isDigit_of_mem_padded (h ▸ List.mem_cons_self)⟩

theorem isEmpty_padded (width n : Nat) : (padded width n).toList.isEmpty = false := by
  have ⟨c, cs, h, _⟩ := exists_padded width n
  rw [h]
  rfl

-- What follows a numeral, so that it ends there.
def NoDigit (rest : List Char) : Prop := ∀ c ∈ rest.head?, c.isDigit = false

theorem NoDigit.cons (h : c.isDigit = false) (rest : List Char) : NoDigit (c :: rest) := by
  rintro _ ⟨⟩
  exact h

theorem takeWhile_digits (hds : ∀ c ∈ ds, c.isDigit) (hrest : NoDigit rest) :
    (ds ++ rest).takeWhile Char.isDigit = ds := by
  have hnone : rest.takeWhile Char.isDigit = [] := by
    cases rest with
    | nil => rfl
    | cons c cs => exact List.takeWhile_cons_of_neg (by simp [hrest c rfl])
  rw [List.takeWhile_append_of_pos hds, hnone, List.append_nil]

-- Zeros in front do not matter, and the numeral ends where its digits end.
theorem scanNat_padded (width n : Nat) (hrest : NoDigit rest) :
    scanNat ((padded width n).toList ++ rest) = some (n, rest) := by
  simp only [scanNat, takeWhile_digits (fun _ => isDigit_of_mem_padded) hrest, isEmpty_padded,
    natOf_padded, List.drop_left]
  rfl

-- As many digits as may be scanned.
theorem scanDigits_padded (hw : 0 < width) (h : n < 10 ^ width) (rest : List Char) :
    scanDigits width ((padded width n).toList ++ rest) = some (n, rest) := by
  have htake : ((padded width n).toList ++ rest).take width = (padded width n).toList :=
    List.take_left' (length_padded hw h)
  have hds : (padded width n).toList.takeWhile Char.isDigit = (padded width n).toList := by
    simpa using takeWhile_digits (fun _ => isDigit_of_mem_padded) (show NoDigit [] from nofun)
  simp only [scanDigits, htake, hds, isEmpty_padded, natOf_padded, List.drop_left]
  rfl

theorem isBlank_of_isDigit (h : c.isDigit) : isBlank c = false := by
  have hc : 48 ≤ c.toNat ∧ c.toNat ≤ 57 := by simpa [Char.isDigit, UInt32.le_iff_toNat_le] using h
  simp [isBlank, blankRanges]
  omega

theorem trimStart_of_isBlank (h : isBlank c = false) (rest : List Char) :
    trimStart (c :: rest) = c :: rest :=
  List.dropWhile_cons_of_neg (by simp [h])

theorem trimStart_padded (width n : Nat) (rest : List Char) :
    trimStart ((padded width n).toList ++ rest) = (padded width n).toList ++ rest := by
  have ⟨c, cs, h, hc⟩ := exists_padded width n
  rw [h, List.cons_append, trimStart_of_isBlank (isBlank_of_isDigit hc)]

variable {bound acc : Nat} {cs : List Char}

-- Numerals, with the numbers that they stand for: one or more digits, and perhaps a plus sign.
inductive Numeral : List Char → Nat → Prop
  | unsigned {ds : List Char} (hne : ds ≠ []) (hds : ∀ c ∈ ds, c.isDigit) : Numeral ds (natOf ds)
  | signed {ds : List Char} (hne : ds ≠ []) (hds : ∀ c ∈ ds, c.isDigit) : Numeral ('+' :: ds) (natOf ds)

theorem le_ofDigitChars (acc : Nat) (ds : List Char) : acc ≤ Nat.ofDigitChars 10 ds acc := by
  rw [Nat.ofDigitChars_eq_ofDigitChars_zero]
  have hpos : 0 < 10 ^ ds.length := Nat.pow_pos (by decide)
  exact Nat.le_trans (Nat.le_mul_of_pos_left acc hpos) (Nat.le_add_right _ _)

-- Numbers only grow from digit to digit, so that all of them are below the bound if the last one is.
theorem readDigits_eq_ok_iff (hne : ds ≠ []) : readDigits bound acc ds = .ok n ↔
    (∀ c ∈ ds, c.isDigit) ∧ Nat.ofDigitChars 10 ds acc = n ∧ n < bound := by
  induction ds generalizing acc with
  | nil => exact absurd rfl hne
  | cons d ds hi =>
    have hle := le_ofDigitChars (acc * 10 + digitValue d) ds
    have hcons : Nat.ofDigitChars 10 (d :: ds) acc = Nat.ofDigitChars 10 ds (acc * 10 + digitValue d) := by
      rw [Nat.ofDigitChars_cons, digitValue, Nat.mul_comm]
    simp only [List.forall_mem_cons, readDigits, hcons]
    split
    case isFalse hd => simp [hd]
    case isTrue hd =>
      split
      case isFalse hbound =>
        refine ⟨nofun, fun ⟨_, hn, hlt⟩ => ?_⟩
        omega
      case isTrue hbound =>
        by_cases hds : ds = []
        case pos =>
          subst hds
          simp only [readDigits, Nat.ofDigitChars_nil, Except.ok.injEq, hd, List.not_mem_nil]
          grind
        case neg => rw [hi hds, and_iff_right hd]

-- A digit is no sign.
theorem readNumeral_unsigned (hne : ds ≠ []) (hds : ∀ c ∈ ds, c.isDigit) :
    readNumeral bound ds = readDigits bound 0 ds := by
  have hsign (cs : List Char) : ds ≠ '+' :: cs := by
    rintro rfl
    exact absurd (hds '+' List.mem_cons_self) (by decide)
  exact readNumeral.eq_4 _ _ hne (hsign []) hsign

theorem readNumeral_signed (hne : ds ≠ []) : readNumeral bound ('+' :: ds) = readDigits bound 0 ds :=
  readNumeral.eq_3 _ _ fun h => hne h

-- Exactly the numerals of the numbers below the bound are read.
theorem readNumeral_eq_ok_iff : readNumeral bound cs = .ok n ↔ Numeral cs n ∧ n < bound := by
  constructor
  case mp =>
    intro h
    rw [readNumeral.eq_def] at h
    split at h
    case h_1 | h_2 => cases h
    case h_3 ds hne =>
      have hne : ds ≠ [] := fun hnil => hne (by rw [hnil])
      have ⟨hds, hn, hlt⟩ := (readDigits_eq_ok_iff hne).mp h
      exact ⟨hn ▸ natOf_eq_ofDigitChars ds ▸ .signed hne hds, hlt⟩
    case h_4 hne _ _ =>
      have ⟨hds, hn, hlt⟩ := (readDigits_eq_ok_iff hne).mp h
      exact ⟨hn ▸ natOf_eq_ofDigitChars cs ▸ .unsigned hne hds, hlt⟩
  case mpr =>
    rintro ⟨h, hlt⟩
    cases h with
    | unsigned hne hds =>
      rw [readNumeral_unsigned hne hds, readDigits_eq_ok_iff hne]
      exact ⟨hds, (natOf_eq_ofDigitChars _).symm, hlt⟩
    | signed hne hds =>
      rw [readNumeral_signed hne, readDigits_eq_ok_iff hne]
      exact ⟨hds, (natOf_eq_ofDigitChars _).symm, hlt⟩

end KernelRollout.Text
