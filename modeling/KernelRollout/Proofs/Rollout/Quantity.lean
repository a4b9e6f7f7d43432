import KernelRollout.Proofs.Text.Numeral
import KernelRollout.Rollout.Quantity
import Mathlib.Algebra.Order.Field.Basic
import Mathlib.Algebra.Order.Ring.Abs
import Mathlib.Data.List.TakeWhile
import Mathlib.Data.Rat.Cast.Order
import Mathlib.Tactic.Linarith
import Mathlib.Tactic.NormNum
import Mathlib.Tactic.Positivity

namespace KernelRollout

open Text (natOf)

namespace Quantity

variable {cs ds whole fraction : List Char} {v : ℚ}

-- The longest run of digits and points in front of a text.
structure Leads (ds cs : List Char) : Prop where
  chars : ∀ c ∈ ds, c.isDigit = true ∨ c = '.'
  ends  : ∃ rest, cs = ds ++ rest ∧ ∀ c ∈ rest.head?, ¬(c.isDigit = true ∨ c = '.')

structure IsDecimal (ds : List Char) : Prop where
  digit : ∃ d ∈ ds, d.isDigit = true
  point : ds.count '.' ≤ 1

def wholeDigits (ds : List Char) : List Char := ds.takeWhile (· ≠ '.')

def fractionDigits (ds : List Char) : List Char := (ds.dropWhile (· ≠ '.')).drop 1

-- What stands behind the point counts in tenths, hundredths and so on.
def value (ds : List Char) : ℚ :=
  natOf (wholeDigits ds) + natOf (fractionDigits ds) / 10 ^ (fractionDigits ds).length

theorem value_nonneg (ds : List Char) : 0 ≤ value ds := by
  unfold value
  positivity

theorem isNumeralChar_iff {c : Char} : isNumeralChar c = true ↔ c.isDigit = true ∨ c = '.' := by
  simp [isNumeralChar]

theorem leads_iff : Leads ds cs ↔ cs.takeWhile isNumeralChar = ds := by
  constructor
  case mp =>
    intro ⟨hchars, rest, hcs, hrest⟩
    have hnone : rest.takeWhile isNumeralChar = [] := by
      cases rest with
      | nil => rfl
      | cons c cs => exact List.takeWhile_cons_of_neg (mt isNumeralChar_iff.mp (hrest c rfl))
    rw [hcs, List.takeWhile_append_of_pos fun c hc => isNumeralChar_iff.mpr (hchars c hc), hnone,
      List.append_nil]
  case mpr =>
    rintro rfl
    refine ⟨fun c hc => isNumeralChar_iff.mp (List.mem_takeWhile_imp hc),
      cs.dropWhile isNumeralChar, List.takeWhile_append_dropWhile.symm, fun c hc => ?_⟩
    have hnot := List.head?_dropWhile_not isNumeralChar cs
    rw [hc] at hnot
    simpa [← isNumeralChar_iff] using hnot

-- A text of digits and points has digits alone, or digits up to a first point.
inductive Pointed : List Char → Prop
  | digits (whole : List Char) (hw : ∀ c ∈ whole, c.isDigit = true) : Pointed whole
  | point (whole fraction : List Char) (hw : ∀ c ∈ whole, c.isDigit = true) :
    Pointed (whole ++ '.' :: fraction)

theorem pointed (h : ∀ c ∈ ds, c.isDigit = true ∨ c = '.') : Pointed ds := by
  induction ds with
  | nil => exact .digits [] (by simp)
  | cons c ds hi =>
    have ⟨hc, hds⟩ := List.forall_mem_cons.mp h
    cases hc
    case inr hc =>
      subst hc
      exact .point [] ds (by simp)
    case inl hc =>
      cases hi hds with
      | digits _ hw => exact .digits (c :: ds) (List.forall_mem_cons.mpr ⟨hc, hw⟩)
      | point whole fraction hw =>
        exact .point (c :: whole) fraction (List.forall_mem_cons.mpr ⟨hc, hw⟩)

theorem ne_point_of_isDigit {c : Char} (h : c.isDigit = true) : c ≠ '.' := by
  rintro rfl
  cases h

-- Digits up to a point, or to the end, are taken whichever of the two is looked for.
theorem takeWhile_point {p : Char → Bool} (hw : ∀ c ∈ whole, p c = true) (hp : p '.' = false)
    (fraction : List Char) :
    (whole ++ '.' :: fraction).takeWhile p = whole ∧
      (whole ++ '.' :: fraction).dropWhile p = '.' :: fraction := by
  rw [List.takeWhile_append_of_pos hw, List.dropWhile_append_of_pos hw]
  simp [hp]

theorem count_point (hw : ∀ c ∈ ds, c.isDigit = true) : ds.count '.' = 0 :=
  List.count_eq_zero.mpr fun hm => ne_point_of_isDigit (hw _ hm) rfl

theorem isDecimal_digits_iff (hw : ∀ c ∈ ds, c.isDigit = true) : IsDecimal ds ↔ ds ≠ [] := by
  have hnone := count_point hw
  constructor
  case mp  => exact fun ⟨⟨_, hd, _⟩, _⟩ => List.ne_nil_of_mem hd
  case mpr => exact fun hds => ⟨⟨_, List.head_mem hds, hw _ (List.head_mem hds)⟩, by omega⟩

theorem isDecimal_point_iff (hw : ∀ c ∈ whole, c.isDigit = true)
    (hf : ∀ c ∈ fraction, c.isDigit = true ∨ c = '.') :
    IsDecimal (whole ++ '.' :: fraction) ↔
      whole ++ fraction ≠ [] ∧ ∀ c ∈ fraction, c.isDigit = true := by
  have hcount : (whole ++ '.' :: fraction).count '.' = fraction.count '.' + 1 := by
    rw [List.count_append, count_point hw, List.count_cons_self, Nat.zero_add]
  constructor
  case mp =>
    intro ⟨⟨d, hd, hdigit⟩, hpoint⟩
    rw [hcount] at hpoint
    have hnone : '.' ∉ fraction := List.count_eq_zero.mp (by omega)
    refine ⟨List.ne_nil_of_mem (a := d) ?_, fun c hc => (hf c hc).resolve_right ?_⟩
    · simpa [ne_point_of_isDigit hdigit] using hd
    · exact fun hpoint => hnone (hpoint ▸ hc)
  case mpr =>
    intro ⟨hne, hdigits⟩
    have ⟨d, hd⟩ := List.exists_mem_of_ne_nil _ hne
    refine ⟨⟨d, ?_, (List.mem_append.mp hd).elim (hw d) (hdigits d)⟩, ?_⟩
    · simpa using (List.mem_append.mp hd).imp_right .inr
    · rw [hcount, count_point hdigits]

theorem parts?_eq_some_iff (h : ∀ c ∈ ds, c.isDigit = true ∨ c = '.') {p : List Char × List Char} :
    parts? ds = some p ↔ IsDecimal ds ∧ (wholeDigits ds, fractionDigits ds) = p := by
  cases pointed h with
  | digits _ hw =>
    have hpoint : ∀ c ∈ ds, decide (c ≠ '.') = true :=
      fun c hc => decide_eq_true (ne_point_of_isDigit (hw c hc))
    rw [isDecimal_digits_iff hw, parts?, wholeDigits, fractionDigits,
      List.takeWhile_eq_self_iff.mpr hw, List.dropWhile_eq_nil_iff.mpr hw,
      List.takeWhile_eq_self_iff.mpr hpoint, List.dropWhile_eq_nil_iff.mpr hpoint]
    cases ds <;> simp
  | point whole fraction hw =>
    have hf : ∀ c ∈ fraction, c.isDigit = true ∨ c = '.' := fun c hc => h c (by simp [hc])
    have ⟨hwhole, hrest⟩ := takeWhile_point hw rfl fraction
    have ⟨hwhole', hrest'⟩ := takeWhile_point
      (fun c hc => decide_eq_true (ne_point_of_isDigit (hw c hc))) rfl fraction
    rw [isDecimal_point_iff hw hf, parts?, wholeDigits, fractionDigits, hwhole, hrest, hwhole',
      hrest', List.drop_one, List.tail_cons]
    simp [and_assoc]

theorem natOf_append (ds es : List Char) : natOf (ds ++ es) = natOf ds * 10 ^ es.length + natOf es := by
  simp only [Text.natOf_eq_ofDigitChars, Nat.ofDigitChars_append]
  rw [Nat.ofDigitChars_eq_ofDigitChars_zero, Nat.mul_comm]

theorem positive_iff : positive whole fraction = true ↔
    1 / 2 ^ 1075 < (natOf whole + natOf fraction / 10 ^ fraction.length : ℚ) := by
  unfold positive
  generalize 1075 = k
  rw [decide_eq_true_iff, natOf_append]
  have hten : (0 : ℚ) < 10 ^ fraction.length := by positivity
  have htwo : (0 : ℚ) < 2 ^ k := by positivity
  rw [div_lt_iff₀ htwo, ← mul_lt_mul_iff_left₀ hten, one_mul]
  have hsum : ((natOf whole + natOf fraction / 10 ^ fraction.length : ℚ) * 2 ^ k) * 10 ^ fraction.length =
      ((natOf whole * 10 ^ fraction.length + natOf fraction) * 2 ^ k : ℕ) := by
    push_cast
    rw [mul_right_comm, add_mul, div_mul_cancel₀ _ hten.ne']
  rw [hsum]
  simp only [Nat.pow_eq]
  norm_cast

-- Zero and the positive doubles that are finite.
def IsDouble (x : ℚ) : Prop := ∃ m k : ℕ, m < 2 ^ 53 ∧ k ≤ 2045 ∧ x = m * 2 ^ k / 2 ^ 1074

-- No double is nearer than zero, which is even and takes what lies half way.
def Vanishes (v : ℚ) : Prop := ∀ x, IsDouble x → |0 - v| ≤ |x - v|

theorem IsDouble.smallest : IsDouble (1 / 2 ^ 1074) := ⟨1, 0, by norm_num, by norm_num, by norm_num⟩

theorem IsDouble.zero_or_le {x : ℚ} (h : IsDouble x) : x = 0 ∨ 1 / 2 ^ 1074 ≤ x := by
  have ⟨m, k, _, _, hx⟩ := h
  cases m with
  | zero => exact .inl (by simpa using hx)
  | succ m =>
    right
    have hone : 1 ≤ (m + 1) * 2 ^ k := Nat.mul_pos (Nat.succ_pos m) (Nat.two_pow_pos k)
    rw [hx]
    gcongr
    exact_mod_cast hone

theorem half_add_half (k : ℕ) : (1 / 2 ^ (k + 1) + 1 / 2 ^ (k + 1) : ℚ) = 1 / 2 ^ k := by
  rw [pow_succ, ← div_div, add_halves]

-- What is not above half of the least double is no nearer to that one than to zero.
theorem vanishes_iff (hv : 0 ≤ v) : Vanishes v ↔ v ≤ 1 / 2 ^ 1075 := by
  have hhalves : (1 / 2 ^ 1075 + 1 / 2 ^ 1075 : ℚ) = 1 / 2 ^ 1074 := half_add_half 1074
  have hpos : (0 : ℚ) < 1 / 2 ^ 1074 := by positivity
  have hleast := IsDouble.smallest
  have hdoubles := fun x hx => IsDouble.zero_or_le (x := x) hx
  generalize (1 / 2 ^ 1074 : ℚ) = least at hhalves hpos hleast hdoubles
  generalize (1 / 2 ^ 1075 : ℚ) = half at hhalves ⊢
  rw [Vanishes, zero_sub, abs_neg, abs_of_nonneg hv]
  constructor
  case mp =>
    intro h
    have hnear := h least hleast
    cases abs_cases (least - v) <;> linarith
  case mpr =>
    intro h x hx
    cases hdoubles x hx
    case inl hx => rw [hx, zero_sub, abs_neg, abs_of_nonneg hv]
    case inr hx => linarith [le_abs_self (x - v)]

-- An amount starts with a numeral of a number that is not rounded to zero.
structure Counts (ds cs : List Char) : Prop where
  leads   : Leads ds cs
  decimal : IsDecimal ds
  lasts   : ¬Vanishes (value ds)

theorem nonzero_iff {raw : String} : nonzero raw = true ↔ ∃ ds, Counts ds (Text.trim raw) := by
  have hleads : Leads (numeral raw) (Text.trim raw) := leads_iff.mpr rfl
  have hvalue := vanishes_iff (value_nonneg (numeral raw))
  constructor
  case mp =>
    intro h
    unfold nonzero at h
    split at h
    case h_1 whole fraction hparts =>
      have ⟨hdecimal, hp⟩ := (parts?_eq_some_iff hleads.chars).mp hparts
      cases hp
      exact ⟨_, hleads, hdecimal, fun hv => (hvalue.mp hv).not_gt (positive_iff.mp h)⟩
    case h_2 => cases h
  case mpr =>
    intro ⟨ds, hds, hdecimal, hlasts⟩
    cases leads_iff.mp hds
    rw [nonzero, (parts?_eq_some_iff hleads.chars).mpr ⟨hdecimal, rfl⟩]
    exact positive_iff.mpr (not_le.mp (mt hvalue.mpr hlasts))

end Quantity

-- A limit is an amount of its own only where nothing is requested.
inductive Container.Asks (c : Container) (resource amount : String) : Prop
  | request {r : ResourceRequirements} {requests : Labels} (hr : c.resources = some r)
    (hq : r.requests = some requests) (h : requests.get? resource = some amount)
  | limit {r : ResourceRequirements} {limits : Labels} (hr : c.resources = some r)
    (hq : ∀ requests ∈ r.requests, requests.get? resource = none)
    (hl : r.limits = some limits) (h : limits.get? resource = some amount)

theorem Container.asks_iff {c : Container} {resource amount : String} :
    c.Asks resource amount ↔ c.resources.bind (·.amount? resource) = some amount := by
  constructor
  case mp =>
    intro h
    cases h with
    | request hr hq h =>
      simp [hr, ResourceRequirements.amount?, hq, h]
    | limit hr hq hl h =>
      rw [hr, Option.bind_some, ResourceRequirements.amount?, Option.bind_eq_none_iff.mpr hq, hl,
        Option.none_or, Option.bind_some, h]
  case mpr =>
    intro h
    obtain ⟨r, hr, hamount⟩ := Option.bind_eq_some_iff.mp h
    cases Option.or_eq_some_iff.mp hamount
    case inl hrequest =>
      obtain ⟨_, hq, h⟩ := Option.bind_eq_some_iff.mp hrequest
      exact .request hr hq h
    case inr hlimit =>
      obtain ⟨_, hl, h⟩ := Option.bind_eq_some_iff.mp hlimit.right
      exact .limit hr (Option.bind_eq_none_iff.mp hlimit.left) hl h

inductive Pod.Runs (p : Pod) (c : Container) : Prop
  | container {s : PodSpec} (hs : p.spec = some s) (hc : c ∈ s.containers)
  | initContainer {s : PodSpec} {inits : List Container} (hs : p.spec = some s)
    (hi : s.initContainers = some inits) (hc : c ∈ inits)

theorem Pod.runs_iff {p : Pod} {c : Container} : p.Runs c ↔ c ∈ p.allContainers := by
  constructor
  case mp =>
    intro h
    cases h with
    | container hs hc        => simp [allContainers, hs, hc]
    | initContainer hs hi hc => simp [allContainers, hs, hi, hc]
  case mpr =>
    intro h
    unfold allContainers at h
    split at h
    case h_1 => cases h
    case h_2 s hs =>
      cases List.mem_append.mp h
      case inl hc => exact .container hs hc
      case inr hc =>
        cases hi : s.initContainers with
        | none       => simp [hi] at hc
        | some inits => exact .initContainer hs hi (by simpa [hi] using hc)

namespace Pod

-- No amount that counts for nothing hides another one, in whichever container that is.
theorem requestsOnload_iff (p : Pod) :
    (p.requestsOnload = true ↔ ∃ c amount ds, p.Runs c ∧ c.Asks "amd.com/onload" amount ∧
      Quantity.Counts ds (Text.trim amount)) ∧
    ∀ ds, ¬Quantity.Vanishes (Quantity.value ds) ↔ 1 / 2 ^ 1075 < Quantity.value ds := by
  refine ⟨?_, fun ds => (not_congr (Quantity.vanishes_iff (Quantity.value_nonneg ds))).trans not_le⟩
  simp only [requestsOnload, onloadResource, List.any_eq_true, Option.any_eq_true,
    Quantity.nonzero_iff, ← Container.asks_iff, ← runs_iff]
  constructor
  case mp =>
    intro ⟨c, hc, amount, hasks, ds, hds⟩
    exact ⟨c, amount, ds, hc, hasks, hds⟩
  case mpr =>
    intro ⟨c, amount, ds, hc, hasks, hds⟩
    exact ⟨c, hc, amount, hasks, ds, hds⟩

end Pod

end KernelRollout
