import KernelRollout.Proofs.Text.Numeral
import KernelRollout.Time.Timestamp

namespace KernelRollout.Timestamp

open Text

variable {r : Reading} {c : Char} {n : Nat} {rest : List Char}

theorem skipPart_cons (h : isBlank c = false) (rest : List Char) :
    skipPart c (c :: rest) = some rest := by
  rw [skipPart, trimStart_of_isBlank h, skip, if_pos rfl]

theorem scanPart_padded (h : n < 100) (rest : List Char) :
    scanPart ((padded 2 n).toList ++ rest) = some (n, rest) := by
  rw [scanPart, trimStart_padded, scanDigits_padded (by decide) h]

-- Without a sign in front, a year has four digits.
theorem scanYear_cons (hc : c.isDigit) (cs : List Char) :
    scanYear (c :: cs) = (scanDigits 4 (c :: cs)).map fun (n, rest) => ((n : Int), rest) := by
  rw [scanYear]
  all_goals
    intro cs' h
    rw [(List.cons.inj h).left] at hc
    exact absurd hc (by decide)

-- The text of a year, with a separator behind it.
theorem scanYear_yearText (y : Int) {rest : List Char} (hrest : NoDigit rest) :
    scanYear (trimStart ((yearText y).toList ++ rest)) = some (y, rest) := by
  rw [yearText]
  split
  case isTrue hfour =>
    have ⟨c, cs, hcs, hc⟩ := exists_padded 4 y.toNat
    have hscan := scanDigits_padded (show 0 < 4 by decide) (show y.toNat < 10 ^ 4 by omega) rest
    have hy : (y.toNat : Int) = y := Int.toNat_of_nonneg hfour.left
    rw [trimStart_padded]
    rw [hcs, List.cons_append] at hscan ⊢
    simp only [scanYear_cons hc, hscan, Option.map_some, hy]
  case isFalse hfour =>
    have hscan := scanNat_padded 4 y.natAbs hrest
    split
    case isTrue hneg =>
      have hy : -(y.natAbs : Int) = y := by omega
      have hminus : "-".toList = ['-'] := rfl
      rw [String.toList_append, hminus, List.append_assoc, List.singleton_append,
        trimStart_of_isBlank (by decide)]
      simp only [scanYear, hscan, Option.map_some, hy]
    case isFalse hpos =>
      have hy : (y.natAbs : Int) = y := by omega
      have hplus : "+".toList = ['+'] := rfl
      rw [String.toList_append, hplus, List.append_assoc, List.singleton_append,
        trimStart_of_isBlank (by decide)]
      simp only [scanYear, hscan, Option.map_some, hy]

-- Places that are not written are zeros.
theorem scanFraction_padded {places : Nat} (hpos : 0 < places) (hle : places ≤ 9)
    (hn : n < 10 ^ places) (hrest : NoDigit rest) :
    scanFraction (("." ++ padded places n).toList ++ rest) = some (n * 10 ^ (9 - places), rest) := by
  have hlength := length_padded hpos hn
  have htake : ((padded places n).toList ++ List.replicate 9 '0').take 9 =
      (padded places n).toList ++ List.replicate (9 - places) '0' := by
    have hall := List.take_of_length_le (Nat.le_trans (Nat.le_of_eq hlength) hle)
    rw [List.take_append, hall, hlength, List.take_replicate, Nat.min_eq_left (Nat.sub_le _ _)]
  have hpoint : ".".toList = ['.'] := rfl
  rw [String.toList_append, hpoint, List.append_assoc, List.singleton_append]
  simp only [scanFraction, takeWhile_digits (fun _ => isDigit_of_mem_padded) hrest, isEmpty_padded, htake,
    natOf_append_zeros, natOf_padded, List.drop_left]
  rfl

-- The text of a fraction, with the zone behind it.
theorem scanFraction_fractionText (h : n < 1000000000) :
    scanFraction ((fractionText n).toList ++ ['Z']) = some (n, ['Z']) := by
  have hzone : NoDigit ['Z'] := .cons (by decide) _
  rw [fractionText]
  split
  case isTrue hzero =>
    rw [hzero]
    rfl
  case isFalse =>
    split
    case isTrue hmillis =>
      have hn : n / 1000000 * 10 ^ (9 - 3) = n := by omega
      rw [scanFraction_padded (by decide) (by decide) (by omega) hzone, hn]
    case isFalse =>
      split
      case isTrue hmicros =>
        have hn : n / 1000 * 10 ^ (9 - 6) = n := by omega
        rw [scanFraction_padded (by decide) (by decide) (by omega) hzone, hn]
      case isFalse =>
        have hn : n * 10 ^ (9 - 9) = n := by omega
        rw [scanFraction_padded (by decide) (by decide) h hzone, hn]

-- Where clocks are not behind, they show the same.
theorem Reading.behind_zero (h : r.Valid) : r.behind 0 = r := by
  have ⟨_, hhour, hminute, _⟩ := h
  have hlow : ¬((r.hour : Int) * 60 + r.minute - 0 < 0) := by omega
  have hhigh : ¬(1440 ≤ (r.hour : Int) * 60 + r.minute - 0) := by omega
  have hh : ((r.hour : Int) * 60 + r.minute - 0).toNat / 60 = r.hour := by omega
  have hm : ((r.hour : Int) * 60 + r.minute - 0).toNat % 60 = r.minute := by omega
  simp only [behind, if_neg hlow, if_neg hhigh, hh, hm]

theorem ofLocal?_reading (t : Timestamp) : ofLocal? t.reading 0 = some t := by
  have hzero := Reading.behind_zero t.valid
  rw [ofLocal?, if_pos ⟨t.valid, by decide⟩, dif_pos (hzero.symm ▸ t.valid)]
  simp only [hzero]

theorem toList_text (t : Timestamp) :
    t.text.toList =
      (yearText t.reading.date.year).toList ++ '-' :: ((padded 2 t.reading.date.month).toList ++
        '-' :: ((padded 2 t.reading.date.day).toList ++ 'T' :: ((padded 2 t.reading.hour).toList ++
        ':' :: ((padded 2 t.reading.minute).toList ++ ':' :: ((padded 2 t.reading.second).toList ++
        ((fractionText t.reading.nanos).toList ++ ['Z'])))))) := by
  have hdash : "-".toList = ['-'] := rfl
  have htee : "T".toList = ['T'] := rfl
  have hcolon : ":".toList = [':'] := rfl
  have hzone : "Z".toList = ['Z'] := rfl
  simp only [text, Reading.text, String.toList_append, hdash, htee, hcolon, hzone, List.append_assoc,
    List.cons_append, List.nil_append]

theorem scanReading_text (t : Timestamp) : scanReading t.text.toList = some (t.reading, ['Z']) := by
  have ⟨⟨_, _, _, hmonth, _, hday⟩, hhour, hminute, hsecond, hnanos⟩ := t.valid
  have hdays : daysInMonth t.reading.date.year t.reading.date.month < 100 := by
    rw [daysInMonth]
    grind
  rw [toList_text, scanReading]
  simp [scanYear_yearText _ (.cons (c := '-') (by decide) _), skipPart_cons (c := '-') (by decide),
    skipPart_cons (c := ':') (by decide), scanPart_padded (show t.reading.date.month < 100 by omega),
    scanPart_padded (show t.reading.date.day < 100 by omega),
    scanPart_padded (show t.reading.hour < 100 by omega),
    scanPart_padded (show t.reading.minute < 100 by omega),
    scanPart_padded (show t.reading.second < 100 by omega), scanFraction_fractionText hnanos]

-- Years of any length, leap seconds and fractions with any number of places are kept.
theorem parse_text (t : Timestamp) : parse t.text = some t := by
  rw [parse, scanReading_text]
  exact ofLocal?_reading t

end KernelRollout.Timestamp
