import Mathlib.Tactic.Linarith
import TraversalScript.Proofs.Count

/-!
# Texts that spell moments

Which texts are accepted as moments.

* `Finite.value`, `Finite.Dated`: the doubles that count milliseconds of the years 1 to 9999;
* `nearest?_size_le`, `fractionMicros_le`: a rounded fraction of a second stays small;
* **`exists_ofFinite_iff`**: the doubles that are moments;
* `Spelled`: whole counts, counts with a point, days and timestamps;
* **`exists_read_iff`**: a text is accepted as a moment exactly if it is one of them.
-/

namespace TraversalScript

open Moment

/-! ## Rounding -/

theorem unitsPerOne_pos : 0 < unitsPerOne := by decide +kernel

theorem roundHalfEven_le (num den : Nat) : roundHalfEven num den ≤ num / den + 1 := by
  unfold roundHalfEven
  simp only
  split_ifs <;> omega

theorem ofParts?_size {negative : Bool} {mantissa exponent : Nat} {x : Finite}
    (h : Finite.ofParts? negative mantissa exponent = some x) :
    x.size = mantissa * Nat.pow 2 exponent := by
  unfold Finite.ofParts? at h
  split_ifs at h
  cases h
  rfl

/-- The nearest double is at most twice as large. -/
theorem nearest?_size_le {negative : Bool} {num : Nat} {x : Finite}
    (h : Finite.nearest? negative num 1 = some x) : x.size ≤ 2 * num := by
  unfold Finite.nearest? at h
  simp only [Nat.div_one, Nat.one_mul] at h
  obtain ⟨e, he⟩ : ∃ e, e = num.log2 + 1 - 53 := ⟨_, rfl⟩
  rw [← he] at h
  -- a mantissa that is rounded up to the next power of two is halved, which keeps the size
  have hsize : x.size = roundHalfEven num (Nat.pow 2 e) * Nat.pow 2 e := by
    split_ifs at h with hm
    · rw [ofParts?_size h, hm]
      change 2 ^ 52 * 2 ^ (e + 1) = 2 ^ 53 * 2 ^ e
      ring
    · exact ofParts?_size h
  have hround : roundHalfEven num (Nat.pow 2 e) * Nat.pow 2 e ≤ num + Nat.pow 2 e := by
    calc roundHalfEven num (Nat.pow 2 e) * Nat.pow 2 e
        ≤ (num / Nat.pow 2 e + 1) * Nat.pow 2 e := Nat.mul_le_mul_right _ (roundHalfEven_le _ _)
      _ = num / Nat.pow 2 e * Nat.pow 2 e + Nat.pow 2 e := Nat.succ_mul ..
      _ ≤ num + Nat.pow 2 e := Nat.add_le_add_right (Nat.div_mul_le_self _ _) _
  by_cases h0 : e = 0
  · have hexact : roundHalfEven num (Nat.pow 2 0) = num := by
      change roundHalfEven num 1 = num
      simp [roundHalfEven, Nat.mod_one]
    rw [h0, hexact] at hsize
    change x.size = num * 1 at hsize
    omega
  · have hnum : num ≠ 0 := by
      rintro rfl
      simp at he
      omega
    have hpow : Nat.pow 2 e ≤ num :=
      (Nat.pow_le_pow_right (by decide : 0 < 2) (by omega)).trans (Nat.log2_self_le hnum)
    omega

/-- A fraction of a second is rounded to few microseconds. -/
theorem fractionMicros_le {units : Nat} (h : units < unitsPerOne) :
    fractionMicros units ≤ 4000001 := by
  unfold fractionMicros
  extract_lets product
  cases hb : product with
  | none => exact Nat.zero_le _
  | some x =>
    obtain ⟨fraction, hf, hp⟩ := Option.bind_eq_some_iff.1 hb
    have hfraction := nearest?_size_le hf
    have hproduct := nearest?_size_le hp
    rw [Option.elim_some]
    refine Nat.div_le_of_le_mul ?_
    generalize unitsPerOne = u at *
    omega

/-! ## Counts that are doubles -/

/-- The value of a double. -/
def Finite.value (x : Finite) : ℚ := x.units / unitsPerOne

/-- Whether a double counts milliseconds of the years 1 to 9999, once they are rounded to
microseconds. -/
def Finite.Dated (x : Finite) : Prop :=
  -62135596800000 - 1 / 2000 ≤ x.value ∧ x.value < 253402300800000 - 1 / 2000

theorem dated_iff (x : Finite) : x.Dated ↔
    (2 * -62135596800000000 - 1) * (unitsPerOne : ℤ) ≤ 2000 * x.units ∧
      2000 * x.units < (2 * 253402300800000000 - 1) * (unitsPerOne : ℤ) := by
  have hpos : (0 : ℚ) < unitsPerOne := by exact_mod_cast unitsPerOne_pos
  rw [Finite.Dated, Finite.value, le_div_iff₀ hpos, div_lt_iff₀ hpos]
  generalize unitsPerOne = u at *
  -- the bounds of the left side are those of the right side as rationals, over 2000
  rw [← @Int.cast_le ℚ, ← @Int.cast_lt ℚ]
  push_cast
  constructor <;>
    · rintro ⟨hl, hu⟩
      exact ⟨by linarith, by linarith⟩

theorem natAbs_units (x : Finite) : x.units.natAbs = x.size := by
  unfold Finite.units
  split_ifs <;> omega

/-- The seconds and microseconds that a double is taken for are those of its milliseconds, if it is
large, and otherwise some that lie well within the years. -/
theorem exists_ofFinite_ofUnix (x : Finite) : ∃ seconds micro, ofFinite x = ofUnix seconds micro ∧
    (InYears (seconds * 1000000 + (micro : Int)) ↔ x.Dated) := by
  have hpos := unitsPerOne_pos
  have habs := natAbs_units x
  rw [dated_iff]
  unfold ofFinite
  by_cases h : watershed * unitsPerOne < x.size
  · rw [if_pos h]
    refine ⟨_, _, rfl, ?_⟩
    have hm : microsOfMillis x / 1000000 * 1000000 + ((microsOfMillis x % 1000000).toNat : Int) =
        microsOfMillis x := by omega
    rw [hm, InYears, microsOfMillis]
    -- both bounds are moved across the division that rounds to microseconds
    have hden : (0 : Int) < 2 * (unitsPerOne : Int) := by omega
    rw [Int.le_ediv_iff_mul_le hden, Int.ediv_lt_iff_lt_mul hden]
    generalize unitsPerOne = u at *
    omega
  · rw [if_neg h]
    refine ⟨_, _, rfl, ?_⟩
    have hmicros : fractionMicros (x.units % (unitsPerOne : Int)).toNat ≤ 4000001 := by
      have := Int.emod_nonneg x.units (show (unitsPerOne : Int) ≠ 0 by omega)
      have := Int.emod_lt_of_pos x.units (show (0 : Int) < unitsPerOne by omega)
      exact fractionMicros_le (by omega)
    have hlow : -20000000000 ≤ x.units / (unitsPerOne : Int) := by
      rw [Int.le_ediv_iff_mul_le (by omega)]
      unfold watershed at h
      generalize unitsPerOne = u at *
      omega
    have hhigh : x.units / (unitsPerOne : Int) < 20000000001 := by
      rw [Int.ediv_lt_iff_lt_mul (by omega)]
      unfold watershed at h
      generalize unitsPerOne = u at *
      omega
    unfold InYears watershed at *
    generalize unitsPerOne = u at *
    constructor <;> intro <;> omega

/-- **The doubles that are moments** are those that count milliseconds of the years 1 to 9999. -/
theorem exists_ofFinite_iff {x : Finite} : (∃ t, ofFinite x = .ok t) ↔ x.Dated := by
  obtain ⟨seconds, micro, he, hm⟩ := exists_ofFinite_ofUnix x
  rw [he, ← hm]
  constructor
  · rintro ⟨t, ht⟩
    exact inYears_of_ofUnix ht
  · intro h
    obtain ⟨t, ht, -⟩ := exists_ofUnix h
    exact ⟨t, ht⟩

/-! ## Texts -/

/-- Whether a count with a point is a moment: the digits before the point have a place among 64
bits, and the nearest double counts milliseconds of the years 1 to 9999. -/
def PointText.Dated (p : PointText) : Prop :=
  isWord p.whole = true ∧ ∃ x, p.double = .finite x ∧ x.Dated

/-- The texts that spell moments. -/
inductive Spelled : List Char → Prop
  | count (c : CountText) (h : -62135596800000 ≤ c.value ∧ c.value ≤ 253402300799999) :
      Spelled c.chars
  | point (p : PointText) (h : p.Dated) : Spelled p.chars
  | day (d : Date) : Spelled d.iso.toList
  | timestamp (w : Timestamp) : Spelled w.chars

/-- A text that starts with a date is four digits, a dash and more. -/
theorem spans_iso (d : Date) (rest : List Char) : ∃ ds tail,
    spanSign (d.iso.toList ++ rest) = (false, ds ++ '-' :: tail) ∧
      spanDigits (ds ++ '-' :: tail) = (ds, '-' :: tail) := by
  have hd : ∀ c ∈ paddedDigits 4 d.year, c.isDigit = true := fun _ => isDigit_of_mem_paddedDigits
  have hne : paddedDigits 4 d.year ≠ [] := by
    rw [← List.length_pos_iff, length_paddedDigits (by decide) (by have := d.year_le; omega)]
    decide
  obtain ⟨tail, htail⟩ : ∃ tail, d.iso.toList ++ rest = paddedDigits 4 d.year ++ '-' :: tail :=
    ⟨_, by rw [toList_iso, List.append_assoc, List.append_assoc, List.cons_append]⟩
  refine ⟨paddedDigits 4 d.year, tail, ?_, spanDigits_append hd fun c hc => by cases hc; rfl⟩
  rw [htail]
  exact @spanSign_append _ [] (.inl rfl) (head_of_digits hd hne _)

/-- A text that starts with a date is no count. -/
theorem readNumeral?_iso (d : Date) (rest : List Char) :
    readNumeral? (d.iso.toList ++ rest) = none := by
  obtain ⟨ds, tail, hs, hd⟩ := spans_iso d rest
  rw [readNumeral?_eq]
  simp only [hs, hd]
  exact ite_self none

/-- A whole count does not start with a date. -/
theorem count_ne_iso (c : CountText) (d : Date) (rest : List Char) :
    c.chars ≠ d.iso.toList ++ rest := by
  intro h
  obtain ⟨ds, tail, hs, hd⟩ := spans_iso d rest
  have hc := c.spanSign_chars
  have hdigits := c.spanDigits_digits
  rw [h, hs, Prod.mk.injEq] at hc
  rw [← hc.2, hd] at hdigits
  cases (Prod.mk.inj hdigits).2

theorem readNumeral?_of_readWritten {cs : List Char} {t : DateTime} (h : readWritten cs = .ok t) :
    readNumeral? cs = none := by
  rcases readWritten_eq_ok.1 h with ⟨d, hcs, -⟩ | ⟨w, hcs, -⟩
  · have := readNumeral?_iso d []
    rwa [List.append_nil, ← hcs] at this
  · rw [hcs, Timestamp.chars]
    exact readNumeral?_iso _ _

theorem length_le_utf8ByteSize (cs : List Char) :
    cs.length ≤ (String.ofList cs).utf8ByteSize := by
  induction cs with
  | nil => exact Nat.zero_le _
  | cons c cs ih =>
    have := c.utf8Size_pos
    rw [List.length_cons, String.ofList_cons, String.utf8ByteSize_append,
      String.utf8ByteSize_singleton]
    omega

theorem length_iso (d : Date) : d.iso.toList.length = 10 := by
  have hy := d.year_le
  have hm := month_of_daysInMonth (d.day_pos.trans d.day_le)
  have hd := d.day_le.trans (daysInMonth_le d.year d.month)
  rw [toList_iso]
  simp only [List.length_append, List.length_cons]
  rw [length_paddedDigits (by decide) (by omega), length_paddedDigits (by decide) (by omega),
    length_paddedDigits (by decide) (by omega)]

/-- A text that is written as a day or a timestamp is read as one. -/
theorem read_of_readWritten {s : String} {t : DateTime} (h : readWritten s.toList = .ok t) :
    Moment.read s = .ok t := by
  have hl : ¬s.utf8ByteSize < leastSize := by
    have hs := length_le_utf8ByteSize s.toList
    have hlength : 10 ≤ s.toList.length := by
      rcases readWritten_eq_ok.1 h with ⟨d, hcs, -⟩ | ⟨w, hcs, -⟩
      · rw [hcs, length_iso]
      · rw [hcs, Timestamp.chars, List.length_append, length_iso]
        omega
    rw [String.ofList_toList] at hs
    unfold leastSize
    omega
  rw [Moment.read, readNumeral?_of_readWritten h]
  simp only [readDate, if_neg hl, h]

/-- A whole count is accepted only as such. -/
theorem ofCount_of_read {c : CountText} {t : DateTime} (h : Moment.read c.text = .ok t) :
    ofCount c.value = .ok t := by
  cases hw : isWord c.value with
  | true => rwa [read_of_isWord hw] at h
  | false =>
    have hn : readNumeral? c.chars = none := by
      rw [readNumeral?_chars, hw]
      rfl
    rw [Moment.read, CountText.text, String.toList_ofList, hn] at h
    simp only [readDate, String.toList_ofList] at h
    split_ifs at h
    rcases readWritten_eq_ok.1 h with ⟨d, hcs, -⟩ | ⟨w, hcs, -⟩
    · exact absurd (hcs.trans (List.append_nil _).symm) (count_ne_iso c d [])
    · exact absurd hcs (count_ne_iso c w.date _)

theorem readDate_of_readNumeral? {s : String} {n : Numeral} (h : readNumeral? s.toList = some n) :
    ∃ fault, readDate s = .error fault := by
  unfold readDate
  split_ifs
  · exact ⟨_, rfl⟩
  · cases hw : readWritten s.toList with
    | error fault => exact ⟨fault, rfl⟩
    | ok t =>
      rw [readNumeral?_of_readWritten hw] at h
      cases h

/-- **A text is accepted as a moment exactly if it is a count within the years 1 to 9999, a day or a
timestamp.** -/
theorem exists_read_iff {s : String} : (∃ t, Moment.read s = .ok t) ↔ Spelled s.toList := by
  constructor
  · rintro ⟨t, h⟩
    unfold Moment.read at h
    split at h
    · next n hn =>
      obtain ⟨c, hc, rfl, -⟩ := readNumeral?_whole.1 hn
      rw [hc]
      exact .count c (exists_ofCount_iff.1 ⟨t, h⟩)
    · next x hn =>
      obtain ⟨p, hp, hx, hw⟩ := readNumeral?_decimal.1 hn
      obtain ⟨fault, hd⟩ := readDate_of_readNumeral? hn
      -- a double that is no moment is read once more as a date, which a count never is
      have hdouble : ofDouble x = .ok t := by
        split at h
        · rw [hd] at h
          cases h
        · rw [hd] at h
          cases h
        · exact h
      rw [hp]
      refine .point p ⟨hw, ?_⟩
      cases x with
      | nan => cases hdouble
      | infinity negative => cases negative <;> cases hdouble
      | finite y => exact ⟨y, hx, exists_ofFinite_iff.1 ⟨t, hdouble⟩⟩
    · unfold readDate at h
      split_ifs at h
      rcases readWritten_eq_ok.1 h with ⟨d, hcs, -⟩ | ⟨w, hcs, -⟩
      · rw [hcs]
        exact .day d
      · rw [hcs]
        exact .timestamp w
  · intro h
    generalize hcs : s.toList = cs at h
    cases h with
    | count c hr =>
      obtain ⟨t, ht⟩ := exists_ofCount_iff.2 hr
      refine ⟨t, ?_⟩
      rw [Moment.read, hcs, readNumeral?_whole.2 ⟨c, rfl, rfl, isWord_of_exists ⟨t, ht⟩⟩]
      exact ht
    | point p hp =>
      obtain ⟨hw, x, hx, hr⟩ := hp
      obtain ⟨t, ht⟩ := exists_ofFinite_iff.2 hr
      refine ⟨t, ?_⟩
      rw [Moment.read, hcs, readNumeral?_decimal.2 ⟨p, rfl, hx, hw⟩]
      simp only [ofDouble, ht]
    | day d => exact ⟨_, read_of_readWritten (readWritten_eq_ok.2 (.inl ⟨d, hcs, rfl⟩))⟩
    | timestamp w => exact ⟨_, read_of_readWritten (readWritten_eq_ok.2 (.inr ⟨w, hcs, rfl⟩))⟩

end TraversalScript
