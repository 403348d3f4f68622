import Mathlib.Tactic.SplitIfs
import TraversalScript.Form.Moment

/-!
# Day numbers

Every day of the years 1 to 9999 has a date, and the date has the number of the day.

* `daysBeforeYear_eq`, `isLeap_eq`: the days before a year and its leap day, from the place of the
  year in its cycles;
* `monthAndDay?_range'`: the month and the day that hold a day of the year;
* **`Date.exists_ofDayNumber?`**: the date of a day number;
* `InYears`, **`DateTime.exists_ofUnix?`**: the moment so many seconds after the epoch;
* `Moment.exists_ofUnix`, `Moment.inYears_of_ofUnix`, `Moment.instant_of_ofUnix`: the seconds that
  are accepted, and the instant that they come to.
-/

namespace TraversalScript

/-! ## Years -/

/-- The number of days of the years 1 to 9999. -/
def dayCount : Nat := 3652059

section Year

variable {era century quad step : Nat}

/-- The days before a year, from the number of its era, century, quad and step. -/
theorem daysBeforeYear_eq (hc : century ≤ 3) (hq : quad ≤ 24) (hs : step ≤ 3) :
    daysBeforeYear (400 * era + 100 * century + 4 * quad + step + 1) =
      146097 * era + 36524 * century + 1461 * quad + 365 * step := by
  simp only [daysBeforeYear]
  omega

/-- Leap years are the last steps of their quads, but for the last quad of the first centuries. -/
theorem isLeap_eq (hc : century ≤ 3) (hq : quad ≤ 24) (hs : step ≤ 3) :
    isLeap (400 * era + 100 * century + 4 * quad + step + 1) =
      decide (step = 3 ∧ (quad = 24 → century = 3)) := by
  rw [isLeap, Bool.eq_iff_iff]
  simp only [Bool.and_eq_true, Bool.or_eq_true, beq_iff_eq, bne_iff_ne, decide_eq_true_iff]
  omega

/-- The century of a day of an era, and its day of the century. -/
theorem century_of_day {day rest : Nat} (hd : day < 146097) (hc : century = min 3 (day / 36524))
    (hr : rest = day - century * 36524) :
    century ≤ 3 ∧ day = 36524 * century + rest ∧ rest ≤ 36524 ∧ (rest = 36524 → century = 3) := by
  omega

/-- The quad of a day of a century and the step of the quad, and its day of the year. -/
theorem step_of_day {day rest : Nat} (hd : day ≤ 36524) (hq : quad = day / 1461)
    (hs : step = min 3 (day % 1461 / 365)) (hr : rest = day % 1461 - step * 365) :
    quad ≤ 24 ∧ step ≤ 3 ∧ day = 1461 * quad + 365 * step + rest ∧
      rest ≤ 365 ∧ (rest = 365 → step = 3 ∧ (quad = 24 → day = 36524)) := by
  omega

end Year

/-- The number of days of a year. -/
theorem daysBeforeMonth_thirteen (year : Nat) :
    daysBeforeMonth year 13 = if isLeap year then 366 else 365 := by
  simp only [daysBeforeMonth, daysInMonth]
  split_ifs <;> rfl

/-! ## Months -/

theorem daysBeforeMonth_succ (year : Nat) {month : Nat} (hm : 1 ≤ month) :
    daysBeforeMonth year (month + 1) = daysBeforeMonth year month + daysInMonth year month := by
  obtain ⟨m, rfl⟩ : ∃ m, month = m + 1 := ⟨month - 1, by omega⟩
  rw [daysBeforeMonth]

/-- The month that holds a day of the year, and the day of that month. -/
theorem monthAndDay?_range' (year count : Nat) {first rest : Nat} (hf : 1 ≤ first)
    (h : daysBeforeMonth year first + rest < daysBeforeMonth year (first + count)) :
    ∃ month day, monthAndDay? year (List.range' first count) rest = some (month, day) ∧
      1 ≤ day ∧ day ≤ daysInMonth year month ∧
      daysBeforeMonth year month + (day - 1) = daysBeforeMonth year first + rest := by
  induction count generalizing first rest with
  | zero =>
    rw [Nat.add_zero] at h
    omega
  | succ count ih =>
    have hnext := daysBeforeMonth_succ year hf
    rw [List.range'_succ, monthAndDay?]
    split_ifs with hr
    · exact ⟨first, rest + 1, rfl, by omega, by omega, by omega⟩
    · rw [show first + (count + 1) = first + 1 + count by omega] at h
      obtain ⟨month, day, hm, h1, h2, h3⟩ := @ih (first + 1) (rest - daysInMonth year first)
        (by omega) (by omega)
      exact ⟨month, day, hm, h1, h2, by omega⟩

/-! ## Dates -/

namespace Date

/-- **Every day of the years 1 to 9999 has a date**, and the date has the number of the day. -/
theorem exists_ofDayNumber? {n : Nat} (hn : n < dayCount) :
    ∃ d, ofDayNumber? n = some d ∧ d.dayNumber = n := by
  unfold dayCount at hn
  obtain ⟨era, he⟩ : ∃ era, era = n / 146097 := ⟨_, rfl⟩
  obtain ⟨inEra, hi⟩ : ∃ inEra, inEra = n % 146097 := ⟨_, rfl⟩
  obtain ⟨century, hc⟩ : ∃ century, century = min 3 (inEra / 36524) := ⟨_, rfl⟩
  obtain ⟨inCentury, hic⟩ : ∃ inCentury, inCentury = inEra - century * 36524 := ⟨_, rfl⟩
  obtain ⟨quad, hq⟩ : ∃ quad, quad = inCentury / 1461 := ⟨_, rfl⟩
  obtain ⟨step, hs⟩ : ∃ step, step = min 3 (inCentury % 1461 / 365) := ⟨_, rfl⟩
  obtain ⟨rest, hr⟩ : ∃ rest, rest = inCentury % 1461 - step * 365 := ⟨_, rfl⟩
  obtain ⟨year, hy⟩ : ∃ year, year = 400 * era + 100 * century + 4 * quad + step + 1 := ⟨_, rfl⟩
  have hday : n = 146097 * era + inEra := by omega
  have hera : inEra < 146097 := by omega
  obtain ⟨hc3, hdc, hcu, hcl⟩ := century_of_day hera hc hic
  obtain ⟨hq24, hs3, hdq, hru, hrl⟩ := step_of_day hcu hq hs hr
  have hlength : rest < daysBeforeMonth year 13 := by
    rw [daysBeforeMonth_thirteen, hy, isLeap_eq hc3 hq24 hs3]
    split_ifs with hl
    · omega
    · -- a day 366 ends the last step of a quad, and in the last quad of a century also the era
      rw [decide_eq_true_eq] at hl
      have hne : rest ≠ 365 := fun h => hl ⟨(hrl h).1, fun h24 => hcl ((hrl h).2 h24)⟩
      omega
  obtain ⟨month, day, hm, h1, h2, h3⟩ := @monthAndDay?_range' year 12 1 rest (Nat.le_refl 1)
    (by simpa [daysBeforeMonth] using hlength)
  have hyear : 1 ≤ year ∧ year ≤ 9999 := by
    -- the quotients are of no use for the range of the year, and too much for omega
    clear hi he hc hic hq hs hr hlength hm h1 h2 h3
    omega
  refine ⟨⟨year, month, day, hyear.1, hyear.2, h1, h2⟩, ?_, ?_⟩
  · simp only [ofDayNumber?, ← he, ← hi, ← hc, ← hic, ← hq, ← hs, ← hr, ← hy, hm,
      Option.bind_some, ofParts?]
    rw [dif_pos ⟨hyear.1, hyear.2, h1, h2⟩]
  · have hdays : daysBeforeYear year =
        146097 * era + 36524 * century + 1461 * quad + 365 * step := by
      rw [hy, daysBeforeYear_eq hc3 hq24 hs3]
    rw [dayNumber, Nat.add_assoc, h3, hdays, hday, hdc, hdq]
    simp only [daysBeforeMonth]
    omega

end Date

/-! ## Seconds from the epoch -/

/-- Whether an instant, in microseconds from the epoch, lies in the years 1 to 9999. -/
def InYears (micros : Int) : Prop :=
  -62135596800000000 ≤ micros ∧ micros < 253402300800000000

/-- **The moment so many seconds after the epoch** is there within the years 1 to 9999, and is at
that instant. -/
theorem DateTime.exists_ofUnix? {seconds : Int} {micro : Nat} (hm : micro < 1000000)
    (h : InYears (seconds * 1000000 + micro)) :
    ∃ t, ofUnix? seconds micro = some t ∧ t.instant = seconds * 1000000 + micro := by
  obtain ⟨hl, hu⟩ := h
  obtain ⟨day, hday⟩ : ∃ day : Nat, seconds / 86400 + Date.epochDay = day :=
    ⟨(seconds / 86400 + Date.epochDay).toNat, by simp only [Date.epochDay]; omega⟩
  obtain ⟨rest, hrest⟩ : ∃ rest : Nat, seconds % 86400 = rest :=
    ⟨(seconds % 86400).toNat, by omega⟩
  have hd : day < dayCount := by
    simp only [Date.epochDay] at hday
    unfold dayCount
    omega
  obtain ⟨date, hdate, hn⟩ := Date.exists_ofDayNumber? hd
  have ht : rest / 3600 < 24 ∧ rest / 60 % 60 < 60 ∧ rest % 60 < 60 ∧ micro < 1000000 := by omega
  refine ⟨⟨date, ⟨rest / 3600, rest / 60 % 60, rest % 60, micro, ht.1, ht.2.1, ht.2.2.1, ht.2.2.2⟩,
    some .utc⟩, ?_, ?_⟩
  · rw [ofUnix?, hday, hrest]
    simp only [if_neg (show ¬(day : Int) < 0 by omega), Int.toNat_natCast, hdate,
      TimeOfDay.ofSeconds?, TimeOfDay.ofParts?, dif_pos ht]
    rfl
  · simp only [instant, Date.daysFromEpoch, offsetSeconds, Offset.utc, TimeOfDay.seconds, hn]
    simp only [Date.epochDay] at hday ⊢
    omega

namespace Moment

variable {seconds : Int} {micro : Nat}

theorem exists_ofUnix (h : InYears (seconds * 1000000 + micro)) :
    ∃ t, ofUnix seconds micro = .ok t ∧ t.instant = seconds * 1000000 + micro := by
  have he : (seconds + (micro / 1000000 : Nat)) * 1000000 + (micro % 1000000 : Nat) =
      seconds * 1000000 + micro := by omega
  obtain ⟨t, ht, hi⟩ := @DateTime.exists_ofUnix? (seconds + (micro / 1000000 : Nat))
    (micro % 1000000) (Nat.mod_lt _ (by decide)) (he ▸ h)
  obtain ⟨hl, hu⟩ := h
  refine ⟨t, ?_, he ▸ hi⟩
  unfold ofUnix lastSecond firstSecond
  simp only [ht]
  rw [if_neg (by omega), if_neg (by omega)]

/-- Seconds from the epoch are a moment only within the years 1 to 9999. -/
theorem inYears_of_ofUnix {t : DateTime} (h : ofUnix seconds micro = .ok t) :
    InYears (seconds * 1000000 + micro) := by
  unfold ofUnix lastSecond firstSecond at h
  simp only at h
  split_ifs at h with hu hl
  refine ⟨Int.not_lt.1 fun hy => ?_, by omega⟩
  have hn : DateTime.ofUnix? (seconds + (micro / 1000000 : Nat)) (micro % 1000000) = none := by
    rw [DateTime.ofUnix?]
    refine if_pos ?_
    simp only [Date.epochDay]
    omega
  rw [hn] at h
  cases h

/-- **A moment so many seconds and microseconds after the epoch** is at that instant. -/
theorem instant_of_ofUnix {t : DateTime} (h : ofUnix seconds micro = .ok t) :
    t.instant = seconds * 1000000 + micro := by
  obtain ⟨u, hu, hi⟩ := exists_ofUnix (inYears_of_ofUnix h)
  rw [h] at hu
  cases hu
  exact hi

end Moment

end TraversalScript
