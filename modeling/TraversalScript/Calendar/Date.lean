/-!
# Dates

Dates of the years 1 to 9999 under the Gregorian leap rule.

* `isLeap`, `daysInMonth`: the leap rule and the lengths of the months;
* `Date`: year, month and day, with their bounds;
* `Date.dayNumber`: the days since the first of January of the year 1;
* `Date.ofDayNumber?`: the date of a day number;
* `Date.midnight`: milliseconds from the epoch to the start of the date.
-/

namespace TraversalScript

/-- The Gregorian leap rule. -/
def isLeap (year : Nat) : Bool := year % 4 == 0 && (year % 100 != 0 || year % 400 == 0)

/-- The number of days of a month; there are none outside the months 1 to 12. -/
def daysInMonth (year month : Nat) : Nat :=
  match month with
  | 1 | 3 | 5 | 7 | 8 | 10 | 12 => 31
  | 4 | 6 | 9 | 11 => 30
  | 2 => if isLeap year then 29 else 28
  | _ => 0

/-- A date of the years 1 to 9999. -/
structure Date where
  year : Nat
  month : Nat
  day : Nat
  year_pos : 1 ≤ year
  year_le : year ≤ 9999
  day_pos : 1 ≤ day
  day_le : day ≤ daysInMonth year month
deriving DecidableEq

/-- The days of the years before a year. -/
def daysBeforeYear (year : Nat) : Nat :=
  let past := year - 1
  365 * past + past / 4 - past / 100 + past / 400

/-- The days of a year before a month. -/
def daysBeforeMonth (year : Nat) : Nat → Nat
  | 0 | 1 => 0
  | month + 2 => daysBeforeMonth year (month + 1) + daysInMonth year (month + 1)

/-- The month and day of the month that hold a day of the year, counted from 0. -/
def monthAndDay? (year : Nat) : List Nat → Nat → Option (Nat × Nat)
  | [], _ => none
  | month :: later, rest =>
    if rest < daysInMonth year month then some (month, rest + 1)
    else monthAndDay? year later (rest - daysInMonth year month)

namespace Date

/-- The date with these fields, if there is one. -/
def ofParts? (year month day : Nat) : Option Date :=
  if h : 1 ≤ year ∧ year ≤ 9999 ∧ 1 ≤ day ∧ day ≤ daysInMonth year month then
    some ⟨year, month, day, h.1, h.2.1, h.2.2.1, h.2.2.2⟩
  else
    none

/-- The fields of a date give it back. -/
theorem ofParts?_eq (d : Date) : ofParts? d.year d.month d.day = some d := by
  simp only [ofParts?]
  rw [dif_pos ⟨d.year_pos, d.year_le, d.day_pos, d.day_le⟩]

/-- The days since the first of January of the year 1. -/
def dayNumber (d : Date) : Nat :=
  daysBeforeYear d.year + daysBeforeMonth d.year d.month + (d.day - 1)

/-- The day number of the first of January 1970. -/
def epochDay : Nat := 719162

/-- The date of a day number, by cycles of 400, 100, 4 and 1 years. -/
def ofDayNumber? (n : Nat) : Option Date :=
  let inEra := n % 146097
  let century := min 3 (inEra / 36524)
  let inCentury := inEra - century * 36524
  let inQuad := inCentury % 1461
  let step := min 3 (inQuad / 365)
  let year := 400 * (n / 146097) + 100 * century + 4 * (inCentury / 1461) + step + 1
  (monthAndDay? year (List.range' 1 12) (inQuad - step * 365)).bind fun (month, day) =>
    ofParts? year month day

/-- The days from the epoch to a date. -/
def daysFromEpoch (d : Date) : Int := (d.dayNumber : Int) - epochDay

/-- The milliseconds from the epoch to the start of a date. -/
def midnight (d : Date) : Int := d.daysFromEpoch * 86400000

end Date

end TraversalScript
