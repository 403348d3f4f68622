import Mathlib.Data.List.Lex
import Mathlib.Order.Monotone.Basic
import TraversalScript.Proofs.Calendar
import TraversalScript.Proofs.Written

/-!
# Chronology

Counts of milliseconds follow the calendar, over all years and before the epoch as well as after it.

* `daysBeforeYear_succ`, `daysBeforeYear_mono`, `daysBeforeMonth_mono`: the days before a year and
  before a month of it;
* `Date.dayNumber_lt`, `Date.next?`, `Date.dayNumber_next`: dates in order, and one day after
  another;
* `TimeOfDay.millis`, `DateTime.milliseconds_eq`: the count is that of the midnight, of the time of
  day and of the offset;
* `DateTime.fields`, `DateTime.milliseconds_lt`: moments in the order of their fields;
* `Chronology`: what a count of milliseconds is to be;
* **`toMilliseconds_chronology`**: the milliseconds of dates and moments are such counts.
-/

namespace TraversalScript

/-! ## Years and months -/

theorem isLeap_iff {year : Nat} :
    isLeap year = true ↔ 4 ∣ year ∧ (¬100 ∣ year ∨ 400 ∣ year) := by
  simp [isLeap, Nat.dvd_iff_mod_eq_zero]

theorem daysBeforeYear_succ {year : Nat} (h : 1 ≤ year) :
    daysBeforeYear (year + 1) = daysBeforeYear year + daysBeforeMonth year 13 := by
  obtain ⟨past, rfl⟩ : ∃ past, year = past + 1 := ⟨year - 1, by omega⟩
  have h4 : 100 ∣ past + 1 → 4 ∣ past + 1 := Nat.dvd_trans (by decide)
  have h100 : 400 ∣ past + 1 → 100 ∣ past + 1 := Nat.dvd_trans (by decide)
  -- each quotient grows exactly in the years that its divisor divides
  simp only [daysBeforeYear, daysBeforeMonth_thirteen, isLeap_iff, Nat.add_sub_cancel, Nat.succ_div]
  split_ifs <;> omega

theorem daysBeforeYear_mono : Monotone daysBeforeYear := by
  refine monotone_nat_of_le_succ fun year => ?_
  cases year with
  | zero => exact Nat.le_refl _
  | succ past =>
    rw [daysBeforeYear_succ (Nat.succ_pos past)]
    exact Nat.le_add_right _ _

theorem daysBeforeMonth_mono (year : Nat) : Monotone (daysBeforeMonth year) := by
  refine monotone_nat_of_le_succ fun month => ?_
  cases month with
  | zero => exact Nat.le_refl _
  | succ month =>
    rw [daysBeforeMonth]
    exact Nat.le_add_right _ _

/-! ## Dates -/

namespace Date

variable {d e : Date}

/-- Year, month and day. -/
def fields (d : Date) : List Nat := [d.year, d.month, d.day]

theorem month_bounds (d : Date) : 1 ≤ d.month ∧ d.month ≤ 12 :=
  month_of_daysInMonth (d.day_pos.trans d.day_le)

/-- The days of the year before a date and the date itself are days of the months up to its own. -/
theorem dayOfYear_le (d : Date) :
    daysBeforeMonth d.year d.month + d.day ≤ daysBeforeMonth d.year (d.month + 1) := by
  rw [daysBeforeMonth_succ d.year d.month_bounds.1]
  exact Nat.add_le_add_left d.day_le _

theorem dayNumber_lt_succ (d : Date) : d.dayNumber < daysBeforeYear (d.year + 1) := by
  have hm : daysBeforeMonth d.year (d.month + 1) ≤ daysBeforeMonth d.year 13 :=
    daysBeforeMonth_mono d.year (Nat.succ_le_succ d.month_bounds.2)
  have hd := d.dayOfYear_le
  have := d.day_pos
  rw [daysBeforeYear_succ d.year_pos, dayNumber]
  omega

/-- **Dates are numbered in the order of year, month and day.** -/
theorem dayNumber_lt (h : d.fields < e.fields) : d.dayNumber < e.dayNumber := by
  simp only [fields, List.cons_lt_cons_iff, List.not_lt_nil, and_false, or_false] at h
  rcases h with hy | ⟨hy, hm | ⟨hm, hd⟩⟩
  · calc d.dayNumber < daysBeforeYear (d.year + 1) := d.dayNumber_lt_succ
      _ ≤ daysBeforeYear e.year := daysBeforeYear_mono (Nat.succ_le_of_lt hy)
      _ ≤ e.dayNumber := by rw [dayNumber, Nat.add_assoc]; exact Nat.le_add_right _ _
  · have hle : daysBeforeMonth d.year (d.month + 1) ≤ daysBeforeMonth e.year e.month := by
      rw [hy]
      exact daysBeforeMonth_mono e.year hm
    have hd := d.dayOfYear_le
    have := d.day_pos
    rw [dayNumber, dayNumber, hy] at *
    omega
  · have := d.day_pos
    rw [dayNumber, dayNumber, hy, hm]
    omega

theorem dayNumber_eq (h : d.fields = e.fields) : d.dayNumber = e.dayNumber := by
  simp only [fields, List.cons.injEq, and_true] at h
  obtain ⟨hy, hm, hd⟩ := h
  rw [dayNumber, dayNumber, hy, hm, hd]

theorem midnight_eq (d : Date) : d.midnight = ((d.dayNumber : Int) - 719162) * 86400000 := rfl

theorem dayNumber_lt_dayCount (d : Date) : d.dayNumber < dayCount := by
  have hy : daysBeforeYear (d.year + 1) ≤ daysBeforeYear 10000 :=
    daysBeforeYear_mono (Nat.succ_le_succ d.year_le)
  exact d.dayNumber_lt_succ.trans_le hy

/-- The day after a date: the next of its month, else the first of the next month, else the first of
the next year. -/
def next? (d : Date) : Option Date :=
  if d.day < daysInMonth d.year d.month then ofParts? d.year d.month (d.day + 1)
  else if d.month < 12 then ofParts? d.year (d.month + 1) 1
  else ofParts? (d.year + 1) 1 1

/-- **The day after a date has the next number.** -/
theorem dayNumber_next (h : d.next? = some e) : e.dayNumber = d.dayNumber + 1 := by
  have hpos := d.day_pos
  have hle := d.day_le
  have hmonth := d.month_bounds
  have hsucc := daysBeforeMonth_succ d.year hmonth.1
  rw [next?] at h
  split_ifs at h with hd hm
  · obtain ⟨hy, hm, hd⟩ := date_ofParts?_eq_some.1 h
    rw [dayNumber, dayNumber, hy, hm, hd]
    omega
  · obtain ⟨hy, hm, hd⟩ := date_ofParts?_eq_some.1 h
    rw [dayNumber, dayNumber, hy, hm, hd]
    omega
  · obtain ⟨hy, hm', hd'⟩ := date_ofParts?_eq_some.1 h
    have h12 : d.month = 12 := by omega
    have hfirst : daysBeforeMonth (d.year + 1) 1 = 0 := rfl
    rw [h12] at hsucc hle hd
    rw [dayNumber, dayNumber, hy, hm', hd', h12, daysBeforeYear_succ d.year_pos, hfirst, hsucc]
    omega

theorem daysInMonth_pos {year month : Nat} (h : 1 ≤ month ∧ month ≤ 12) :
    1 ≤ daysInMonth year month := by
  unfold daysInMonth
  grind

theorem ofParts?_ne_none {year month day : Nat} (hy : 1 ≤ year ∧ year ≤ 9999)
    (hd : 1 ≤ day ∧ day ≤ daysInMonth year month) : ofParts? year month day ≠ none := by
  rw [ofParts?, dif_pos ⟨hy.1, hy.2, hd.1, hd.2⟩]
  exact Option.some_ne_none _

/-- Every date but the last of all has a day after it. -/
theorem next?_eq_none : d.next? = none ↔ d.year = 9999 ∧ d.month = 12 ∧ d.day = 31 := by
  have hmonth := d.month_bounds
  have hyear : 1 ≤ d.year ∧ d.year ≤ 9999 := ⟨d.year_pos, d.year_le⟩
  have hle := d.day_le
  constructor
  · intro h
    rw [next?] at h
    split_ifs at h with hd hm
    · exact absurd h (ofParts?_ne_none hyear ⟨Nat.succ_pos _, hd⟩)
    · have hfirst : 1 ≤ daysInMonth d.year (d.month + 1) := daysInMonth_pos ⟨Nat.succ_pos _, hm⟩
      exact absurd h (ofParts?_ne_none hyear ⟨Nat.le_refl 1, hfirst⟩)
    · have h12 : d.month = 12 := by omega
      have h31 : daysInMonth d.year 12 = 31 := rfl
      rw [h12, h31] at hd hle
      have hlast : d.year = 9999 := by
        by_contra hy
        exact ofParts?_ne_none (by omega) ⟨Nat.le_refl 1, daysInMonth_pos (by decide)⟩ h
      exact ⟨hlast, h12, by omega⟩
  · rintro ⟨hy, hm, hd⟩
    rw [next?, hy, hm, hd]
    rfl

end Date

/-! ## Times of day -/

namespace TimeOfDay

variable {t u : TimeOfDay}

/-- The milliseconds since the start of the day; what is left of a millisecond is dropped. -/
def millis (t : TimeOfDay) : Nat :=
  t.hour * 3600000 + t.minute * 60000 + t.second * 1000 + t.microsecond / 1000

theorem millis_lt_day (t : TimeOfDay) : t.millis < 86400000 := by
  have := t.hour_lt
  have := t.minute_lt
  have := t.second_lt
  have := t.microsecond_lt
  rw [millis]
  omega

/-- The fields of a time, its fraction of a second in units of so many microseconds. -/
def fields (unit : Nat) (t : TimeOfDay) : List Nat :=
  [t.hour, t.minute, t.second, t.microsecond / unit]

/-- Times that differ by a millisecond are in the same order by microseconds. -/
theorem fields_lt (h : t.fields 1000 < u.fields 1000) : t.fields 1 < u.fields 1 := by
  simp only [fields, List.cons_lt_cons_iff, List.not_lt_nil, and_false, or_false, Nat.div_one] at *
  omega

theorem millis_eq (h : t.fields 1000 = u.fields 1000) : t.millis = u.millis := by
  simp only [fields, List.cons.injEq, and_true] at h
  obtain ⟨hh, hm, hs, hms⟩ := h
  rw [millis, millis, hh, hm, hs, hms]

theorem millis_lt (h : t.fields 1000 < u.fields 1000) : t.millis < u.millis := by
  have := t.minute_lt
  have := t.second_lt
  have := t.microsecond_lt
  simp only [fields, List.cons_lt_cons_iff, List.not_lt_nil, and_false, or_false] at h
  rw [millis, millis]
  omega

end TimeOfDay

/-! ## Moments -/

namespace DateTime

variable {a b : DateTime}

/-- The milliseconds of a moment, from those of its midnight, its time of day and its offset. -/
theorem milliseconds_eq (t : DateTime) :
    t.milliseconds = t.date.midnight + t.time.millis - 1000 * t.offsetSeconds := by
  rw [milliseconds, instant, Date.midnight, TimeOfDay.millis, TimeOfDay.seconds]
  omega

theorem milliseconds_naive {t : DateTime} (h : t.offset = none) :
    t.milliseconds = t.date.midnight + t.time.millis := by
  have ho : t.offsetSeconds = 0 := by rw [offsetSeconds, h]
  rw [milliseconds_eq, ho]
  omega

/-- The fields of a moment from the year on, its fraction of a second in units of so many
microseconds. -/
def fields (unit : Nat) (t : DateTime) : List Nat := t.date.fields ++ t.time.fields unit

theorem fields_lt_iff {unit : Nat} : a.fields unit < b.fields unit ↔
    a.date.fields < b.date.fields ∨
      a.date.fields = b.date.fields ∧ a.time.fields unit < b.time.fields unit := by
  simp only [fields, Date.fields, List.cons_append, List.nil_append, List.cons_lt_cons_iff,
    List.cons.injEq, List.not_lt_nil, and_false, or_false, and_true]
  tauto

theorem fields_eq_iff {unit : Nat} : a.fields unit = b.fields unit ↔
    a.date.fields = b.date.fields ∧ a.time.fields unit = b.time.fields unit := by
  constructor
  · intro h
    exact List.append_inj h rfl
  · rintro ⟨hd, ht⟩
    rw [fields, fields, hd, ht]

section Naive

variable (ha : a.offset = none) (hb : b.offset = none)
include ha hb

/-- **Moments follow each other in the order of their fields**, up to the millisecond. -/
theorem milliseconds_lt (h : a.fields 1000 < b.fields 1000) : a.milliseconds < b.milliseconds := by
  simp only [milliseconds_naive ha, milliseconds_naive hb, Date.midnight_eq]
  rcases fields_lt_iff.1 h with hd | ⟨hd, ht⟩
  · have := Date.dayNumber_lt hd
    have := a.time.millis_lt_day
    omega
  · have := TimeOfDay.millis_lt ht
    rw [Date.dayNumber_eq hd]
    omega

/-- Moments count alike exactly if their fields agree up to the millisecond. -/
theorem milliseconds_eq_iff : a.milliseconds = b.milliseconds ↔ a.fields 1000 = b.fields 1000 := by
  constructor
  · intro h
    rcases lt_trichotomy (a.fields 1000) (b.fields 1000) with hlt | heq | hgt
    · exact absurd h (milliseconds_lt ha hb hlt).ne
    · exact heq
    · exact absurd h (milliseconds_lt hb ha hgt).ne'
  · intro h
    obtain ⟨hd, ht⟩ := fields_eq_iff.1 h
    rw [milliseconds_naive ha, milliseconds_naive hb, Date.midnight_eq, Date.midnight_eq,
      Date.dayNumber_eq hd, TimeOfDay.millis_eq ht]

theorem milliseconds_mono (h : a.fields 1 ≤ b.fields 1) : a.milliseconds ≤ b.milliseconds := by
  have hle : a.fields 1000 ≤ b.fields 1000 := by
    refine le_of_not_gt fun hlt => not_lt_of_ge h ?_
    refine fields_lt_iff.2 ((fields_lt_iff.1 hlt).imp_right fun ⟨hd, ht⟩ => ⟨hd, ?_⟩)
    exact TimeOfDay.fields_lt ht
  rcases hle.lt_or_eq with hlt | heq
  · exact (milliseconds_lt ha hb hlt).le
  · exact ((milliseconds_eq_iff ha hb).2 heq).le

end Naive

theorem milliseconds_bounds (t : DateTime) :
    -9007199254740992 < t.milliseconds ∧ t.milliseconds < 9007199254740992 := by
  have hn := t.date.dayNumber_lt_dayCount
  have ht := t.time.millis_lt_day
  have ho : -86400 < t.offsetSeconds ∧ t.offsetSeconds < 86400 := by
    unfold offsetSeconds
    cases t.offset with
    | none => decide
    | some o => exact ⟨o.gt, o.lt⟩
  rw [milliseconds_eq, Date.midnight_eq]
  unfold dayCount at hn
  omega

end DateTime

/-! ## Counts of milliseconds -/

/-- What counts of milliseconds of dates and of moments are to be: those of a date are those of its
midnight; they are nothing at the epoch, and a day more from each day to the next; the time of day
is added to them, and the offset taken away; so they are in the order of the fields, and agree
exactly where the fields agree up to the millisecond; and what is left of a millisecond is dropped
toward the past. -/
structure Chronology (date : Date → Int) (moment : DateTime → Int) : Prop where
  midnight : ∀ d : Date, date d = moment ⟨d, .start, none⟩
  epoch : ∀ d : Date, d.year = 1970 → d.month = 1 → d.day = 1 → date d = 0
  next : ∀ d e : Date, d.next? = some e → date e = date d + 86400000
  last : ∀ d : Date, d.next? = none ↔ d.year = 9999 ∧ d.month = 12 ∧ d.day = 31
  clock : ∀ (d : Date) (t : TimeOfDay), moment ⟨d, t, none⟩ =
    date d + (t.hour * 3600000 + t.minute * 60000 + t.second * 1000 + t.microsecond / 1000 : Nat)
  order : ∀ a b : DateTime, a.offset = none → b.offset = none →
    a.fields 1 ≤ b.fields 1 → moment a ≤ moment b
  agree : ∀ a b : DateTime, a.offset = none → b.offset = none →
    (moment a = moment b ↔ a.fields 1000 = b.fields 1000)
  offset : ∀ d t o, moment ⟨d, t, some o⟩ = moment ⟨d, t, none⟩ - 1000 * o.seconds
  past : ∀ t : DateTime, 1000 * moment t ≤ t.instant ∧ t.instant < 1000 * moment t + 1000
  instant : ∀ a b : DateTime, a.offset.isSome = true → b.offset.isSome = true →
    a.instant = b.instant → moment a = moment b
  bounds : ∀ t, -9007199254740992 < moment t ∧ moment t < 9007199254740992

/-- **The milliseconds of dates and moments follow the calendar**, and every date and every moment
has them. -/
theorem toMilliseconds_chronology : ∃ date moment, Chronology date moment ∧
    (∀ d, toMilliseconds (.date d) = .ok (date d)) ∧
    ∀ t, toMilliseconds (.dateTime t) = .ok (moment t) := by
  refine ⟨Date.midnight, DateTime.milliseconds, ?_, fun _ => rfl, fun _ => rfl⟩
  have hzero (d : Date) : DateTime.milliseconds ⟨d, .start, none⟩ = d.midnight := by
    have hstart : TimeOfDay.start.millis = 0 := rfl
    rw [DateTime.milliseconds_naive rfl, hstart]
    exact Int.add_zero d.midnight
  refine
    { midnight := fun d => (hzero d).symm
      epoch := ?_
      next := ?_
      last := fun d => Date.next?_eq_none
      clock := fun d t => DateTime.milliseconds_naive rfl
      order := fun a b => DateTime.milliseconds_mono
      agree := fun a b => DateTime.milliseconds_eq_iff
      offset := ?_
      past := ?_
      instant := ?_
      bounds := DateTime.milliseconds_bounds }
  · intro d hy hm hd
    rw [Date.midnight_eq, Date.dayNumber, hy, hm, hd]
    rfl
  · intro d e h
    rw [Date.midnight_eq, Date.midnight_eq, Date.dayNumber_next h]
    omega
  · intro d t o
    rw [DateTime.milliseconds_eq, DateTime.milliseconds_naive rfl]
    rfl
  · intro t
    rw [DateTime.milliseconds]
    omega
  · intro a b _ _ h
    rw [DateTime.milliseconds, DateTime.milliseconds, h]

/-- Just before the epoch the count is negative. -/
example : toMilliseconds (.dateTime ⟨⟨1969, 12, 31, by decide, by decide, by decide, by decide⟩,
    ⟨23, 59, 59, 999999, by decide, by decide, by decide, by decide⟩, none⟩) = .ok (-1) := rfl

end TraversalScript
