import TraversalScript.Calendar.Date

/-!
# Moments

A date with a time of day, alone or with an offset from universal time.

* `TimeOfDay`, `Offset`, `DateTime`: the fields and their bounds;
* `Region`: a region whose clocks are put back, so that a local time comes twice;
* `DateTime.instant`: microseconds from the epoch, a missing offset read as universal time;
* **`DateTime.milliseconds`**: the instant in whole milliseconds, rounded toward the past;
* `DateTime.same`: equal instants if both have an offset, equal fields if neither has or if both are
  of one region.
-/

namespace TraversalScript

/-- A time of day in microseconds. -/
structure TimeOfDay where
  hour : Nat
  minute : Nat
  second : Nat
  microsecond : Nat
  hour_lt : hour < 24
  minute_lt : minute < 60
  second_lt : second < 60
  microsecond_lt : microsecond < 1000000
deriving DecidableEq

namespace TimeOfDay

/-- The time with these fields, if there is one. -/
def ofParts? (hour minute second microsecond : Nat) : Option TimeOfDay :=
  if h : hour < 24 ∧ minute < 60 ∧ second < 60 ∧ microsecond < 1000000 then
    some ⟨hour, minute, second, microsecond, h.1, h.2.1, h.2.2.1, h.2.2.2⟩
  else
    none

/-- The fields of a time give it back. -/
theorem ofParts?_eq (t : TimeOfDay) :
    ofParts? t.hour t.minute t.second t.microsecond = some t := by
  simp only [ofParts?]
  rw [dif_pos ⟨t.hour_lt, t.minute_lt, t.second_lt, t.microsecond_lt⟩]

/-- The start of the day. -/
def start : TimeOfDay := ⟨0, 0, 0, 0, by decide, by decide, by decide, by decide⟩

/-- The seconds since the start of the day. -/
def seconds (t : TimeOfDay) : Nat := t.hour * 3600 + t.minute * 60 + t.second

/-- The time at a second of the day. -/
def ofSeconds? (seconds microsecond : Nat) : Option TimeOfDay :=
  ofParts? (seconds / 3600) (seconds / 60 % 60) (seconds % 60) microsecond

end TimeOfDay

/-- A region that keeps an offset of its own for each local time, and two of them for a local time
that comes twice. -/
structure Region where
  name : String
  /-- Whether the local time is meant as the second of two. -/
  later : Bool
  /-- Whether the local time has one offset, be it meant as the first or as the second of two. -/
  isSteady : Bool
deriving DecidableEq

/-- An offset from universal time in seconds, less than a day either way, and the region that has
it at a local time, unless it is the same at all times. -/
structure Offset where
  seconds : Int
  gt : -86400 < seconds
  lt : seconds < 86400
  region : Option Region := none
deriving DecidableEq

namespace Offset

/-- The offset of so many seconds at all times, if there is one. -/
def ofSeconds? (seconds : Int) : Option Offset :=
  if h : -86400 < seconds ∧ seconds < 86400 then some ⟨seconds, h.1, h.2, none⟩ else none

/-- No offset at all: universal time itself. -/
def utc : Offset := ⟨0, by decide, by decide, none⟩

/-- Whether an offset does not hang on which of two moments is meant. -/
def isSteady (o : Offset) : Bool := o.region.all Region.isSteady

/-- Whether two offsets are those of one region. -/
def ofOneRegion (o p : Offset) : Bool :=
  match o.region, p.region with
  | some q, some r => q.name == r.name
  | _, _ => false

end Offset

/-- A date with a time of day, and an offset if it has one. -/
structure DateTime where
  date : Date
  time : TimeOfDay
  offset : Option Offset
deriving DecidableEq

namespace DateTime

/-- The seconds between the local time and universal time. -/
def offsetSeconds (t : DateTime) : Int :=
  match t.offset with
  | some o => o.seconds
  | none => 0

/-- The microseconds from the epoch; without an offset the fields are universal time. -/
def instant (t : DateTime) : Int :=
  (t.date.daysFromEpoch * 86400 + t.time.seconds - t.offsetSeconds) * 1000000 + t.time.microsecond

/-- **The milliseconds from the epoch**, rounded toward the past. -/
def milliseconds (t : DateTime) : Int := t.instant / 1000

/-- Whether the clocks of two moments show the same. -/
def sameClock (s t : DateTime) : Bool := s.date == t.date && s.time == t.time

/-- Equality: the same instant if both have an offset, the same fields if neither has. Moments of
one region are compared by their fields, so that it does not matter which of two is meant; across
regions a moment that hangs on it is equal to nothing. -/
def same (s t : DateTime) : Bool :=
  match s.offset, t.offset with
  | some o, some p =>
    if o.ofOneRegion p then s.sameClock t
    else s.instant == t.instant && o.isSteady && p.isSteady
  | none, none => s.sameClock t
  | _, _ => false

/-- The moment of universal time so many seconds after the epoch, within the years 1 to 9999. -/
def ofUnix? (seconds : Int) (microsecond : Nat) : Option DateTime :=
  let day := seconds / 86400 + Date.epochDay
  if day < 0 then none
  else do
    let date ← Date.ofDayNumber? day.toNat
    let time ← TimeOfDay.ofSeconds? (seconds % 86400).toNat microsecond
    some ⟨date, time, some .utc⟩

end DateTime

end TraversalScript
