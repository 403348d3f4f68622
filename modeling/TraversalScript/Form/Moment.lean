import TraversalScript.Binary64.Decimal
import TraversalScript.Calendar.DateTime

/-!
# Moments as text

A moment is written as a date, as a date with a time of day, or as seconds from the epoch.

* `MomentFault`: why a text is no moment;
* `readDay`: a date at the start of a text;
* `readClock?`, `readZone?`: the time of day and the offset after it;
* `readNumeral?`, `ofCount`, `ofDouble`: a count of seconds or milliseconds;
* **`Moment.read`**: the moment that a text spells.
-/

namespace TraversalScript

/-- Why a text is no moment. -/
inductive MomentFault where
  | tooShort
  | year
  | separator
  | month
  | day
  | monthRange
  | dayRange
  | extra
  | tooLate
  | tooEarly
  | yearZero
deriving DecidableEq

/-- A fault in words. -/
def MomentFault.words : MomentFault → String
  | tooShort => "input is too short"
  | year => "invalid character in year"
  | separator => "invalid date separator, expected `-`"
  | month => "invalid character in month"
  | day => "invalid character in day"
  | monthRange => "month value is outside expected range of 1-12"
  | dayRange => "day value is outside expected range"
  | extra => "unexpected extra characters at the end of the input"
  | tooLate => "dates after 9999 are not supported as unix timestamps"
  | tooEarly => "dates before 0000 are not supported as unix timestamps"
  | yearZero => "year 0 is out of range"

namespace Moment

/-! ## Fields -/

/-- The number of exactly so many leading digits, and what follows them. -/
def digits? (count : Nat) (cs : List Char) : Option (Nat × List Char) :=
  let ds := cs.take count
  if ds.length = count ∧ ds.all Char.isDigit then some (digitsValue ds, cs.drop count) else none

/-- The number of exactly so many leading digits, or a fault. -/
def field (fault : MomentFault) (count : Nat) (cs : List Char) :
    Except MomentFault (Nat × List Char) :=
  match digits? count cs with
  | some found => .ok found
  | none => .error fault

/-- What follows the mark between the fields of a date. -/
def dash : List Char → Except MomentFault (List Char)
  | '-' :: cs => .ok cs
  | _ => .error .separator

/-- Year, month and day at the start of a text, and what follows them. -/
def readDay (cs : List Char) : Except MomentFault ((Nat × Nat × Nat) × List Char) := do
  let (year, cs) ← field .year 4 cs
  let cs ← dash cs
  let (month, cs) ← field .month 2 cs
  let cs ← dash cs
  let (day, cs) ← field .day 2 cs
  if month < 1 ∨ 12 < month then throw .monthRange
  if day < 1 ∨ daysInMonth year month < day then throw .dayRange
  return ((year, month, day), cs)

/-- The microseconds that the digits of a fraction spell; digits after the sixth are dropped. -/
def microseconds (fraction : List Char) : Nat :=
  digitsValue (fraction.take 6 ++ List.replicate (6 - fraction.length) '0')

/-- Seconds and microseconds after the minutes: none at all, or two digits with or without a
fraction, which has at least one digit. -/
def readSeconds? : List Char → Option ((Nat × Nat) × List Char)
  | ':' :: cs => do
    let (second, cs) ← digits? 2 cs
    match cs with
    | '.' :: rest | ',' :: rest =>
      let (fraction, rest) := spanDigits rest
      if fraction.isEmpty then none else some ((second, microseconds fraction), rest)
    | _ => some ((second, 0), cs)
  | cs => some ((0, 0), cs)

/-- A time of day at the start of a text, and what follows it. -/
def readClock? (cs : List Char) : Option (TimeOfDay × List Char) := do
  let (hour, cs) ← digits? 2 cs
  match cs with
  | ':' :: cs =>
    let (minute, cs) ← digits? 2 cs
    let ((second, micro), cs) ← readSeconds? cs
    let time ← TimeOfDay.ofParts? hour minute second micro
    return (time, cs)
  | _ => none

/-- The hours and minutes of an offset, with or without a colon between them. -/
def readSpan? (cs : List Char) : Option Nat := do
  let (hour, cs) ← digits? 2 cs
  let cs := match cs with
    | ':' :: rest => rest
    | _ => cs
  let (minute, cs) ← digits? 2 cs
  if cs.isEmpty ∧ hour < 24 ∧ minute < 60 then some (hour * 3600 + minute * 60) else none

/-- The offset that the rest of a text spells: none if there is no text left. -/
def readZone? : List Char → Option (Option Offset)
  | [] => some none
  | ['Z'] | ['z'] => some (some .utc)
  | c :: cs => do
    let seconds ← readSpan? cs
    if c = '+' then (Offset.ofSeconds? seconds).map some
    else if c = '-' ∨ c = '\u2212' then (Offset.ofSeconds? (-seconds)).map some
    else none

/-- The time of day and the offset after a date; nothing at all is midnight. -/
def readTime? : List Char → Option (TimeOfDay × Option Offset)
  | [] => some (.start, none)
  | c :: cs =>
    if c = 'T' ∨ c = 't' ∨ c = '_' ∨ c = ' ' then do
      let (time, rest) ← readClock? cs
      let offset ← readZone? rest
      return (time, offset)
    else none

/-- A moment written as a date, with a time of day or without. -/
def readWritten (cs : List Char) : Except MomentFault DateTime := do
  let ((year, month, day), rest) ← readDay cs
  match readTime? rest, Date.ofParts? year month day with
  | none, _ => throw .extra
  | some _, none => throw .yearZero
  | some (time, offset), some date => return ⟨date, time, offset⟩

/-! ## Counts of seconds -/

/-- Counts beyond this size are milliseconds. -/
def watershed : Nat := 20000000000

/-- The first second of the year 0, from the epoch. -/
def firstSecond : Int := -62167219200

/-- The last second of the year 9999, from the epoch. -/
def lastSecond : Int := 253402300799

/-- The moment of universal time so many seconds and microseconds after the epoch. -/
def ofUnix (seconds : Int) (micro : Nat) : Except MomentFault DateTime :=
  let seconds := seconds + (micro / 1000000 : Nat)
  if lastSecond < seconds then .error .tooLate
  else if seconds < firstSecond then .error .tooEarly
  else
    match DateTime.ofUnix? seconds (micro % 1000000) with
    | some t => .ok t
    | none => .error .yearZero

/-- The moment of a whole count. -/
def ofCount (n : Int) : Except MomentFault DateTime :=
  if watershed < n.natAbs then ofUnix (n / 1000) ((n % 1000).toNat * 1000)
  else ofUnix n 0

/-- The product of a double below one with a million, to the nearest whole number, a half up. -/
def fractionMicros (units : Nat) : Nat :=
  let product := (Finite.nearest? false units 1).bind fun fraction =>
    Finite.nearest? false (fraction.size * 1000000) 1
  product.elim 0 fun x => (2 * x.size + unitsPerOne) / (2 * unitsPerOne)

/-- The microseconds that a double stands for as milliseconds, to the nearest, a half up. -/
def microsOfMillis (x : Finite) : Int :=
  (2 * 1000 * x.units + unitsPerOne) / (2 * unitsPerOne : Int)

/-- The moment of a count that is a finite double. -/
def ofFinite (x : Finite) : Except MomentFault DateTime :=
  if watershed * unitsPerOne < x.size then
    ofUnix (microsOfMillis x / 1000000) (microsOfMillis x % 1000000).toNat
  else
    ofUnix (x.units / (unitsPerOne : Int)) (fractionMicros (x.units % (unitsPerOne : Int)).toNat)

/-- The moment of a count that is a double. -/
def ofDouble : Binary64 → Except MomentFault DateTime
  | .finite x => ofFinite x
  | .infinity true => .error .tooEarly
  | _ => .error .tooLate

/-- A count as it is written. -/
inductive Numeral where
  /-- Digits alone. -/
  | whole (n : Int)
  /-- Digits with a point, and perhaps a power of ten. -/
  | decimal (x : Binary64)

/-- The integer of a size. -/
def signed (negative : Bool) (size : Nat) : Int := if negative then -(size : Int) else size

/-- Whether an integer has a place among those of 64 bits. -/
def isWord (n : Int) : Bool := decide (-(Nat.pow 2 63 : Int) ≤ n) && decide (n < Nat.pow 2 63)

/-- The count that a text spells: digits with a sign or without, with a point and a power of ten or
without both. The digits before the point have to fit 64 bits. -/
def readNumeral? (cs : List Char) : Option Numeral :=
  match spanSign cs with
  | (negative, rest) =>
    match spanDigits rest with
    | (digits, more) =>
      let n := signed negative (digitsValue digits)
      if !isWord n then none
      else
        match more with
        | [] => if digits.isEmpty then none else some (.whole n)
        | '.' :: _ =>
          (Decimal.magnitude? rest).map fun d => .decimal (.ofDecimal negative d)
        | _ => none

/-! ## Texts -/

/-- The least number of bytes of a date. -/
def leastSize : Nat := 10

/-- The moment that a text spells as a date, with a time of day or without. -/
def readDate (s : String) : Except MomentFault DateTime :=
  if s.utf8ByteSize < leastSize then .error .tooShort else readWritten s.toList

/-- **The moment that a text spells.** A decimal count that is out of range counts as no date. -/
def read (s : String) : Except MomentFault DateTime :=
  match readNumeral? s.toList with
  | some (.whole n) => ofCount n
  | some (.decimal x) =>
    match ofDouble x with
    | .error .tooLate | .error .tooEarly => readDate s
    | outcome => outcome
  | none => readDate s

end Moment

end TraversalScript
