import Mathlib.Data.Rat.Floor
import Mathlib.Tactic.FieldSimp
import Mathlib.Tactic.Ring
import TraversalScript.Proofs.Digits
import TraversalScript.Proofs.Operands

/-!
# Timestamps

A timestamp is a date, a time of day and perhaps a zone, as they are written.

* `FractionText`, `SecondText`, `ClockText`, `ShiftText`, `ZoneText`: the parts of a timestamp;
* `Timestamp`, `Timestamp.chars`: a timestamp and its text;
* `Timestamp.moment`, `Timestamp.instant`: the moment that it spells, to the microsecond, and the
  exact instant, with all digits of the fraction;
* **`Timestamp.milliseconds_moment`**: the milliseconds of the moment are those of the instant,
  rounded toward the past.
-/

namespace TraversalScript

/-! ## Parts of a timestamp -/

/-- The fraction of a second as it is written: a point or a comma, and digits. -/
structure FractionText where
  mark : Char
  digits : List Char
  mark_eq : mark = '.' ∨ mark = ','
  digits_ne : digits ≠ []
  isDigit : ∀ c ∈ digits, c.isDigit = true

namespace FractionText

variable (f : FractionText)

/-- The text of a fraction. -/
def chars : List Char := f.mark :: f.digits

/-- The microseconds of a fraction: its first six digits, with zeros after them. -/
def micros : Nat := digitsValue ((f.digits ++ List.replicate 6 '0').take 6)

/-- The exact part of a second. -/
def value : ℚ := digitsValue f.digits / 10 ^ f.digits.length

/-- The microseconds are the part of a second, rounded toward zero. -/
theorem micros_eq : f.micros = digitsValue f.digits * 1000000 / 10 ^ f.digits.length := by
  -- with six zeros after them there are always six digits to take, and as many left as there were
  obtain ⟨cs, hcs⟩ : ∃ cs, cs = f.digits ++ List.replicate 6 '0' := ⟨_, rfl⟩
  have hlength : cs.length = f.digits.length + 6 := by rw [hcs]; simp
  have hvalue : digitsValue cs = digitsValue f.digits * 1000000 := by
    rw [hcs, digitsValue_append, digitsValue_zeros, List.length_replicate]
    omega
  have hdrop : (cs.drop 6).length = f.digits.length := by rw [List.length_drop, hlength]; omega
  have hlt : digitsValue (cs.drop 6) < 10 ^ f.digits.length := by
    rw [← hdrop]
    refine digitsValue_lt fun c hc => ?_
    rcases List.mem_append.1 (hcs ▸ List.mem_of_mem_drop hc) with h | h
    · exact f.isDigit c h
    · rw [List.eq_of_mem_replicate h]
      rfl
  rw [← hvalue, ← List.take_append_drop 6 cs, digitsValue_append, hdrop, micros, ← hcs,
    Nat.mul_add_div (Nat.pow_pos (by decide)), Nat.div_eq_of_lt hlt, Nat.add_zero]

theorem micros_lt : f.micros < 1000000 := by
  rw [micros_eq, Nat.div_lt_iff_lt_mul (Nat.pow_pos (by decide)), Nat.mul_comm 1000000]
  exact Nat.mul_lt_mul_of_pos_right (digitsValue_lt f.isDigit) (by decide)

/-- The reader takes the same microseconds. -/
theorem microseconds_digits : Moment.microseconds f.digits = f.micros := by
  rw [micros, List.take_append, List.take_replicate, Moment.microseconds, Nat.min_eq_left]
  omega

end FractionText

/-- The seconds as they are written: two digits, with a fraction or without. -/
structure SecondText where
  second : Nat
  fraction : Option FractionText
  second_lt : second < 60

namespace SecondText

variable (s : SecondText)

/-- The text of the seconds. -/
def chars : List Char := ':' :: (paddedDigits 2 s.second ++ s.fraction.elim [] FractionText.chars)

/-- The microseconds of the fraction. -/
def micros : Nat := s.fraction.elim 0 FractionText.micros

/-- The exact number of seconds. -/
def value : ℚ := s.second + s.fraction.elim 0 FractionText.value

theorem micros_lt : s.micros < 1000000 := by
  unfold micros
  cases s.fraction with
  | none => decide
  | some f => exact f.micros_lt

end SecondText

/-- A time of day as it is written: hours and minutes, with seconds or without. -/
structure ClockText where
  hour : Nat
  minute : Nat
  seconds : Option SecondText
  hour_lt : hour < 24
  minute_lt : minute < 60

namespace ClockText

variable (c : ClockText)

/-- The text of a time of day. -/
def chars : List Char :=
  paddedDigits 2 c.hour ++
    ':' :: (paddedDigits 2 c.minute ++ c.seconds.elim [] SecondText.chars)

/-- The time of day, to the microsecond. -/
def time : TimeOfDay where
  hour := c.hour
  minute := c.minute
  second := c.seconds.elim 0 SecondText.second
  microsecond := c.seconds.elim 0 SecondText.micros
  hour_lt := c.hour_lt
  minute_lt := c.minute_lt
  second_lt := by
    cases c.seconds with
    | none => decide
    | some s => exact s.second_lt
  microsecond_lt := by
    cases c.seconds with
    | none => decide
    | some s => exact s.micros_lt

/-- The exact number of seconds since the start of the day. -/
def value : ℚ := c.hour * 3600 + c.minute * 60 + c.seconds.elim 0 SecondText.value

end ClockText

/-- Hours and minutes of a shift, with a colon between them or without. -/
def spanChars (hour minute : Nat) (colon : Bool) : List Char :=
  paddedDigits 2 hour ++ ((if colon then [':'] else []) ++ paddedDigits 2 minute)

/-- A shift from universal time as it is written: a sign, hours and minutes. -/
structure ShiftText where
  sign : Char
  hour : Nat
  minute : Nat
  colon : Bool
  sign_eq : sign = '+' ∨ sign = '-' ∨ sign = '\u2212'
  hour_lt : hour < 24
  minute_lt : minute < 60

namespace ShiftText

variable (s : ShiftText)

/-- The text of a shift. -/
def chars : List Char := s.sign :: spanChars s.hour s.minute s.colon

/-- The offset of a shift. -/
def offset : Offset where
  seconds :=
    if s.sign = '+' then (s.hour * 3600 + s.minute * 60 : Nat)
    else -(s.hour * 3600 + s.minute * 60 : Nat)
  gt := by
    have := s.hour_lt
    have := s.minute_lt
    split <;> omega
  lt := by
    have := s.hour_lt
    have := s.minute_lt
    split <;> omega

end ShiftText

/-- A zone as it is written: not at all, as the mark of universal time, or as a shift. -/
inductive ZoneText where
  | unwritten
  | universal (mark : Char) (mark_eq : mark = 'Z' ∨ mark = 'z')
  | shifted (shift : ShiftText)

namespace ZoneText

/-- The text of a zone. -/
def chars : ZoneText → List Char
  | unwritten => []
  | universal mark _ => [mark]
  | shifted s => s.chars

/-- The offset of a zone, if it is written. -/
def offset? : ZoneText → Option Offset
  | unwritten => none
  | universal .. => some .utc
  | shifted s => some s.offset

end ZoneText

/-- A timestamp as it is written: a date, a separator, a time of day and a zone. -/
structure Timestamp where
  date : Date
  separator : Char
  clock : ClockText
  zone : ZoneText
  separator_eq : separator = 'T' ∨ separator = 't' ∨ separator = '_' ∨ separator = ' '

namespace Timestamp

variable (w : Timestamp)

/-- The characters of a timestamp. -/
def chars : List Char := w.date.iso.toList ++ w.separator :: (w.clock.chars ++ w.zone.chars)

/-- The text of a timestamp. -/
def text : String := String.ofList w.chars

/-- The moment that a timestamp spells; digits after the sixth of a fraction are dropped. -/
def moment : DateTime := ⟨w.date, w.clock.time, w.zone.offset?⟩

/-- The exact instant of a timestamp, in seconds from the epoch; without a zone it is universal
time. -/
def instant : ℚ :=
  (w.date.daysFromEpoch * 86400 : ℤ) + w.clock.value - (w.zone.offset?.elim 0 Offset.seconds : ℤ)

end Timestamp

/-! ## The instant -/

/-- The exact time of day is a whole number of seconds and a fraction, which is rounded toward the
past to microseconds, and as well to milliseconds. -/
theorem ClockText.value_eq (c : ClockText) :
    ∃ part : ℚ, c.value = c.time.seconds + part ∧
      ⌊part * 1000⌋ = ((c.time.microsecond / 1000 : ℕ) : ℤ) := by
  have fine (f : FractionText) : ⌊f.value * 1000⌋ = ((f.micros / 1000 : ℕ) : ℤ) := by
    have he : f.value * 1000 =
        ((digitsValue f.digits * 1000 : ℕ) : ℤ) / ((10 ^ f.digits.length : ℕ) : ℚ) := by
      rw [FractionText.value]
      push_cast
      ring
    rw [he, Rat.floor_intCast_div_natCast, f.micros_eq, Nat.div_div_eq_div_mul,
      show (1000000 : ℕ) = 1000 * 1000 by rfl, ← Nat.mul_assoc,
      Nat.mul_div_mul_right _ _ (by decide)]
    norm_cast
  have none : ⌊(0 : ℚ) * 1000⌋ = ((0 / 1000 : ℕ) : ℤ) := by simp
  obtain ⟨hour, minute, seconds, hh, hm⟩ := c
  rcases seconds with _ | ⟨second, _ | f, hs⟩
  · exact ⟨0, by simp [value, time, TimeOfDay.seconds], none⟩
  · exact ⟨0, by simp [value, time, TimeOfDay.seconds, SecondText.value], none⟩
  · refine ⟨f.value, ?_, fine f⟩
    simp only [value, time, TimeOfDay.seconds, SecondText.value, Option.elim_some]
    push_cast
    ring

/-- **The milliseconds of a timestamp** are those of its exact instant, rounded toward the past. -/
theorem Timestamp.milliseconds_moment (w : Timestamp) :
    w.moment.milliseconds = ⌊w.instant * 1000⌋ := by
  obtain ⟨part, hv, hf⟩ := w.clock.value_eq
  obtain ⟨whole, hw⟩ : ∃ whole : ℤ, whole =
      w.date.daysFromEpoch * 86400 + w.clock.time.seconds - w.moment.offsetSeconds := ⟨_, rfl⟩
  have ho : (w.zone.offset?.elim 0 Offset.seconds : ℤ) = w.moment.offsetSeconds := by
    rw [DateTime.offsetSeconds, moment]
    cases w.zone.offset? <;> rfl
  -- only the fraction is rounded, so whole seconds before the epoch need no case of their own
  have hi : w.instant * 1000 = ((whole * 1000 : ℤ) : ℚ) + part * 1000 := by
    rw [instant, hv, ho, hw]
    push_cast
    ring
  have hm : w.moment.instant = whole * 1000000 + w.clock.time.microsecond := by rw [hw]; rfl
  rw [hi, Int.floor_intCast_add, hf, DateTime.milliseconds, hm]
  omega

end TraversalScript
