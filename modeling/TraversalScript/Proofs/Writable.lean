import TraversalScript.Proofs.Chronology
import TraversalScript.Proofs.RealText

/-!
# Numbers that can be written

A number has too many digits only if it is handed over as an integer: the milliseconds of a moment
and the integers of doubles are far below that.

* `isWritable_iff`: numbers below a power of ten can be written;
* `isWritable_of_le`: what is below the largest double can be written;
* `Finite.isWritable_whole`, `DateTime.isWritable_milliseconds`, `Date.isWritable_midnight`: so can
  what doubles, moments and dates stand for;
* `overlong`: the least number that cannot;
* `Value.isWritable`: whether a value is no integer of too many digits;
* **`isWritable_of_milliseconds?`**, **`isWritable_of_ofValue`**: only then has it
  milliseconds or a literal that cannot be written.
-/

namespace TraversalScript

theorem isWritable_iff {n : Int} : isWritable n = true ↔ n.natAbs < 10 ^ digitLimit :=
  decide_eq_true_iff.trans (digitCount_le_iff (by decide))

theorem isWritable_of_le {n : Int} (h : n.natAbs ≤ Nat.pow 2 53 * Nat.pow 2 2045) :
    isWritable n = true := by
  have hpow : Nat.pow 2 53 * Nat.pow 2 2045 < 10 ^ digitLimit := by decide +kernel
  exact isWritable_iff.2 (h.trans_lt hpow)

/-- The integer that a double stands for can be written. -/
theorem Finite.isWritable_whole {x : Finite} {n : Int} (h : (Binary64.finite x).whole? = some n) :
    isWritable n = true := by
  simp only [Binary64.whole?, Option.ite_none_right_eq_some, Option.some.injEq] at h
  obtain ⟨-, rfl⟩ := h
  have hunits : x.units.natAbs = x.size := by
    unfold units
    split <;> simp
  refine isWritable_of_le (le_trans ?_ (size_le x))
  rw [← hunits]
  exact Int.natAbs_ediv_le_natAbs x.units unitsPerOne

/-- The least number that has too many digits. -/
def overlong : ℤ := 10 ^ digitLimit

theorem isWritable_overlong : isWritable overlong = false := by
  have hten : Int.natAbs 10 = 10 := rfl
  rw [Bool.eq_false_iff, ne_eq, isWritable_iff, overlong, Int.natAbs_pow, hten]
  exact lt_irrefl _

/-- Whether a value is no integer of too many digits. -/
def Value.isWritable : Value → Bool
  | .int n => TraversalScript.isWritable n
  | _ => true

theorem DateTime.isWritable_milliseconds (t : DateTime) : isWritable t.milliseconds = true := by
  have hbounds := t.milliseconds_bounds
  have hpow : 9007199254740992 ≤ Nat.pow 2 53 * Nat.pow 2 2045 := by decide +kernel
  exact isWritable_of_le (le_trans (by omega) hpow)

theorem Date.isWritable_midnight (d : Date) : isWritable d.midnight = true := by
  have h : d.midnight = DateTime.milliseconds ⟨d, .start, none⟩ := by
    have hstart : TimeOfDay.start.millis = 0 := rfl
    rw [DateTime.milliseconds_naive rfl, hstart]
    exact (Int.add_zero d.midnight).symm
  rw [h]
  exact DateTime.isWritable_milliseconds _

section

variable {v : Value} {n : Int} {l : Literal}

/-- **The milliseconds of a value can be written** unless it is an integer of too many digits. -/
theorem isWritable_of_milliseconds? (h : milliseconds? v = some n) :
    v.isWritable = isWritable n := by
  cases v with
  | int m =>
    cases h
    rfl
  | dateTime t =>
    cases h
    exact t.isWritable_milliseconds.symm
  | date d =>
    cases h
    exact d.isWritable_midnight.symm
  | real x =>
    cases x with
    | finite x => exact (Finite.isWritable_whole h).symm
    | nan | infinity => cases h
  | _ => cases h

/-- **The literal of a value can be written** unless it is an integer of too many digits. -/
theorem isWritable_of_ofValue (h : Literal.ofValue v = .ok l) : v.isWritable = l.isWritable := by
  cases v with
  | dateTime t =>
    cases h
    exact t.isWritable_milliseconds.symm
  | date d =>
    cases h
    exact d.isWritable_midnight.symm
  | real x =>
    cases x with
    | finite x =>
      cases h
      rfl
    | nan | infinity => cases h
  | bool | text | int =>
    cases h
    rfl
  | _ => cases h

end

end TraversalScript
