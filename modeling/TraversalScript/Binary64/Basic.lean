/-!
# Doubles as exact numbers

A finite double is a whole number of units of `2 ^ -1074`, so every question about doubles is a
question about integers.

* `Finite`: sign, mantissa and exponent, with the bounds that make the fields unique;
* `Binary64`: not-a-number, the two infinities and the finite doubles;
* `nearest`: the double nearest to a quotient of natural numbers, ties to the even mantissa;
* `whole?`: the integer a double stands for;
* `same`: equality of values, under which the zeros agree and not-a-number differs from itself.
-/

namespace TraversalScript

/-- A finite double: `mantissa · 2 ^ exponent` units of `2 ^ -1074`, with a sign. -/
structure Finite where
  negative : Bool
  mantissa : Nat
  exponent : Nat
  mantissa_lt : mantissa < Nat.pow 2 53
  normal : exponent = 0 ∨ Nat.pow 2 52 ≤ mantissa
  exponent_le : exponent ≤ 2045
deriving DecidableEq

/-- The doubles. -/
inductive Binary64 where
  | nan
  | infinity (negative : Bool)
  | finite (x : Finite)
deriving DecidableEq

/-- The number of units in one. -/
def unitsPerOne : Nat := Nat.pow 2 1074

/-- The integer nearest to `num / den`; a half goes to the even neighbour. -/
def roundHalfEven (num den : Nat) : Nat :=
  let q := num / den
  let r := num % den
  if 2 * r < den ∨ (2 * r = den ∧ q % 2 = 0) then q else q + 1

namespace Finite

/-- The size in units. -/
def size (x : Finite) : Nat := x.mantissa * Nat.pow 2 x.exponent

/-- The value in units. -/
def units (x : Finite) : Int := if x.negative then -(x.size : Int) else x.size

/-- The zero of a sign. -/
def zero (negative : Bool) : Finite :=
  ⟨negative, 0, 0, by decide, .inl rfl, by decide⟩

/-- The same double without its sign. -/
def abs (x : Finite) : Finite := { x with negative := false }

/-- The finite double with these fields, if they keep the bounds. -/
def ofParts? (negative : Bool) (mantissa exponent : Nat) : Option Finite :=
  if h : mantissa < Nat.pow 2 53 ∧ (exponent = 0 ∨ Nat.pow 2 52 ≤ mantissa) ∧ exponent ≤ 2045 then
    some ⟨negative, mantissa, exponent, h.1, h.2.1, h.2.2⟩
  else
    none

/-- The fields are kept when they keep the bounds. -/
theorem ofParts?_eq (x : Finite) : ofParts? x.negative x.mantissa x.exponent = some x := by
  simp only [ofParts?]
  rw [dif_pos ⟨x.mantissa_lt, x.normal, x.exponent_le⟩]

/-- The finite double nearest to `num / den` units; none when it lies beyond the largest. -/
def nearest? (negative : Bool) (num den : Nat) : Option Finite :=
  let exponent := (num / den).log2 + 1 - 53
  let mantissa := roundHalfEven num (den * Nat.pow 2 exponent)
  if mantissa = Nat.pow 2 53 then ofParts? negative (Nat.pow 2 52) (exponent + 1)
  else ofParts? negative mantissa exponent

end Finite

namespace Binary64

/-- The double nearest to `num / den` units; past the largest finite one it is an infinity. -/
def nearest (negative : Bool) (num den : Nat) : Binary64 :=
  match Finite.nearest? negative num den with
  | some x => .finite x
  | none => .infinity negative

/-- The double nearest to an integer. -/
def ofInt (n : Int) : Binary64 := nearest (n < 0) (n.natAbs * unitsPerOne) 1

/-- The integer a double stands for. -/
def whole? : Binary64 → Option Int
  | .finite x => if x.units % (unitsPerOne : Int) = 0 then some (x.units / unitsPerOne) else none
  | _ => none

/-- Whether a double is neither infinite nor not-a-number. -/
def isFinite : Binary64 → Bool
  | .finite _ => true
  | _ => false

/-- Whether a double is one of the zeros. -/
def isZero : Binary64 → Bool
  | .finite x => x.mantissa == 0
  | _ => false

/-- Equality of values: the two zeros agree and not-a-number differs from itself. -/
def same : Binary64 → Binary64 → Bool
  | .finite x, .finite y => x.units == y.units
  | .infinity p, .infinity q => p == q
  | _, _ => false

/-- Whether a double has the value of an integer. -/
def sameInt : Binary64 → Int → Bool
  | .finite x, n => x.units == n * unitsPerOne
  | _, _ => false

end Binary64

end TraversalScript
