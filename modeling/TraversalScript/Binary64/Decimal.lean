import TraversalScript.Binary64.Basic

/-!
# Decimals

Decimal numerals, and the double nearest to one.

* `Decimal`: `digits · 10 ^ exponent`;
* `digitsText`, `digitsValue`: natural numbers and their decimal digits;
* `Decimal.ofText?`: reads a numeral with optional sign, point and exponent;
* `Binary64.ofDecimal`: the nearest double, ties to even, computed on exact integers.
-/

namespace TraversalScript

/-- The number `digits · 10 ^ exponent`. -/
structure Decimal where
  digits : Nat
  exponent : Int
deriving DecidableEq

/-! ## Digits -/

/-- The decimal digits of a natural number, the first one first. -/
def digitsText (n : Nat) : List Char := Nat.toDigits 10 n

/-- The decimal text of an integer. -/
def intText (n : Int) : List Char :=
  if n < 0 then '-' :: digitsText n.natAbs else digitsText n.natAbs

/-- The number that a list of digits spells. -/
def digitsValue (cs : List Char) : Nat :=
  cs.foldl (fun n c => 10 * n + (c.toNat - '0'.toNat)) 0

/-- The number of decimal digits. -/
def digitCount (n : Nat) : Nat := (digitsText n).length

/-- The leading digits of a text and what follows them. -/
def spanDigits (cs : List Char) : List Char × List Char :=
  (cs.takeWhile Char.isDigit, cs.dropWhile Char.isDigit)

/-- The leading sign of a text, minus or not, and what follows it. -/
def spanSign : List Char → Bool × List Char
  | '-' :: cs => (true, cs)
  | '+' :: cs => (false, cs)
  | cs => (false, cs)

namespace Decimal

/-- The decimal with these digits before and after the point, times a power of ten. -/
def ofDigits (before after : List Char) (power : Int) : Decimal :=
  ⟨digitsValue (before ++ after), power - after.length⟩

/-- The power of ten that a text spells, if it is one: a mark, a sign and digits, or nothing. -/
def power? : List Char → Option Int
  | [] => some 0
  | c :: cs =>
    if c = 'e' ∨ c = 'E' then
      match spanSign cs with
      | (negative, ds) =>
        if ds.isEmpty || !ds.all Char.isDigit then none
        else some (if negative then -(digitsValue ds : Int) else digitsValue ds)
    else none

/-- A numeral without its sign. -/
def magnitude? (cs : List Char) : Option Decimal :=
  let (before, rest) := spanDigits cs
  let (after, rest) :=
    match rest with
    | '.' :: more => spanDigits more
    | _ => ([], rest)
  if before.isEmpty && after.isEmpty then none
  else (power? rest).map (ofDigits before after)

/-- A numeral: whether it is negative, and its size. -/
def ofText? (cs : List Char) : Option (Bool × Decimal) :=
  match spanSign cs with
  | (negative, rest) => (magnitude? rest).map (negative, ·)

end Decimal

/-! ## The nearest double -/

namespace Finite

/-- The finite double nearest to a decimal; none when it lies beyond the largest.

Decimals of more than 310 places before the point are past every double, and those that start 330
places after it are nearer to zero than to any other double. -/
def ofDecimal? (negative : Bool) (d : Decimal) : Option Finite :=
  let places := d.exponent + digitCount d.digits
  if d.digits = 0 ∨ places < -330 then some (zero negative)
  else if 311 < places then none
  else if d.exponent < 0 then
    nearest? negative (d.digits * unitsPerOne) (Nat.pow 10 d.exponent.natAbs)
  else
    nearest? negative (d.digits * Nat.pow 10 d.exponent.natAbs * unitsPerOne) 1

end Finite

namespace Binary64

/-- The double nearest to a decimal. -/
def ofDecimal (negative : Bool) (d : Decimal) : Binary64 :=
  match Finite.ofDecimal? negative d with
  | some x => .finite x
  | none => .infinity negative

/-- The double that a numeral or one of the names `nan`, `inf` spells. -/
def ofText? (s : String) : Option Binary64 :=
  match spanSign s.toList with
  | (negative, ['i', 'n', 'f']) => some (.infinity negative)
  | (_, ['n', 'a', 'n']) => some .nan
  | (negative, cs) => (Decimal.magnitude? cs).map (ofDecimal negative)

end Binary64

end TraversalScript
