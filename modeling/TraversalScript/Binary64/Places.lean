import TraversalScript.Binary64.Shortest

/-!
# Doubles with so many digits

A double is rounded to a number of digits and written with them, a tie going to the even last digit.

* `placedText`: digits with a point before the last of them;
* `Finite.scaled`: the size of a double rounded to so many digits, and the power of the first one;
* `Binary64.fixed`: so many places after the point;
* `Binary64.scientific`: so many places after the first digit, and a power of ten;
* `Binary64.general`: so many digits, with a power of ten where the number is large or small.
-/

namespace TraversalScript

/-- A number in at least so many digits. -/
def paddedDigits (width n : Nat) : List Char :=
  let ds := digitsText n
  List.replicate (width - ds.length) '0' ++ ds

/-- A natural number of units of which so many places are after the point, which may stand alone
at the end. -/
def placedText (places n : Nat) (pointed : Bool) : List Char :=
  let ds := paddedDigits (places + 1) n
  let before := ds.take (ds.length - places)
  if places = 0 && !pointed then before else before ++ '.' :: ds.drop (ds.length - places)

namespace Finite

/-- The power of ten of the first digit of a size that is not zero. -/
def leadingPower (x : Finite) : Int :=
  let guess : Int := (digitCount x.size : Int) - digitCount unitsPerOne
  let reached := unitsPerOne * Nat.pow 10 guess.toNat ≤ x.size * Nat.pow 10 (-guess).toNat
  if reached then guess else guess - 1

/-- The size rounded to so many places after its first digit, as digits and the power of the first
of them. -/
def scaled (places : Nat) (x : Finite) : Nat × Int :=
  if x.mantissa = 0 then (0, 0)
  else
    let power := x.leadingPower
    let shift := places - power
    let digits :=
      roundHalfEven (x.size * Nat.pow 10 shift.toNat) (unitsPerOne * Nat.pow 10 (-shift).toNat)
    if digits = Nat.pow 10 (places + 1) then (Nat.pow 10 places, power + 1) else (digits, power)

/-- The size with so many places after the point. -/
def fixedText (places : Nat) (pointed : Bool) (x : Finite) : List Char :=
  placedText places (roundHalfEven (x.size * Nat.pow 10 places) unitsPerOne) pointed

/-- The size with so many places after its first digit, and a power of ten. -/
def scientificText (places : Nat) (pointed : Bool) (x : Finite) : List Char :=
  let (digits, power) := x.scaled places
  placedText places digits pointed ++ Layout.script.powerText power

/-- Text without the zeros at the end of its places, and without a point that they leave alone. -/
def dropEndPlaces (cs : List Char) : List Char :=
  if cs.contains '.' then
    let kept := (cs.reverse.dropWhile (· == '0')).reverse
    if kept.getLast? == some '.' then kept.dropLast else kept
  else cs

/-- The size in so many digits, with a power of ten where it is large or small. Zeros at the end of
the places are dropped unless the point is asked for. -/
def generalText (digits : Nat) (pointed : Bool) (x : Finite) : List Char :=
  let places := digits - 1
  let (n, power) := x.scaled places
  let trim := if pointed then id else dropEndPlaces
  if -4 ≤ power ∧ power ≤ places then trim (x.fixedText (places - power).toNat pointed)
  else trim (placedText places n pointed) ++ Layout.script.powerText power

end Finite

namespace Binary64

/-- A double whose size is written in some way. -/
def signedText (write : Finite → List Char) : Binary64 → List Char
  | .nan => ['n', 'a', 'n']
  | .infinity negative => (if negative then ['-'] else []) ++ ['i', 'n', 'f']
  | .finite x => (if x.negative then ['-'] else []) ++ write x

/-- A double with so many places after the point. -/
def fixed (places : Nat) (pointed : Bool) (x : Binary64) : List Char :=
  signedText (Finite.fixedText places pointed) x

/-- A double with so many places after its first digit, and a power of ten. -/
def scientific (places : Nat) (pointed : Bool) (x : Binary64) : List Char :=
  signedText (Finite.scientificText places pointed) x

/-- A double in so many digits, at least one. -/
def general (digits : Nat) (pointed : Bool) (x : Binary64) : List Char :=
  signedText (Finite.generalText (max digits 1) pointed) x

end Binary64

end TraversalScript
