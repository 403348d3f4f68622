import TraversalScript.Binary64.Decimal

/-!
# The shortest decimal of a double

A double is written with the fewest digits that read back as it.

* `Finite.exact`: the full decimal expansion;
* `Decimal.neighbours`: the decimals around a number on a coarser grid, the nearer one first;
* **`Finite.shortest`**: the first neighbour, over one to seventeen digits, that reads back;
* `Layout`, `Layout.text`: where the point and the power of ten go.
-/

namespace TraversalScript

/-! ## Choice of digits -/

/-- The decimals around a number on the grid that drops its last digits: the nearer one first, of
two equally near ones the even one. -/
def Decimal.neighbours (d : Decimal) (dropped : Nat) : List Decimal :=
  let grid := Nat.pow 10 dropped
  let low := d.digits / grid
  let rest := d.digits % grid
  let below : Decimal := ⟨low, d.exponent + dropped⟩
  let above : Decimal := ⟨low + 1, d.exponent + dropped⟩
  if rest = 0 then [below]
  else if roundHalfEven d.digits grid = low then [below, above]
  else [above, below]

namespace Finite

/-- The full decimal expansion of the size. -/
def exact (x : Finite) : Decimal := ⟨x.size * Nat.pow 5 1074, -1074⟩

/-- Whether a decimal rounds to the size of a double. -/
def readsBack (x : Finite) (d : Decimal) : Bool := ofDecimal? false d == some x.abs

/-- **The shortest decimal** that rounds to the size of a double. -/
def shortest (x : Finite) : Decimal :=
  let exact := x.exact
  let count := digitCount exact.digits
  let found := (List.range 17).findSome? fun n =>
    (exact.neighbours (count - (n + 1))).find? x.readsBack
  found.getD exact

end Finite

/-! ## Layout -/

/-- How a decimal is laid out: the leading powers of ten that are written with a point alone, and
the mark and least number of digits of a written power. -/
structure Layout where
  leastPlain : Int
  mostPlain : Int
  mark : Char
  powerDigits : Nat

/-- Scripts write powers from -4 to 15 with a point alone, and others as `e` with a sign and two
digits. -/
def Layout.script : Layout := ⟨-4, 15, 'e', 2⟩

/-- A list of digits without the zeros at its end. -/
def dropEndZeros (ds : List Char) : List Char := (ds.reverse.dropWhile (· == '0')).reverse

/-- Digits after a point, at least one. -/
def afterPoint (ds : List Char) : List Char := if ds.isEmpty then ['0'] else ds

namespace Layout

/-- A signed power of ten. -/
def powerText (l : Layout) (power : Int) : List Char :=
  let ds := digitsText power.natAbs
  l.mark :: (if power < 0 then '-' else '+') ::
    (List.replicate (l.powerDigits - ds.length) '0' ++ ds)

/-- The text of the number whose digits are `ds`, the first of them at a power of ten. -/
def place (l : Layout) (ds : List Char) (power : Int) : List Char :=
  if l.leastPlain ≤ power ∧ power ≤ l.mostPlain then
    if power < 0 then
      '0' :: '.' :: (List.replicate (power.natAbs - 1) '0' ++ ds)
    else
      let whole := power.natAbs + 1
      ds.take whole ++ List.replicate (whole - ds.length) '0' ++
        '.' :: afterPoint (ds.drop whole)
  else
    match ds with
    | [] => l.powerText power
    | [d] => d :: l.powerText power
    | d :: more => d :: '.' :: (more ++ l.powerText power)

/-- The text of a decimal. -/
def decimal (l : Layout) (d : Decimal) : List Char :=
  if d.digits = 0 then ['0', '.', '0']
  else
    let ds := digitsText d.digits
    l.place (dropEndZeros ds) (d.exponent + ds.length - 1)

/-- The text of a finite double. -/
def finite (l : Layout) (x : Finite) : List Char :=
  let text := l.decimal (if x.mantissa = 0 then ⟨0, 0⟩ else x.shortest)
  if x.negative then '-' :: text else text

end Layout

/-- The text of a double. -/
def Binary64.text : Binary64 → List Char
  | .nan => ['n', 'a', 'n']
  | .infinity negative => if negative then ['-', 'i', 'n', 'f'] else ['i', 'n', 'f']
  | .finite x => Layout.script.finite x

end TraversalScript
