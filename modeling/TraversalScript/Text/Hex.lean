/-!
# Hexadecimal numbers

Numbers as hexadecimal digits of a fixed width, and back.

* `hexText`: a number in a fixed number of lower-case digits;
* `hexValue?`: the number that hexadecimal digits of either case spell;
* `hexValue?_hexText`: the second undoes the first for numbers that fit.
-/

namespace TraversalScript

/-- The lower-case hexadecimal digit of a number below sixteen. -/
def hexDigit (n : Nat) : Char :=
  if n < 10 then Char.ofNat ('0'.toNat + n) else Char.ofNat ('a'.toNat + (n - 10))

/-- The number that a hexadecimal digit stands for. -/
def hexDigit? (c : Char) : Option Nat :=
  if '0' ≤ c ∧ c ≤ '9' then some (c.toNat - '0'.toNat)
  else if 'a' ≤ c ∧ c ≤ 'f' then some (c.toNat - 'a'.toNat + 10)
  else if 'A' ≤ c ∧ c ≤ 'F' then some (c.toNat - 'A'.toNat + 10)
  else none

/-- A number in so many hexadecimal digits, the higher ones dropped. -/
def hexText : Nat → Nat → List Char
  | 0, _ => []
  | width + 1, n => hexText width (n / 16) ++ [hexDigit (n % 16)]

/-- The number that a list of hexadecimal digits spells after those already read. -/
def hexValueFrom? (start : Nat) : List Char → Option Nat
  | [] => some start
  | c :: cs => (hexDigit? c).bind fun d => hexValueFrom? (16 * start + d) cs

/-- The number that a list of hexadecimal digits spells. -/
def hexValue? (cs : List Char) : Option Nat := hexValueFrom? 0 cs

theorem hexDigit?_hexDigit {n : Nat} (h : n < 16) : hexDigit? (hexDigit n) = some n := by
  have : ∀ m : Fin 16, hexDigit? (hexDigit m) = some m.val := by decide
  exact this ⟨n, h⟩

theorem hexValueFrom?_append (start : Nat) (cs ds : List Char) :
    hexValueFrom? start (cs ++ ds) = (hexValueFrom? start cs).bind (hexValueFrom? · ds) := by
  induction cs generalizing start with
  | nil => rfl
  | cons c cs ih =>
    simp only [List.cons_append, hexValueFrom?]
    cases hexDigit? c with
    | none => rfl
    | some d => exact ih _

/-- Reading the digits of a number that fits gives the number back. -/
theorem hexValue?_hexText {width n : Nat} (h : n < Nat.pow 16 width) :
    hexValue? (hexText width n) = some n := by
  induction width generalizing n with
  | zero =>
    have : n = 0 := by simpa using h
    subst this; rfl
  | succ width ih =>
    have hd : n / 16 < Nat.pow 16 width := by
      rw [Nat.div_lt_iff_lt_mul (by decide)]
      exact h
    have hr : n % 16 < 16 := Nat.mod_lt _ (by decide)
    simp only [hexValue?, hexText, hexValueFrom?_append] at ih ⊢
    rw [ih hd]
    simp only [Option.bind_some, hexValueFrom?, hexDigit?_hexDigit hr]
    congr 1
    omega

end TraversalScript
