import Mathlib.Tactic.SplitIfs
import TraversalScript.Script.Literal

/-!
# Numbers as text

Which characters a number is written with, and how an integer is read back.

* `isNumeral`, `Numeric`: the characters of numbers, and the texts of nothing else;
* `numeric_intText`, **`numeric_finite`**: integers and finite doubles are written with them;
* `readInt`, **`readInt_intText`**: an integer and what follows it;
* `intText_append_cons`: different integers are told apart, whatever follows them but digits.
-/

namespace TraversalScript

/-! ## The characters of numbers -/

/-- A character of a number. -/
def isNumeral (c : Char) : Bool := c.isDigit || c = '-' || c = '+' || c = '.' || c = 'e'

/-- A text of no other characters than those of numbers. -/
def Numeric (cs : List Char) : Prop := ∀ c ∈ cs, isNumeral c = true

namespace Numeric

variable {c : Char} {cs ds : List Char}

theorem nil : Numeric [] := by simp [Numeric]

theorem cons (hc : isNumeral c = true) (hs : Numeric cs) : Numeric (c :: cs) :=
  List.forall_mem_cons.2 ⟨hc, hs⟩

theorem append (hc : Numeric cs) (hd : Numeric ds) : Numeric (cs ++ ds) :=
  List.forall_mem_append.2 ⟨hc, hd⟩

theorem mono (h : Numeric ds) (hs : ∀ c ∈ cs, c ∈ ds) : Numeric cs := fun c hc => h c (hs c hc)

theorem replicate (n : Nat) : Numeric (List.replicate n '0') := fun c hc => by
  rw [List.eq_of_mem_replicate hc]; rfl

end Numeric

theorem isDigit_of_mem_digitsText {n : Nat} {c : Char} (hc : c ∈ digitsText n) :
    c.isDigit = true :=
  Nat.isDigit_of_mem_toDigits (by decide) (by decide) hc

theorem numeric_digitsText (n : Nat) : Numeric (digitsText n) := fun c hc => by
  simp [isNumeral, isDigit_of_mem_digitsText hc]

theorem numeric_intText (n : Int) : Numeric (intText n) := by
  unfold intText
  split_ifs
  · exact .cons rfl (numeric_digitsText _)
  · exact numeric_digitsText _

theorem numeric_shownInt (n : Int) : Numeric (shownInt n).toList := by
  simpa [shownInt] using numeric_intText n

theorem numeric_powerText (p : Int) : Numeric (Layout.script.powerText p) := by
  refine .cons rfl (.cons ?_ ((Numeric.replicate _).append (numeric_digitsText _)))
  split_ifs <;> rfl

theorem Numeric.place {ds : List Char} (h : Numeric ds) (p : Int) :
    Numeric (Layout.script.place ds p) := by
  unfold Layout.place
  split_ifs
  · exact .cons rfl (.cons rfl ((Numeric.replicate _).append h))
  · refine ((h.mono fun c => List.mem_of_mem_take).append (Numeric.replicate _)).append
      (.cons rfl ?_)
    unfold afterPoint
    split_ifs
    · exact .cons rfl .nil
    · exact h.mono fun c => List.mem_of_mem_drop
  · match ds with
    | [] => exact numeric_powerText p
    | [d] => exact h.append (numeric_powerText p)
    | d :: e :: more =>
      exact .cons (h d List.mem_cons_self)
        (.cons rfl ((h.mono fun c => List.mem_cons_of_mem d).append (numeric_powerText p)))

theorem numeric_decimal (d : Decimal) : Numeric (Layout.script.decimal d) := by
  unfold Layout.decimal
  split_ifs
  · exact .cons rfl (.cons rfl (.cons rfl .nil))
  · refine ((numeric_digitsText d.digits).mono fun c hc => ?_).place _
    exact List.mem_reverse.1 ((List.dropWhile_sublist _).subset (List.mem_reverse.1 hc))

/-- **A finite double is written with the characters of numbers.** -/
theorem numeric_finite (x : Finite) : Numeric (Binary64.finite x).text := by
  simp only [Binary64.text, Layout.finite]
  split_ifs
  · exact .cons rfl (numeric_decimal _)
  · exact .cons rfl (numeric_decimal _)
  · exact numeric_decimal _
  · exact numeric_decimal _

/-! ## Integers read back -/

theorem digitsValue_digitsText (n : Nat) : digitsValue (digitsText n) = n :=
  Nat.ofDigitChars_ten_toDigits

theorem spanDigits_append {ds rest : List Char} (hd : ∀ c ∈ ds, c.isDigit = true)
    (hr : ∀ c ∈ rest.head?, c.isDigit = false) : spanDigits (ds ++ rest) = (ds, rest) := by
  rw [spanDigits, List.takeWhile_append_of_pos hd, List.dropWhile_append_of_pos hd]
  cases rest with
  | nil => simp
  | cons c rest => simp [hr c rfl]

/-- An integer, and what follows its digits. -/
def readInt (cs : List Char) : Option (Int × List Char) :=
  match spanSign cs with
  | (negative, rest) =>
    match spanDigits rest with
    | ([], _) => none
    | (ds, more) => some (if negative then -(digitsValue ds : Int) else digitsValue ds, more)

theorem spanSign_digitsText (n : Nat) (rest : List Char) :
    spanSign (digitsText n ++ rest) = (false, digitsText n ++ rest) := by
  cases h : digitsText n with
  | nil => exact absurd h Nat.toDigits_ne_nil
  | cons d ds =>
    have hd : d.isDigit = true := isDigit_of_mem_digitsText (h ▸ List.mem_cons_self)
    rw [List.cons_append]
    unfold spanSign
    split
    · next he => cases he; cases hd
    · next he => cases he; cases hd
    · rfl

/-- **An integer is read back**, whatever follows it but a digit. -/
theorem readInt_intText (n : Int) {rest : List Char} (hr : ∀ c ∈ rest.head?, c.isDigit = false) :
    readInt (intText n ++ rest) = some (n, rest) := by
  have hs : spanDigits (digitsText n.natAbs ++ rest) = (digitsText n.natAbs, rest) :=
    spanDigits_append (fun c => isDigit_of_mem_digitsText) hr
  have hne : digitsText n.natAbs ≠ [] := Nat.toDigits_ne_nil
  have hv : (digitsValue (digitsText n.natAbs) : Int) = n.natAbs := by rw [digitsValue_digitsText]
  unfold readInt intText
  split_ifs with hn
  · simp only [List.cons_append, spanSign, hs, if_true, hv]
    congr 2
    omega
  · simp only [spanSign_digitsText, hs, Bool.false_eq_true, if_false, hv]
    congr 2
    omega

/-- An integer can be told from what it is followed by, unless that is a digit. -/
theorem intText_append_cons {m n : Int} {c : Char} (hc : c.isDigit = false) {more rest : List Char}
    (h : intText m ++ c :: more = intText n ++ c :: rest) : m = n ∧ more = rest := by
  have hr (n : Int) (rest : List Char) : readInt (intText n ++ c :: rest) = some (n, c :: rest) :=
    readInt_intText n fun d hd => by
      cases hd
      exact hc
  have hm := hr m more
  rw [h, hr n rest] at hm
  cases hm
  exact ⟨rfl, rfl⟩

end TraversalScript
