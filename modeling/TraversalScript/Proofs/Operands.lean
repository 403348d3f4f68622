import TraversalScript.Proofs.Numeral
import TraversalScript.Script.Predicate

/-!
# When an operand is written

* `toLiteral_cases`: a literal is a quoted text, a truth value or a number;
* `isBound_eq`, `toLong_eq_ok`: a bound of a range is what stands for milliseconds;
* `numberText_eq_ok`, `literalText_eq_ok`, `countText_eq_ok`: numbers of not too many digits are
  written, and so is all else;
* `operandAs_eq_ok`, `subjectText_eq_ok`: the parts of a leaf, and when they are there.
-/

namespace TraversalScript

variable {v : Value} {t : String}

/-! ## Literals -/

/-- A literal is a quoted text, a truth value or a number. -/
theorem toLiteral_cases (h : toLiteral v = .ok t) :
    (∃ s, v = .text s ∧ t = Quoted.literal s) ∨
      (∃ b, v = .bool b ∧ t = if b then "true" else "false") ∨
      ((∀ s, v ≠ .text s) ∧ (∀ b, v ≠ .bool b) ∧ Numeric t.toList) := by
  cases v with
  | bool b => cases h; exact .inr (.inl ⟨b, rfl, rfl⟩)
  | text s => cases h; exact .inl ⟨s, rfl, rfl⟩
  | int | dateTime | date => cases h; exact .inr (.inr ⟨nofun, nofun, numeric_shownInt _⟩)
  | real x =>
    cases x with
    | finite x =>
      cases h
      exact .inr (.inr ⟨nofun, nofun, by simpa [Literal.write] using numeric_finite x⟩)
    | nan | infinity => cases h
  | _ => cases h

/-! ## Milliseconds -/

theorem toMilliseconds_eq_ok {n : Int} : toMilliseconds v = .ok n ↔ milliseconds? v = some n := by
  unfold toMilliseconds
  cases milliseconds? v <;> simp

theorem isBound_eq (v : Value) : isBound v = (milliseconds? v).isSome := by
  cases v <;> rfl

theorem toLong_eq_ok {n : Int} : toLong v = .ok n ↔ milliseconds? v = some n := by
  unfold toLong
  rw [isBound_eq]
  cases h : milliseconds? v <;> simp [toMilliseconds, h]

/-! ## Numbers -/

theorem numberText_eq_ok {n : Int} : numberText n = .ok t ↔ isWritable n = true ∧ t = shownInt n := by
  unfold numberText
  cases isWritable n <;> simp [eq_comm]

theorem numberText_eq_error {n : Int} {m : Misuse} :
    numberText n = .error m ↔ isWritable n = false ∧ m = .badValue := by
  unfold numberText
  cases isWritable n <;> simp [eq_comm]

namespace Literal

/-- Whether a literal can be written. -/
def isWritable : Literal → Bool
  | count n => TraversalScript.isWritable n
  | _ => true

theorem print_eq_ok {l : Literal} : l.print = .ok t ↔ l.isWritable = true ∧ t = l.write := by
  cases l with
  | count n => exact numberText_eq_ok
  | _ => simp [print, isWritable, eq_comm]

theorem print_eq_error {l : Literal} {m : Misuse} :
    l.print = .error m ↔ l.isWritable = false ∧ m = .badValue := by
  cases l with
  | count n => exact numberText_eq_error
  | _ => simp [print, isWritable]

end Literal

theorem toLiteral_eq_ok : toLiteral v = .ok t ↔ ∃ l, Literal.ofValue v = .ok l ∧ t = l.write := by
  unfold toLiteral
  cases Literal.ofValue v <;> simp [Except.map, eq_comm]

/-! ## The parts of a leaf -/

theorem bind_eq_ok {ε α β : Type} {x : Except ε α} {f : α → Except ε β} {b : β} :
    x >>= f = .ok b ↔ ∃ a, x = .ok a ∧ f a = .ok b := by
  cases x <;> simp [bind, Except.bind]

theorem bind_eq_error {ε α β : Type} {x : Except ε α} {f : α → Except ε β} {e : ε} :
    x >>= f = .error e ↔ x = .error e ∨ ∃ a, x = .ok a ∧ f a = .error e := by
  cases x <;> simp [bind, Except.bind]

theorem toOption_eq_some {ε α : Type} {x : Except ε α} {a : α} :
    x.toOption = some a ↔ x = .ok a := by
  cases x <;> simp [Except.toOption]

/-- A value that is a text. -/
def Value.text? : Value → Option String
  | .text s => some s
  | _ => none

theorem quoteValue_eq_ok :
    (quoteValue v).mapError Fault.misuse = .ok t ↔
      ∃ s, v.text? = some s ∧ t = Quoted.literal s := by
  unfold quoteValue
  split <;> simp_all [Value.text?, Except.mapError, eq_comm]

section Leaf

variable {r : Renaming} {subject : Value} {operand : Nat → Except Misuse Value}

theorem subjectText_eq_ok :
    subjectText r subject = .ok t ↔ ∃ s, (r.apply subject).text? = some s ∧ t = Quoted.literal s :=
  quoteValue_eq_ok

theorem operandAs_eq_ok {α : Type} {read : Value → Except ScriptError α} {i : Nat} {a : α} :
    operandAs operand read i = .ok a ↔ ∃ v, operand i = .ok v ∧ read v = .ok a := by
  unfold operandAs
  rw [bind_eq_ok]
  cases operand i with
  | error m => simp [Except.mapError]
  | ok v => cases hr : read v <;> simp [Except.mapError, hr]

theorem literalText_eq_ok {l : Literal} :
    literalText l = .ok t ↔ l.isWritable = true ∧ t = l.write := by
  rw [literalText, ← Literal.print_eq_ok]
  cases l.print <;> simp [Except.mapError]

theorem countText_eq_ok {n : Int} :
    countText n = .ok t ↔ isWritable n = true ∧ t = shownInt n :=
  literalText_eq_ok

end Leaf

end TraversalScript
