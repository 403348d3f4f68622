import Mathlib.Algebra.Order.Ring.Nat
import TraversalScript.Binary64.Places
import TraversalScript.Form.Moment
import TraversalScript.Proofs.Numeral

/-!
# Fields of digits

Numbers that are written with a fixed number of digits.

* `digitsValue_append`, `digitsValue_lt`, `digitsValue_injective`: the number that digits spell;
* `length_paddedDigits`, `digitsValue_paddedDigits`: a number written with so many digits;
* `paddedDigits_digitsValue`: digits are what their number is written with;
* **`digits?_eq_some`**: so many digits are read exactly where they are written.
-/

namespace TraversalScript

/-! ## The number that digits spell -/

section Digits

variable {cs ds : List Char}

theorem digitsValue_append (cs ds : List Char) :
    digitsValue (cs ++ ds) = 10 ^ ds.length * digitsValue cs + digitsValue ds := by
  change Nat.ofDigitChars 10 (cs ++ ds) 0 = _
  rw [Nat.ofDigitChars_append, Nat.ofDigitChars_eq_ofDigitChars_zero]
  rfl

theorem digitsValue_cons (c : Char) (cs : List Char) :
    digitsValue (c :: cs) = 10 ^ cs.length * (c.toNat - 48) + digitsValue cs := by
  have hc : digitsValue [c] = c.toNat - 48 := Nat.zero_add _
  rw [← List.singleton_append, digitsValue_append, hc]

theorem digitsValue_zeros (n : Nat) : digitsValue (List.replicate n '0') = 0 :=
  Nat.ofDigitChars_replicate_zero

/-- The codes of the digits. -/
theorem toNat_of_isDigit {c : Char} (h : c.isDigit = true) : 48 ≤ c.toNat ∧ c.toNat ≤ 57 := by
  simp only [Char.isDigit, Bool.and_eq_true, decide_eq_true_eq, ge_iff_le, UInt32.le_iff_toNat_le]
    at h
  exact h

theorem digitsValue_lt (h : ∀ c ∈ ds, c.isDigit = true) : digitsValue ds < 10 ^ ds.length := by
  induction ds with
  | nil => decide
  | cons d ds ih =>
    rw [List.forall_mem_cons] at h
    have hd := toNat_of_isDigit h.1
    have hv := ih h.2
    rw [digitsValue_cons, List.length_cons, Nat.pow_succ]
    calc 10 ^ ds.length * (d.toNat - 48) + digitsValue ds
        < 10 ^ ds.length * (d.toNat - 48) + 10 ^ ds.length * 1 := by omega
      _ = 10 ^ ds.length * (d.toNat - 48 + 1) := (Nat.mul_add ..).symm
      _ ≤ 10 ^ ds.length * 10 := Nat.mul_le_mul_left _ (by omega)

/-- Equally many digits of one number are the same digits. -/
theorem digitsValue_injective (hl : cs.length = ds.length) (hc : ∀ c ∈ cs, c.isDigit = true)
    (hd : ∀ c ∈ ds, c.isDigit = true) (hv : digitsValue cs = digitsValue ds) : cs = ds := by
  induction cs generalizing ds with
  | nil => exact (List.length_eq_zero_iff.1 hl.symm).symm
  | cons c cs ih =>
    cases ds with
    | nil => cases hl
    | cons d ds =>
      rw [List.length_cons, List.length_cons, Nat.add_right_cancel_iff] at hl
      rw [List.forall_mem_cons] at hc hd
      rw [digitsValue_cons, digitsValue_cons, hl] at hv
      have hcl := digitsValue_lt hc.2
      have hdl := digitsValue_lt hd.2
      rw [hl] at hcl
      have hfirst : c.toNat - 48 = d.toNat - 48 := by
        have := congrArg (· / 10 ^ ds.length) hv
        simpa [Nat.mul_add_div, Nat.div_eq_of_lt, hcl, hdl] using this
      have hcd : c = d := by
        have h1 := toNat_of_isDigit hc.1
        have h2 := toNat_of_isDigit hd.1
        exact Char.toNat_inj.1 (by omega)
      rw [hfirst, Nat.add_left_cancel_iff] at hv
      rw [hcd, ih hl hc.2 hd.2 hv]

end Digits

/-! ## Numbers with so many digits -/

section Padded

variable {width n : Nat}

theorem length_paddedDigits (hw : 0 < width) (h : n < 10 ^ width) :
    (paddedDigits width n).length = width := by
  have hl : (digitsText n).length ≤ width := (Nat.length_toDigits_le_iff (by decide) hw).2 h
  simp only [paddedDigits, List.length_append, List.length_replicate]
  omega

theorem isDigit_of_mem_paddedDigits {c : Char} (h : c ∈ paddedDigits width n) :
    c.isDigit = true := by
  rcases List.mem_append.1 h with h | h
  · rw [List.eq_of_mem_replicate h]
    rfl
  · exact isDigit_of_mem_digitsText h

theorem digitsValue_paddedDigits (width n : Nat) : digitsValue (paddedDigits width n) = n := by
  rw [paddedDigits, digitsValue_append, digitsValue_zeros, digitsValue_digitsText]
  omega

/-- Digits are what their number is written with. -/
theorem paddedDigits_digitsValue {ds : List Char} (hne : ds ≠ [])
    (hd : ∀ c ∈ ds, c.isDigit = true) : paddedDigits ds.length (digitsValue ds) = ds :=
  digitsValue_injective (length_paddedDigits (List.length_pos_iff.2 hne) (digitsValue_lt hd))
    (fun _ => isDigit_of_mem_paddedDigits) hd (digitsValue_paddedDigits _ _)

/-- **So many digits are read exactly where they are written.** -/
theorem digits?_eq_some (hw : 0 < width) {cs rest : List Char} :
    Moment.digits? width cs = some (n, rest) ↔
      n < 10 ^ width ∧ cs = paddedDigits width n ++ rest := by
  simp only [Moment.digits?]
  constructor
  · intro h
    split_ifs at h with hd
    · cases h
      have hall : ∀ c ∈ cs.take width, c.isDigit = true := List.all_eq_true.1 hd.2
      have hne : cs.take width ≠ [] := by
        rw [← List.length_pos_iff, hd.1]
        exact hw
      have hp := paddedDigits_digitsValue hne hall
      have hv := digitsValue_lt hall
      rw [hd.1] at hp hv
      exact ⟨hv, by rw [hp, List.take_append_drop]⟩
  · rintro ⟨hn, rfl⟩
    have hl := length_paddedDigits hw hn
    have ht : (paddedDigits width n ++ rest).take width = paddedDigits width n :=
      List.take_left' hl
    rw [ht, List.drop_left' hl, digitsValue_paddedDigits]
    refine if_pos ⟨hl, List.all_eq_true.2 fun c => isDigit_of_mem_paddedDigits⟩

end Padded

end TraversalScript
