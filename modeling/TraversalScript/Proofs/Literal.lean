import TraversalScript.Text.Quoted

/-!
# The characters of literals

* `mem_hexText`: numbers in hexadecimal are written with hexadecimal digits;
* `Quoted.encodeChar_cases`: the three ways in which a character is written;
* **`Quoted.isCoded_of_mem_literal`**: a literal holds no control character, whatever its text.
-/

namespace TraversalScript

/-- Numbers in hexadecimal are written with hexadecimal digits. -/
theorem mem_hexText {width n : Nat} {c : Char} (h : c ∈ hexText width n) :
    ∃ d : Fin 16, c = hexDigit d := by
  induction width generalizing n with
  | zero => cases h
  | succ width ih =>
    rw [hexText, List.mem_append, List.mem_singleton] at h
    rcases h with h | rfl
    · exact ih h
    · exact ⟨⟨n % 16, Nat.mod_lt n (by decide)⟩, rfl⟩

namespace Quoted

/-- A character is written as a backslash and a letter, as a backslash and its code, or as it is. -/
theorem encodeChar_cases (c : Char) :
    (∃ l, encodeChar c = ['\\', l] ∧ isCoded l = false) ∨
      (encodeChar c = '\\' :: 'u' :: hexText 4 c.toNat) ∨
      (encodeChar c = [c] ∧ c ≠ '\\' ∧ c ≠ '\'' ∧ isCoded c = false) := by
  unfold encodeChar
  by_cases hb : c = '\\'
  · exact .inl ⟨'\\', if_pos hb, rfl⟩
  by_cases hq : c = '\''
  · exact .inl ⟨'\'', by rw [if_neg hb, if_pos hq], rfl⟩
  rw [if_neg hb, if_neg hq]
  iterate 5
    split
    · exact .inl ⟨_, rfl, rfl⟩
  split
  · exact .inr (.inl rfl)
  · next hc => exact .inr (.inr ⟨rfl, hb, hq, Bool.eq_false_iff.2 hc⟩)

theorem isCoded_hexDigit : ∀ d : Fin 16, isCoded (hexDigit d) = false := by decide

theorem isCoded_of_mem_encodeChar {c d : Char} (h : d ∈ encodeChar c) : isCoded d = false := by
  rcases encodeChar_cases c with ⟨l, he, hl⟩ | he | ⟨he, -, -, hc⟩
  · rw [he, List.mem_cons, List.mem_singleton] at h
    rcases h with rfl | rfl
    · rfl
    · exact hl
  · rw [he, List.mem_cons, List.mem_cons] at h
    rcases h with rfl | rfl | h
    · rfl
    · rfl
    · obtain ⟨n, rfl⟩ := mem_hexText h
      exact isCoded_hexDigit n
  · rw [he, List.mem_singleton] at h
    rwa [h]

/-- **A literal holds no control character**, whatever its text. -/
theorem isCoded_of_mem_literal {s : String} {c : Char} (h : c ∈ (literal s).toList) :
    isCoded c = false := by
  simp only [literal, String.toList_ofList, encode, List.cons_append, List.mem_cons,
    List.mem_append, List.mem_flatMap, List.not_mem_nil, or_false] at h
  rcases h with rfl | ⟨d, -, hd⟩ | rfl
  · rfl
  · exact isCoded_of_mem_encodeChar hd
  · rfl

end Quoted

end TraversalScript
