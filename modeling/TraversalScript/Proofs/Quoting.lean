import TraversalScript.Proofs.Decoding
import TraversalScript.Proofs.Literal

/-!
# Where literals end

A literal says its text and no other, and where it ends does not hang on what follows it.

* `PrefixFree`, `prefixFree_of_read`: writings that a reader finds the end of;
* `Quoted.read_append`, `readText_append`: a literal read to its end is read alike before more text;
* `readText_part`: a part of a literal from its start is no literal;
* `Quotation`: what the literals of texts are to be;
* **`quoteValue_quotation`**: texts are quoted as such literals.
-/

namespace TraversalScript

/-- Writings that say where they end: where two of them and what follows them make the same text,
they are of the same thing, and the same follows. -/
def PrefixFree {α : Type} (write : α → List Char) : Prop :=
  ∀ a b x y, write a ++ x = write b ++ y → a = b ∧ x = y

theorem prefixFree_of_read {α : Type} {write : α → List Char}
    {read : List Char → Option (α × List Char)}
    (h : ∀ a rest, read (write a ++ rest) = some (a, rest)) : PrefixFree write := by
  intro a b x y he
  have hread : some (a, x) = some (b, y) := by rw [← h a x, he, h b y]
  cases hread
  exact ⟨rfl, rfl⟩

/-! ## More text after a literal -/

theorem Quoted.read_append {cs s rest : List Char} (h : read cs = some (s, rest))
    (more : List Char) : read (cs ++ more) = some (s, rest ++ more) := by
  fun_induction read cs generalizing s rest with
  | case1 => cases h
  | case2 cs =>
    cases h
    rfl
  | case3 a b c d cs ih =>
    simp only [Option.bind_eq_some_iff, Option.map_eq_some_iff, Prod.exists, Prod.mk.injEq] at h
    obtain ⟨n, hn, t, r, ht, rfl, rfl⟩ := h
    simp only [List.cons_append, read, hn, ih ht, Option.bind_some, Option.map_some]
  | case4 c cs _ ih =>
    simp only [Option.bind_eq_some_iff, Option.map_eq_some_iff, Prod.exists, Prod.mk.injEq] at h
    obtain ⟨e, he, t, r, ht, rfl, rfl⟩ := h
    -- a code that is cut short is not read, so the letter does not begin one
    have hu : c ≠ 'u' := by
      rintro rfl
      cases he
    rw [List.cons_append, List.cons_append, read, he, ih ht]
    · rfl
    · exact fun _ _ _ _ _ h _ => hu h
  | case5 c cs hq _ hl ih =>
    simp only [Option.map_eq_some_iff, Prod.exists, Prod.mk.injEq] at h
    obtain ⟨t, r, ht, rfl, rfl⟩ := h
    have hb : c ≠ '\\' := by
      rintro rfl
      cases cs with
      | nil => cases ht
      | cons d cs => exact hl d cs rfl rfl
    rw [List.cons_append, read, ih ht]
    · rfl
    · exact hq
    · exact fun _ _ _ _ _ h _ => hb h
    · exact fun _ _ h _ => hb h

theorem readText_append {cs rest : List Char} {s : String} (h : readText cs = some (s, rest))
    (more : List Char) : readText (cs ++ more) = some (s, rest ++ more) := by
  cases cs with
  | nil => cases h
  | cons c cs =>
    by_cases hc : c = '\''
    · subst hc
      simp only [readText, Option.map_eq_some_iff, Prod.exists, Prod.mk.injEq] at h
      obtain ⟨t, r, ht, rfl, rfl⟩ := h
      simp only [List.cons_append, readText, Quoted.read_append ht, Option.map_some]
    · rw [readText] at h
      · cases h
      · rintro cs' ⟨⟩
        exact hc rfl

/-- **A part of a literal from its start is no literal.** -/
theorem readText_part {s : String} {part more : List Char} (h : quoted s = part ++ more)
    (hmore : more ≠ []) : readText part = none := by
  cases hp : readText part with
  | none => rfl
  | some found =>
    obtain ⟨t, rest⟩ := found
    have hs := readText_quoted s []
    rw [List.append_nil, h, readText_append hp] at hs
    simp only [Option.some.injEq, Prod.mk.injEq, List.append_eq_nil_iff] at hs
    exact absurd hs.2.2 hmore

/-! ## Literals -/

/-- What the literals of texts are to be: they hold no control character; each of them is read as
its text before whatever follows it, and no part of it from its start is read as any text; and they
agree, as does what follows them, where the whole does. -/
structure Quotation (quote : String → String) : Prop where
  printable : ∀ s, ∀ c ∈ (quote s).toList, 32 ≤ c.toNat ∧ c.toNat ≠ 127
  readable : ∀ s rest, readText ((quote s).toList ++ rest) = some (s, rest)
  whole : ∀ s part more, (quote s).toList = part ++ more → more ≠ [] → readText part = none
  unique : ∀ s t x y : String, quote s ++ x = quote t ++ y → s = t ∧ x = y

/-- **Texts are quoted as literals that can be told apart from whatever follows them.** -/
theorem quoteValue_quotation :
    ∃ quote, Quotation quote ∧ ∀ s, quoteValue (.text s) = .ok (quote s) := by
  refine ⟨Quoted.literal, ⟨?_, readText_quoted, fun _ _ _ => readText_part, ?_⟩, fun _ => rfl⟩
  · intro s c hc
    have hcoded := Quoted.isCoded_of_mem_literal hc
    simp only [Quoted.isCoded, Bool.or_eq_false_iff, decide_eq_false_iff_not, beq_eq_false_iff_ne]
      at hcoded
    exact ⟨Nat.not_lt.1 hcoded.1, hcoded.2⟩
  · intro s t x y h
    have hl : quoted s ++ x.toList = quoted t ++ y.toList := by
      rw [quoted, quoted, ← String.toList_append, h, String.toList_append]
    obtain ⟨hs, hx⟩ := prefixFree_of_read readText_quoted _ _ _ _ hl
    exact ⟨hs, String.toList_inj.1 hx⟩

/-- A text that looks like a code, or like the end of its literal, does not pass for it. -/
example : Quoted.literal "\\u0027'\\" = "'\\\\u0027\\'\\\\'" := by decide +kernel

end TraversalScript
