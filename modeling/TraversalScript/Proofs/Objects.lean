import Mathlib.Data.List.Nodup
import TraversalScript.Json.Reader
import TraversalScript.Json.Writer
import TraversalScript.Proofs.Literal

/-!
# Strings and objects of texts

What is written of a text is read back, whatever the text is, and an object of texts holds no
control character.

* `encodeChar_cases`: the ways in which a character is written;
* **`readString_encode`**: the inside of a string is read back up to its closing mark;
* `readName_quoted`, `readValue_text`: so are names and texts;
* `ofTexts`: the fields of an object of texts;
* `between`: the parts of an array or an object as they are written;
* **`le_of_mem_objectLine`**: no character of an object of texts is a control.
-/

namespace TraversalScript.Json

/-! ## Characters -/

/-- A character is written as a backslash and a letter that stands for it, as a backslash and its
code, or as it is. -/
theorem encodeChar_cases (c : Char) :
    (∃ l, encodeChar c = ['\\', l] ∧ escaped? l = some c ∧ 32 ≤ l.toNat) ∨
      (encodeChar c = '\\' :: 'u' :: hexText 4 c.toNat ∧ c.toNat < 32) ∨
      (encodeChar c = [c] ∧ c ≠ '"' ∧ c ≠ '\\' ∧ 32 ≤ c.toNat) := by
  by_cases hquote : c = '"'
  · exact .inl ⟨'"', by rw [hquote]; rfl, by rw [hquote]; rfl, by decide⟩
  by_cases hback : c = '\\'
  · exact .inl ⟨'\\', by rw [hback]; rfl, by rw [hback]; rfl, by decide⟩
  by_cases hline : c = '\n'
  · exact .inl ⟨'n', by rw [hline]; rfl, by rw [hline]; rfl, by decide⟩
  by_cases hreturn : c = '\r'
  · exact .inl ⟨'r', by rw [hreturn]; rfl, by rw [hreturn]; rfl, by decide⟩
  by_cases htab : c = '\t'
  · exact .inl ⟨'t', by rw [htab]; rfl, by rw [htab]; rfl, by decide⟩
  by_cases herase : c = '\x08'
  · exact .inl ⟨'b', by rw [herase]; rfl, by rw [herase]; rfl, by decide⟩
  by_cases hfeed : c = '\x0c'
  · exact .inl ⟨'f', by rw [hfeed]; rfl, by rw [hfeed]; rfl, by decide⟩
  rw [encodeChar, if_neg hquote, if_neg hback, if_neg hline, if_neg hreturn, if_neg htab,
    if_neg herase, if_neg hfeed]
  by_cases hlow : c.toNat < 32
  · rw [if_pos hlow]
    exact .inr (.inl ⟨rfl, hlow⟩)
  · rw [if_neg hlow]
    exact .inr (.inr ⟨rfl, hquote, hback, Nat.not_lt.1 hlow⟩)

/-! ## Strings -/

section Strings

variable (opening : Nat) {c : Char} (d : Char) (rest : List Char)

/-- The code of a control character is read back. -/
theorem readCode_hexText (h : c.toNat < 32) :
    readCode (hexText 4 c.toNat ++ d :: rest) = .ok (c, d :: rest) := by
  have hx := @hexValue?_hexText 4 c.toNat (by change c.toNat < 65536; omega)
  have hunit : readUnit? (hexText 4 c.toNat ++ d :: rest) = some (c.toNat, d :: rest) := by
    simp only [hexText, List.nil_append, List.cons_append] at hx ⊢
    rw [readUnit?, hx]
    rfl
  have hhigh : isHighHalf c.toNat = false := by
    simp only [isHighHalf, Bool.and_eq_false_iff, decide_eq_false_iff_not]
    omega
  have hlow : isLowHalf c.toNat = false := by
    simp only [isLowHalf, Bool.and_eq_false_iff, decide_eq_false_iff_not]
    omega
  have hc : charOfCode c.toNat = c := by
    rw [charOfCode, hhigh, hlow]
    exact Char.ofNat_toNat c
  rw [readCode, hunit]
  simp only [hhigh, Bool.false_and, Bool.false_eq_true, if_false, hc]
  split <;> rfl

theorem readString_letter {e : Char} (h : escaped? e = some c) :
    readString opening ('\\' :: e :: d :: rest) =
      (readString opening (d :: rest)).map fun (cs, tail) => (c :: cs, tail) := by
  have hu : e ≠ 'u' := by
    rintro rfl
    cases h
  rw [readString, h]
  exact hu

/-- A character is read back before whatever does not end the text. -/
theorem readString_encodeChar (c : Char) :
    readString opening (encodeChar c ++ d :: rest) =
      (readString opening (d :: rest)).map fun (cs, tail) => (c :: cs, tail) := by
  rcases encodeChar_cases c with ⟨l, he, hl, -⟩ | ⟨he, hc⟩ | ⟨he, hquote, hback, hc⟩
  · rw [he]
    exact readString_letter opening d rest hl
  · rw [he, List.cons_append, List.cons_append, readString, readCode_hexText d rest hc]
  · rw [he, List.singleton_append, readString, if_neg (Nat.not_lt.2 hc)]
    · exact hquote
    · exact fun hc => absurd hc hback
    · exact fun _ hc => absurd hc hback
    · exact fun _ _ hc => absurd hc hback

/-- **A string is read back**, and what follows its closing quotation mark is left. -/
theorem readString_encode (cs : List Char) :
    readString opening (encode cs ++ '"' :: rest) = .ok (cs, rest) := by
  induction cs with
  | nil => rw [encode, List.flatMap_nil, List.nil_append, readString]
  | cons c cs ih =>
    obtain ⟨d, more, hd⟩ : ∃ d more, encode cs ++ '"' :: rest = d :: more :=
      List.exists_cons_of_ne_nil (by simp)
    rw [encode, List.flatMap_cons, List.append_assoc]
    change readString opening (encodeChar c ++ (encode cs ++ '"' :: rest)) = _
    rw [hd, readString_encodeChar, ← hd, ih]
    rfl

end Strings

/-! ## Names, texts and objects -/

theorem skipBlanks_cons {c : Char} (h : isBlank c = false) (rest : List Char) :
    skipBlanks (c :: rest) = c :: rest := by
  simp [skipBlanks, h]

theorem quoted_append (s : String) (rest : List Char) :
    quoted s ++ rest = '"' :: (encode s.toList ++ '"' :: rest) := by
  simp [quoted]

theorem readName_quoted (name : String) (rest : List Char) :
    readName (quoted name ++ ':' :: ' ' :: rest) = .ok (name, skipBlanks rest) := by
  rw [quoted_append, readName, readString_encode]
  change Except.ok (String.ofList name.toList, skipBlanks (' ' :: rest)) = _
  rw [String.ofList_toList]
  rfl

theorem readValue_text (bound : Nat) (s : String) (rest : List Char) :
    readValue (bound + 1) (quoted s ++ rest) = .ok (.text s, rest) := by
  rw [quoted_append, readValue, readString_encode]
  change Except.ok (text (String.ofList s.toList), rest) = _
  rw [String.ofList_toList]

theorem insertField_new {fields : List (String × Json)} {name : String}
    (h : name ∉ fields.map Prod.fst) (j : Json) :
    insertField fields name j = fields ++ [(name, j)] := by
  rw [insertField, if_neg]
  rw [List.any_eq_true]
  rintro ⟨f, hf, he⟩
  exact h (List.mem_map.2 ⟨f, hf, beq_iff_eq.1 he⟩)

/-- The fields of an object of texts. -/
def ofTexts (texts : List (String × String)) : List (String × Json) :=
  texts.map fun t => (t.1, .text t.2)

/-- The parts of an array or an object as they are written between its brackets. -/
def between (parts : List (List Char)) : List Char := [',', ' '].intercalate parts

theorem between_singleton (cs : List Char) : between [cs] = cs := by
  simp [between]

theorem between_cons (cs ds : List Char) (parts : List (List Char)) :
    between (cs :: ds :: parts) = cs ++ ',' :: ' ' :: between (ds :: parts) := by
  simp [between, List.intercalate]

/-- An object on one line. -/
theorem toList_objectLine (fields : List (String × Json)) :
    (objectLine fields).toList = '\x7b' :: (between (writtenFields fields) ++ ['\x7d']) := by
  simp [objectLine, written, enclosed, between]

/-! ## Controls -/

theorem le_of_mem_encodeChar {c d : Char} (h : d ∈ encodeChar c) : 32 ≤ d.toNat := by
  have hdigit : ∀ n : Fin 16, 32 ≤ (hexDigit n).toNat := by decide
  rcases encodeChar_cases c with ⟨l, he, -, hl⟩ | ⟨he, -⟩ | ⟨he, -, -, hc⟩
  · rw [he, List.mem_cons, List.mem_singleton] at h
    rcases h with rfl | rfl
    · decide
    · exact hl
  · rw [he, List.mem_cons, List.mem_cons] at h
    rcases h with rfl | rfl | h
    · decide
    · decide
    · obtain ⟨n, rfl⟩ := mem_hexText h
      exact hdigit n
  · rw [he, List.mem_singleton] at h
    rwa [h]

theorem le_of_mem_quoted {s : String} {c : Char} (h : c ∈ quoted s) : 32 ≤ c.toNat := by
  rw [quoted, List.mem_append, List.mem_cons, List.mem_singleton] at h
  rcases h with (rfl | h) | rfl
  · decide
  · obtain ⟨d, -, hd⟩ := List.mem_flatMap.1 h
    exact le_of_mem_encodeChar hd
  · decide

theorem le_of_mem_field {name s : String} {c : Char}
    (h : c ∈ quoted name ++ ':' :: ' ' :: quoted s) : 32 ≤ c.toNat := by
  rw [List.mem_append, List.mem_cons, List.mem_cons] at h
  rcases h with h | rfl | rfl | h
  · exact le_of_mem_quoted h
  · decide
  · decide
  · exact le_of_mem_quoted h

theorem le_of_mem_between {texts : List (String × String)} {c : Char}
    (h : c ∈ between (writtenFields (ofTexts texts))) : 32 ≤ c.toNat := by
  induction texts with
  | nil => cases h
  | cons t texts ih =>
    cases texts with
    | nil =>
      change c ∈ between [quoted t.1 ++ ':' :: ' ' :: quoted t.2] at h
      rw [between_singleton] at h
      exact le_of_mem_field h
    | cons u texts =>
      change c ∈ between (_ :: _ :: _) at h
      rw [between_cons, List.mem_append, List.mem_cons, List.mem_cons] at h
      rcases h with h | rfl | rfl | h
      · exact le_of_mem_field h
      · decide
      · decide
      · exact ih h

/-- **An object of texts holds no control character**, and so no end of line. -/
theorem le_of_mem_objectLine {texts : List (String × String)} {c : Char}
    (h : c ∈ (objectLine (ofTexts texts)).toList) : 32 ≤ c.toNat := by
  rw [toList_objectLine, List.mem_cons, List.mem_append, List.mem_singleton] at h
  rcases h with rfl | h | rfl
  · decide
  · exact le_of_mem_between h
  · decide

end TraversalScript.Json
