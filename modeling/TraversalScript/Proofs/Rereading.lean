import TraversalScript.Proofs.Objects
import TraversalScript.Proofs.RealText

/-!
# JSON read again

Whatever JSON value is written is read again, and the texts of an object are found under their
names.

* `Closed`: what may follow a value;
* `Numeral`, `exists_numeral_decimal`, `IsNumber`: the parts of which numbers are written;
* `readNumber?_numeral`, `IsNumber.readPlain`: a number is read up to what follows it;
* `Starts`: how a written value begins;
* **`readValue_written`**, `readItems_written`, `readFields_written`: values, items and fields are
  read up to what follows them;
* **`read_objectLine_lookup`**: an object on one line is read, and its texts are found;
* **`read_objectLine`**: an object of texts is read back, its fields in their order.
-/

namespace TraversalScript.Json

/-! ## Numbers -/

/-- What may follow a value: nothing, a comma or a closing bracket. -/
def Closed (rest : List Char) : Prop := ∀ c ∈ rest.head?, c = ',' ∨ c = ']' ∨ c = '\x7d'

theorem closed_comma {rest : List Char} : Closed (',' :: rest) := fun _ h => by cases h; exact .inl rfl

theorem closed_bracket {rest : List Char} : Closed (']' :: rest) := fun _ h => by
  cases h
  exact .inr (.inl rfl)

theorem closed_brace {rest : List Char} : Closed ('\x7d' :: rest) := fun _ h => by
  cases h
  exact .inr (.inr rfl)

section Numbers

variable {whole fraction power ds rest : List Char}

theorem Closed.isDigit (h : Closed rest) : ∀ c ∈ rest.head?, c.isDigit = false := by
  intro c hc
  rcases h c hc with rfl | rfl | rfl <;> rfl

theorem ne_of_isDigit {c a : Char} (hc : c.isDigit = true) (ha : a.isDigit = false) : c ≠ a := by
  rintro rfl
  rw [hc] at ha
  cases ha

/-- The parts of a number without its sign: digits that do not start with a zero unless that is all,
a fraction and a power of ten. -/
structure Numeral (whole fraction power : List Char) : Prop where
  digits : ∀ c ∈ whole, c.isDigit = true
  start : whole = ['0'] ∨ ∃ c ds, whole = c :: ds ∧ c ≠ '0'
  fraction : fraction = [] ∨ ∃ c ds, fraction = '.' :: c :: ds ∧ ∀ d ∈ c :: ds, d.isDigit = true
  power : power = [] ∨ ∃ p, power = Layout.script.powerText p

theorem Numeral.ne_nil (h : Numeral whole fraction power) : whole ≠ [] := by
  rintro rfl
  obtain h | ⟨_, _, h, -⟩ := h.start <;> cases h

theorem readWhole?_append (hd : ∀ c ∈ whole, c.isDigit = true)
    (hs : whole = ['0'] ∨ ∃ c ds, whole = c :: ds ∧ c ≠ '0')
    (hr : ∀ c ∈ rest.head?, c.isDigit = false) :
    readWhole? (whole ++ rest) = some (whole, rest) := by
  obtain rfl | ⟨c, ds, rfl, h0⟩ := hs
  · rfl
  · have hspan : spanDigits (c :: (ds ++ rest)) = (c :: ds, rest) := spanDigits_append hd hr
    rw [List.cons_append, readWhole?, if_pos (hd c List.mem_cons_self), hspan]
    exact h0

/-- A power of ten, or none, is read up to what follows it. -/
theorem readPower?_numeral (h : Numeral whole fraction power) (hr : Closed rest) :
    ((readPower? (power ++ rest)).map Prod.snd).getD (power ++ rest) = rest := by
  obtain rfl | ⟨p, rfl⟩ := h.power
  · have hnone : readPower? rest = none := by
      cases rest with
      | nil => rfl
      | cons c rest =>
        rw [readPower?, if_neg]
        rcases hr c rfl with rfl | rfl | rfl <;> decide
    rw [List.nil_append, hnone]
    rfl
  · have hspan : spanDigits (paddedDigits 2 p.natAbs ++ rest) = (paddedDigits 2 p.natAbs, rest) :=
      spanDigits_append (fun _ => isDigit_of_mem_paddedDigits) hr.isDigit
    have hne : (paddedDigits 2 p.natAbs).isEmpty = false := List.isEmpty_eq_false_iff.2 fun hnil =>
      Nat.toDigits_ne_nil (List.append_eq_nil_iff.1 hnil).2
    change ((readPower? ('e' :: (if p < 0 then '-' else '+') ::
      (paddedDigits 2 p.natAbs ++ rest))).map Prod.snd).getD _ = rest
    split_ifs <;>
      simp only [readPower?, true_or, if_true, spanSign, hspan, hne, Bool.false_eq_true, if_false,
        Option.map_some, Option.getD_some]

/-- A fraction, or none, is read up to what follows it. -/
theorem readFraction?_numeral (h : Numeral whole fraction power) (hr : Closed rest) :
    ((readFraction? (fraction ++ (power ++ rest))).map Prod.snd).getD
      (fraction ++ (power ++ rest)) = power ++ rest := by
  have hhead : ∀ c ∈ (power ++ rest).head?, c.isDigit = false ∧ c ≠ '.' := by
    intro c hc
    obtain rfl | ⟨p, rfl⟩ := h.power
    · rcases hr c hc with rfl | rfl | rfl <;> decide
    · cases hc
      decide
  obtain rfl | ⟨c, ds, rfl, hds⟩ := h.fraction
  · have hnone : readFraction? (power ++ rest) = none := by
      unfold readFraction?
      split
      · next he => exact absurd rfl (hhead '.' (by rw [he]; rfl)).2
      · rfl
    rw [List.nil_append, hnone]
    rfl
  · have hspan : spanDigits (c :: (ds ++ (power ++ rest))) = (c :: ds, power ++ rest) :=
      spanDigits_append hds fun c hc => (hhead c hc).1
    rw [List.cons_append, List.cons_append, readFraction?, if_pos (hds c List.mem_cons_self), hspan]
    rfl

theorem finishNumber_snd (negative : Bool) (ds cs : List Char) :
    (finishNumber negative ds cs).2 =
      let rest := ((readFraction? cs).map Prod.snd).getD cs
      ((readPower? rest).map Prod.snd).getD rest := by
  unfold finishNumber
  simp only
  split <;> rfl

/-- A number is read up to what follows it. -/
theorem readNumber?_numeral (h : Numeral whole fraction power) (hr : Closed rest) :
    (∃ j, readNumber? (whole ++ (fraction ++ (power ++ rest))) = some (j, rest)) ∧
      ∃ j, readNumber? ('-' :: (whole ++ (fraction ++ (power ++ rest)))) = some (j, rest) := by
  have hwhole : readWhole? (whole ++ (fraction ++ (power ++ rest))) =
      some (whole, fraction ++ (power ++ rest)) := by
    refine readWhole?_append h.digits h.start fun c hc => ?_
    obtain rfl | ⟨c, ds, rfl, -⟩ := h.fraction
    · obtain rfl | ⟨p, rfl⟩ := h.power
      · exact hr.isDigit c hc
      · cases hc
        rfl
    · cases hc
      rfl
  have hfinish (negative : Bool) :
      (finishNumber negative whole (fraction ++ (power ++ rest))).2 = rest := by
    rw [finishNumber_snd]
    simp only [readFraction?_numeral h hr, readPower?_numeral h hr]
  constructor
  · have hplain : readNumber? (whole ++ (fraction ++ (power ++ rest))) =
        some (finishNumber false whole (fraction ++ (power ++ rest))) := by
      obtain ⟨c, ds, hc⟩ := List.exists_cons_of_ne_nil h.ne_nil
      have hminus : c ≠ '-' := by
        rintro rfl
        exact absurd (h.digits '-' (by rw [hc]; exact List.mem_cons_self)) (by decide)
      rw [readNumber?, hwhole]
      · rfl
      · rw [hc]
        exact fun _ he => hminus (List.cons.inj he).1
    exact ⟨_, hplain.trans (congrArg some (Prod.ext rfl (hfinish false)))⟩
  · have hminus : readNumber? ('-' :: (whole ++ (fraction ++ (power ++ rest)))) =
        some (finishNumber true whole (fraction ++ (power ++ rest))) := by
      rw [readNumber?, hwhole]
      rfl
    exact ⟨_, hminus.trans (congrArg some (Prod.ext rfl (hfinish true)))⟩

/-- The digits of a number start with another digit than zero, unless it is zero. -/
theorem exists_digitsText {n : ℕ} (h0 : n ≠ 0) : ∃ c ds, digitsText n = c :: ds ∧ c ≠ '0' := by
  have hdigit : ∀ d : Fin 10, (d : ℕ) ≠ 0 → Nat.digitChar d ≠ '0' := by decide
  induction n using Nat.strongRecOn with
  | ind n ih =>
    by_cases hn : n < 10
    · exact ⟨_, [], Nat.toDigits_of_lt_base hn, hdigit ⟨n, hn⟩ h0⟩
    · obtain ⟨c, ds, hc, hne⟩ := ih (n / 10) (by omega) (by omega)
      refine ⟨c, ds ++ [Nat.digitChar (n % 10)], ?_, hne⟩
      rw [digitsText, Nat.toDigits_of_base_le (by decide) (Nat.not_lt.1 hn), ← digitsText, hc]
      rfl

/-- The digits of a number are one. -/
theorem numeral_digitsText (n : ℕ) : Numeral (digitsText n) [] [] where
  digits := fun _ => isDigit_of_mem_digitsText
  start := by
    by_cases h0 : n = 0
    · rw [h0]
      exact .inl rfl
    · exact .inr (exists_digitsText h0)
  fraction := .inl rfl
  power := .inl rfl

/-- Digits that are laid out are a number, if the first of them is not a zero. -/
theorem exists_numeral_place {c : Char} (hd : ∀ d ∈ c :: ds, d.isDigit = true) (h0 : c ≠ '0')
    (p : ℤ) : ∃ whole fraction power,
      Layout.script.place (c :: ds) p = whole ++ (fraction ++ power) ∧
        Numeral whole fraction power := by
  change ∃ whole fraction power, (if -4 ≤ p ∧ p ≤ 15 then _ else _) = _ ∧ _
  split_ifs with hplain hneg
  · -- zeros between the point and the digits
    obtain ⟨d, more, hm⟩ : ∃ d more, List.replicate (p.natAbs - 1) '0' ++ c :: ds = d :: more :=
      List.exists_cons_of_ne_nil (by simp)
    refine ⟨['0'], '.' :: d :: more, [], by rw [← hm]; simp, by simp, .inl rfl,
      .inr ⟨d, more, rfl, ?_⟩, .inl rfl⟩
    rw [← hm]
    exact List.forall_mem_append.2 ⟨isDigit_of_mem_zeros, hd⟩
  · -- the point among the digits, or after them and some zeros
    have hafter {es : List Char} (he : ∀ d ∈ es, d.isDigit = true) :
        ∃ d more, afterPoint es = d :: more ∧ ∀ e ∈ d :: more, e.isDigit = true := by
      cases es with
      | nil => exact ⟨'0', [], rfl, by simp⟩
      | cons d more => exact ⟨d, more, rfl, he⟩
    obtain ⟨d, more, hm, hmore⟩ := hafter fun d hdrop =>
      hd d (List.mem_of_mem_drop (i := p.natAbs + 1) hdrop)
    refine ⟨(c :: ds).take (p.natAbs + 1) ++
        List.replicate (p.natAbs + 1 - (c :: ds).length) '0', '.' :: d :: more, [], ?_, ?_,
      .inr ⟨c, _, rfl, h0⟩, .inr ⟨d, more, rfl, hmore⟩, .inl rfl⟩
    · rw [← hm, List.append_nil]
    · exact List.forall_mem_append.2 ⟨fun e he => hd e (List.mem_of_mem_take he),
        isDigit_of_mem_zeros⟩
  · cases ds with
    | nil =>
      exact ⟨[c], [], _, rfl, hd, .inr ⟨c, [], rfl, h0⟩, .inl rfl, .inr ⟨p, rfl⟩⟩
    | cons d more =>
      exact ⟨[c], '.' :: d :: more, _, rfl, by simpa using hd c List.mem_cons_self,
        .inr ⟨c, [], rfl, h0⟩, .inr ⟨d, more, rfl, fun e he => hd e (.tail _ he)⟩, .inr ⟨p, rfl⟩⟩

/-- The digits of a decimal are a number. -/
theorem exists_numeral_decimal (d : Decimal) : ∃ whole fraction power,
    Layout.script.decimal d = whole ++ (fraction ++ power) ∧ Numeral whole fraction power := by
  unfold Layout.decimal
  split_ifs with h0
  · exact ⟨['0'], ['.', '0'], [], rfl, by simp, .inl rfl, .inr ⟨'0', [], rfl, by simp⟩, .inl rfl⟩
  · obtain ⟨c, more, hc, hne⟩ := exists_digitsText h0
    obtain ⟨z, hz⟩ := exists_endZeros (digitsText d.digits)
    cases hds : dropEndZeros (digitsText d.digits) with
    | nil =>
      rw [hds, List.nil_append, hc] at hz
      exact absurd (List.eq_of_mem_replicate (hz ▸ List.mem_cons_self)) hne
    | cons e ds =>
      rw [hds, hc] at hz
      obtain rfl : c = e := (List.cons.inj hz).1
      change ∃ whole fraction power,
        Layout.script.place (dropEndZeros (digitsText d.digits)) _ = _ ∧ _
      rw [hds]
      refine exists_numeral_place (fun a ha => ?_) hne _
      refine isDigit_of_mem_digitsText (n := d.digits) ?_
      rw [hc, hz]
      exact List.mem_append_left _ ha

/-- A number with a sign or without. -/
def IsNumber (cs : List Char) : Prop :=
  ∃ whole fraction power, Numeral whole fraction power ∧
    (cs = whole ++ (fraction ++ power) ∨ cs = '-' :: (whole ++ (fraction ++ power)))

theorem isNumber_intText (n : ℤ) : IsNumber (intText n) := by
  refine ⟨_, _, _, numeral_digitsText n.natAbs, ?_⟩
  rw [intText, List.append_nil, List.append_nil]
  split_ifs
  · exact .inr rfl
  · exact .inl rfl

theorem isNumber_finite (x : Finite) : IsNumber (Binary64.finite x).text := by
  obtain ⟨whole, fraction, power, hd, hn⟩ := exists_numeral_decimal x.written
  refine ⟨whole, fraction, power, hn, ?_⟩
  have htext : (Binary64.finite x).text = if x.negative then '-' :: Layout.script.decimal x.written
      else Layout.script.decimal x.written := rfl
  rw [htext, ← hd]
  split_ifs
  · exact .inr rfl
  · exact .inl rfl

/-- A number starts with a digit, or with one after a minus. -/
theorem IsNumber.start {cs : List Char} (h : IsNumber cs) : ∃ c more, c.isDigit = true ∧
    (cs = c :: more ∨ cs = '-' :: c :: more) := by
  obtain ⟨whole, fraction, power, hn, hcs⟩ := h
  obtain ⟨c, ds, rfl⟩ := List.exists_cons_of_ne_nil hn.ne_nil
  exact ⟨c, ds ++ (fraction ++ power), hn.digits c List.mem_cons_self, hcs⟩

/-- No word that stands for a value starts with a digit, or has one in the second place. -/
theorem exists_word : ∀ w ∈ words, ∃ a b as, w.1 = String.ofList (a :: b :: as) ∧
    a.isDigit = false ∧ b.isDigit = false := by
  simp only [words, List.forall_mem_cons]
  exact ⟨⟨_, _, _, rfl, rfl, rfl⟩, ⟨_, _, _, rfl, rfl, rfl⟩, ⟨_, _, _, rfl, rfl, rfl⟩,
    ⟨_, _, _, rfl, rfl, rfl⟩, ⟨_, _, _, rfl, rfl, rfl⟩, ⟨_, _, _, rfl, rfl, rfl⟩, nofun⟩

/-- No word that stands for a value starts as a number does. -/
theorem IsNumber.afterWord? {cs : List Char} (h : IsNumber cs) (rest : List Char)
    {w : String × Json} (hw : w ∈ words) : afterWord? w.1 (cs ++ rest) = none := by
  obtain ⟨a, b, as, hw, ha, hb⟩ := exists_word w hw
  obtain ⟨c, more, hc, hcs⟩ := h.start
  have hac : (a == c) = false := beq_eq_false_iff_ne.2 (ne_of_isDigit hc ha).symm
  have hbc : (b == c) = false := beq_eq_false_iff_ne.2 (ne_of_isDigit hc hb).symm
  have hprefix : w.1.toList.isPrefixOf (cs ++ rest) = false := by
    rw [hw, String.toList_ofList]
    rcases hcs with rfl | rfl <;> simp [List.isPrefixOf, hac, hbc]
  rw [Json.afterWord?, hprefix]
  rfl

/-- A number is read up to what follows it. -/
theorem IsNumber.readPlain {cs : List Char} (h : IsNumber cs) (hr : Closed rest) :
    ∃ j, readPlain (cs ++ rest) = .ok (j, rest) := by
  have hnumber : ∃ j, readNumber? (cs ++ rest) = some (j, rest) := by
    obtain ⟨whole, fraction, power, hn, hcs⟩ := h
    obtain ⟨hplain, hminus⟩ := readNumber?_numeral hn hr
    rcases hcs with rfl | rfl
    · simpa only [List.append_assoc] using hplain
    · simpa only [List.cons_append, List.append_assoc] using hminus
  obtain ⟨j, hj⟩ := hnumber
  refine ⟨j, ?_⟩
  unfold Json.readPlain
  rw [List.findSome?_eq_none_iff.2 fun w hw => Option.map_eq_none_iff.2 (h.afterWord? rest hw), hj]

end Numbers

/-! ## Values -/

section Values

variable {bound : Nat} {rest : List Char}

/-- What is written of a value starts with no blank and no closing bracket. -/
def Starts (cs : List Char) : Prop :=
  ∃ c more, cs = c :: more ∧ isBlank c = false ∧ c ≠ ']' ∧ c ≠ '\x7d'

theorem Starts.skipBlanks {cs : List Char} (h : Starts cs) (rest : List Char) :
    skipBlanks (cs ++ rest) = cs ++ rest := by
  obtain ⟨c, more, rfl, hc, -⟩ := h
  rw [List.cons_append, skipBlanks_cons hc]

theorem readValue_plain {c : Char} (h : c ≠ '"' ∧ c ≠ '[' ∧ c ≠ '\x7b') (more : List Char) :
    readValue (bound + 1) (c :: more) = readPlain (c :: more) := by
  rw [readValue]
  · exact fun _ hc => h.1 (List.cons.inj hc).1
  · exact fun _ hc => h.2.1 (List.cons.inj hc).1
  · exact fun _ hc => h.2.2 (List.cons.inj hc).1

theorem IsNumber.starts {cs : List Char} (h : IsNumber cs) : ∃ c more, cs = c :: more ∧
    (c ≠ '"' ∧ c ≠ '[' ∧ c ≠ '\x7b') ∧ isBlank c = false ∧ c ≠ ']' ∧ c ≠ '\x7d' := by
  obtain ⟨c, more, hc, rfl | rfl⟩ := h.start
  · refine ⟨c, more, rfl, ?_⟩
    refine ⟨⟨ne_of_isDigit hc rfl, ne_of_isDigit hc rfl, ne_of_isDigit hc rfl⟩, ?_,
      ne_of_isDigit hc rfl, ne_of_isDigit hc rfl⟩
    rw [Bool.eq_false_iff]
    intro hb
    simp only [isBlank, Bool.or_eq_true, beq_iff_eq] at hb
    rcases hb with ((rfl | rfl) | rfl) | rfl <;> cases hc
  · exact ⟨'-', _, rfl, by decide⟩

theorem IsNumber.readValue {cs : List Char} (h : IsNumber cs) (hr : Closed rest) :
    ∃ j, readValue (bound + 1) (cs ++ rest) = .ok (j, rest) := by
  obtain ⟨c, more, hc, hne, -⟩ := h.starts
  obtain ⟨j, hj⟩ := h.readPlain hr
  refine ⟨j, ?_⟩
  rw [← hj, hc, List.cons_append, readValue_plain hne]

theorem readPlain_words (rest : List Char) :
    readPlain ("null".toList ++ rest) = .ok (null, rest) ∧
      readPlain ("true".toList ++ rest) = .ok (bool true, rest) ∧
      readPlain ("false".toList ++ rest) = .ok (bool false, rest) ∧
      readPlain ("NaN".toList ++ rest) = .ok (real .nan, rest) ∧
      readPlain ("Infinity".toList ++ rest) = .ok (real (.infinity false), rest) ∧
      readPlain ('-' :: ("Infinity".toList ++ rest)) = .ok (real (.infinity true), rest) :=
  ⟨rfl, rfl, rfl, rfl, rfl, rfl⟩

/-- A double is read up to what follows it, be it a number or not. -/
theorem readValue_real (x : Binary64) (hr : Closed rest) :
    ∃ j, readValue (bound + 1) (written (.real x) ++ rest) = .ok (j, rest) := by
  cases x with
  | nan => exact ⟨_, (readPlain_words rest).2.2.2.1⟩
  | infinity negative =>
    cases negative with
    | true => exact ⟨_, (readPlain_words rest).2.2.2.2.2⟩
    | false => exact ⟨_, (readPlain_words rest).2.2.2.2.1⟩
  | finite x => exact (isNumber_finite x).readValue hr

theorem starts_written (j : Json) : Starts (written j) := by
  cases j with
  | null => exact ⟨'n', _, rfl, by decide⟩
  | bool b =>
    rw [written]
    cases b with
    | true => exact ⟨'t', _, rfl, by decide⟩
    | false => exact ⟨'f', _, rfl, by decide⟩
  | int n =>
    obtain ⟨c, more, hc, -, h⟩ := (isNumber_intText n).starts
    exact ⟨c, more, hc, h⟩
  | real x =>
    cases x with
    | nan => exact ⟨'N', _, rfl, by decide⟩
    | infinity negative =>
      cases negative with
      | true => exact ⟨'-', _, rfl, by decide⟩
      | false => exact ⟨'I', _, rfl, by decide⟩
    | finite x =>
      obtain ⟨c, more, hc, -, h⟩ := (isNumber_finite x).starts
      exact ⟨c, more, hc, h⟩
  | text s => exact ⟨'"', _, rfl, by decide⟩
  | array items => exact ⟨'[', _, rfl, by decide⟩
  | object fields => exact ⟨'\x7b', _, rfl, by decide⟩

theorem Starts.cons {cs : List Char} (h : Starts cs) (parts : List (List Char)) :
    Starts (between (cs :: parts)) := by
  obtain ⟨c, more, rfl, hc⟩ := h
  cases parts with
  | nil => exact ⟨c, more, between_singleton _, hc⟩
  | cons ds parts => exact ⟨c, _, between_cons _ _ _, hc⟩

theorem starts_items (j : Json) (js : List Json) : Starts (between (writtenItems (j :: js))) :=
  (starts_written j).cons _

theorem starts_fields (f : String × Json) (fields : List (String × Json)) :
    Starts (between (writtenFields (f :: fields))) :=
  Starts.cons ⟨'"', _, rfl, by decide⟩ _

theorem readValue_array {cs : List Char} (h : Starts cs) (rest : List Char) :
    readValue (bound + 1) ('[' :: (cs ++ rest)) =
      (readItems bound (cs ++ rest)).map fun x => (array x.1, x.2) := by
  rw [readValue, h.skipBlanks]
  obtain ⟨c, more, rfl, -, hc, -⟩ := h
  split
  · next he => exact absurd (List.cons.inj he).1 hc
  · rfl

theorem readValue_object {cs : List Char} (h : Starts cs) (rest : List Char) :
    readValue (bound + 1) ('\x7b' :: (cs ++ rest)) =
      (readFields bound [] (cs ++ rest)).map fun x => (object x.1, x.2) := by
  rw [readValue, h.skipBlanks]
  obtain ⟨c, more, rfl, -, -, hc⟩ := h
  split
  · next he => exact absurd (List.cons.inj he).1 hc
  · rfl

/-- The first item is read, and then the bracket or the next item. -/
theorem readItems_step {cs : List Char} {j : Json}
    (h : readValue bound (cs ++ rest) = .ok (j, rest)) :
    readItems (bound + 1) (cs ++ rest) =
      match skipBlanks rest with
      | ']' :: rest => .ok ([j], rest)
      | ',' :: rest => (readItems bound (skipBlanks rest)).map fun x => (j :: x.1, x.2)
      | rest => complain .noComma rest := by
  rw [readItems, h]
  rfl

/-- The first field is read, and then the brace or the next field. -/
theorem readFields_step {cs : List Char} {j : Json} (hs : Starts cs)
    (h : readValue bound (cs ++ rest) = .ok (j, rest)) (name : String)
    (fields : List (String × Json)) :
    readFields (bound + 1) fields (quoted name ++ ':' :: ' ' :: (cs ++ rest)) =
      match skipBlanks rest with
      | '\x7d' :: rest => .ok (insertField fields name j, rest)
      | ',' :: rest => readFields bound (insertField fields name j) (skipBlanks rest)
      | rest => complain .noComma rest := by
  rw [readFields, readName_quoted, hs.skipBlanks]
  change (readValue bound (cs ++ rest) >>= _) = _
  rw [h]
  rfl

/-- What is read of a field: its name, and the same text if it is one. -/
def FieldRead (f g : String × Json) : Prop := f.1 = g.1 ∧ ∀ s, f.2 = .text s → g.2 = .text s

/-- An object after more fields were read. -/
def insertAll (fields more : List (String × Json)) : List (String × Json) :=
  more.foldl (fun fields f => insertField fields f.1 f.2) fields

mutual

/-- **Every value is read up to what follows it**, and a text as it is. -/
theorem readValue_written (j : Json) {bound : Nat} {rest : List Char}
    (hb : (written j).length < bound) (hr : Closed rest) :
    ∃ k, readValue bound (written j ++ rest) = .ok (k, rest) ∧ ∀ s, j = .text s → k = .text s := by
  obtain ⟨bound, rfl⟩ : ∃ b, bound = b + 1 := ⟨bound - 1, by omega⟩
  cases j with
  | null => exact ⟨_, (readPlain_words rest).1, nofun⟩
  | bool b =>
    rw [written]
    cases b with
    | true => exact ⟨_, (readPlain_words rest).2.1, nofun⟩
    | false => exact ⟨_, (readPlain_words rest).2.2.1, nofun⟩
  | int n =>
    obtain ⟨k, hk⟩ := (isNumber_intText n).readValue hr
    exact ⟨k, hk, nofun⟩
  | real x =>
    obtain ⟨k, hk⟩ := readValue_real x hr
    exact ⟨k, hk, nofun⟩
  | text s => exact ⟨.text s, readValue_text bound s rest, fun _ h => h⟩
  | array items =>
    match items with
    | [] => exact ⟨array [], rfl, nofun⟩
    | i :: items =>
      have hw : written (array (i :: items)) =
          '[' :: (between (writtenItems (i :: items)) ++ [']']) := rfl
      rw [hw, List.length_cons, List.length_append] at hb
      obtain ⟨ks, hk⟩ := readItems_written (i :: items) (List.cons_ne_nil _ _)
        (Nat.lt_of_succ_lt_succ hb) rest
      refine ⟨array ks, ?_, nofun⟩
      rw [hw, List.cons_append, List.append_assoc, readValue_array (starts_items i items),
        List.singleton_append, hk]
      rfl
  | object fields =>
    match fields with
    | [] => exact ⟨object [], rfl, nofun⟩
    | f :: fields =>
      have hw : written (object (f :: fields)) =
          '\x7b' :: (between (writtenFields (f :: fields)) ++ ['\x7d']) := rfl
      rw [hw, List.length_cons, List.length_append] at hb
      obtain ⟨gs, -, hk⟩ := readFields_written (f :: fields) (List.cons_ne_nil _ _)
        (Nat.lt_of_succ_lt_succ hb) [] rest
      refine ⟨object (insertAll [] gs), ?_, nofun⟩
      rw [hw, List.cons_append, List.append_assoc, readValue_object (starts_fields f fields),
        List.singleton_append, hk]
      rfl

/-- The items of an array are read up to what follows its bracket. -/
theorem readItems_written (js : List Json) (hne : js ≠ []) {bound : Nat}
    (hb : (between (writtenItems js)).length + 1 < bound) (rest : List Char) :
    ∃ ks, readItems bound (between (writtenItems js) ++ ']' :: rest) = .ok (ks, rest) := by
  match js, hne with
  | [j], _ =>
    obtain ⟨bound, rfl⟩ : ∃ b, bound = b + 1 := ⟨bound - 1, by omega⟩
    rw [writtenItems, writtenItems, between_singleton] at hb ⊢
    obtain ⟨k, hk, -⟩ := @readValue_written j bound (']' :: rest) (by omega) closed_bracket
    refine ⟨[k], ?_⟩
    rw [readItems_step hk, skipBlanks_cons (by decide)]
    rfl
  | j :: i :: js, _ =>
    obtain ⟨bound, rfl⟩ : ∃ b, bound = b + 1 := ⟨bound - 1, by omega⟩
    have hw : between (writtenItems (j :: i :: js)) =
        written j ++ ',' :: ' ' :: between (writtenItems (i :: js)) := between_cons _ _ _
    rw [hw] at hb ⊢
    rw [List.length_append, List.length_cons, List.length_cons] at hb
    obtain ⟨k, hk, -⟩ := @readValue_written j bound
      (',' :: ' ' :: (between (writtenItems (i :: js)) ++ ']' :: rest)) (by omega) closed_comma
    obtain ⟨ks, hks⟩ := @readItems_written (i :: js) (List.cons_ne_nil _ _) bound
      (by omega) rest
    refine ⟨k :: ks, ?_⟩
    rw [List.append_assoc, List.cons_append, List.cons_append, readItems_step hk,
      skipBlanks_cons (by decide)]
    change (readItems bound (skipBlanks (between (writtenItems (i :: js)) ++ ']' :: rest))).map _ = _
    rw [(starts_items i js).skipBlanks, hks]
    rfl

/-- The fields of an object are read up to what follows its brace, each under its name. -/
theorem readFields_written (fs : List (String × Json)) (hne : fs ≠ []) {bound : Nat}
    (hb : (between (writtenFields fs)).length + 1 < bound) (fields : List (String × Json))
    (rest : List Char) : ∃ gs, fs.Forall₂ FieldRead gs ∧
      readFields bound fields (between (writtenFields fs) ++ '\x7d' :: rest) =
        .ok (insertAll fields gs, rest) := by
  match fs, hne with
  | [(name, j)], _ =>
    obtain ⟨bound, rfl⟩ : ∃ b, bound = b + 1 := ⟨bound - 1, by omega⟩
    have hw : between (writtenFields [(name, j)]) = quoted name ++ ':' :: ' ' :: written j :=
      between_singleton _
    rw [hw] at hb ⊢
    rw [List.length_append, List.length_cons, List.length_cons] at hb
    obtain ⟨k, hk, htext⟩ := @readValue_written j bound ('\x7d' :: rest) (by omega) closed_brace
    refine ⟨[(name, k)], .cons ⟨rfl, htext⟩ .nil, ?_⟩
    rw [List.append_assoc, List.cons_append, List.cons_append,
      readFields_step (starts_written j) hk, skipBlanks_cons (by decide)]
    rfl
  | (name, j) :: f :: fs, _ =>
    obtain ⟨bound, rfl⟩ : ∃ b, bound = b + 1 := ⟨bound - 1, by omega⟩
    have hw : between (writtenFields ((name, j) :: f :: fs)) =
        (quoted name ++ ':' :: ' ' :: written j) ++ ',' :: ' ' :: between (writtenFields (f :: fs)) :=
      between_cons _ _ _
    rw [hw] at hb ⊢
    simp only [List.length_append, List.length_cons] at hb
    obtain ⟨k, hk, htext⟩ := @readValue_written j bound
      (',' :: ' ' :: (between (writtenFields (f :: fs)) ++ '\x7d' :: rest)) (by omega) closed_comma
    obtain ⟨gs, hgs, hread⟩ := @readFields_written (f :: fs) (List.cons_ne_nil _ _) bound
      (by omega) (insertField fields name k) rest
    refine ⟨(name, k) :: gs, .cons ⟨rfl, htext⟩ hgs, ?_⟩
    rw [List.append_assoc, List.append_assoc, List.cons_append, List.cons_append,
      List.cons_append, List.cons_append, readFields_step (starts_written j) hk,
      skipBlanks_cons (by decide)]
    change readFields bound _ (skipBlanks (between (writtenFields (f :: fs)) ++ '\x7d' :: rest)) = _
    rw [(starts_fields f fs).skipBlanks, hread]
    rfl

end

end Values

/-! ## Objects -/

section Objects

variable {fields gs : List (String × Json)}

theorem insertAll_of_nodup (h : ((fields ++ gs).map Prod.fst).Nodup) :
    insertAll fields gs = fields ++ gs := by
  induction gs generalizing fields with
  | nil => exact (List.append_nil _).symm
  | cons g gs ih =>
    have hnew : g.1 ∉ fields.map Prod.fst := fun hmem => by
      rw [List.map_append] at h
      exact (List.nodup_append.1 h).2.2 _ hmem _ List.mem_cons_self rfl
    have hins : insertAll fields (g :: gs) = insertAll (insertField fields g.1 g.2) gs := rfl
    rw [hins, insertField_new hnew, ih (by simpa using h), List.append_assoc]
    rfl

theorem map_fst_of_read (h : fields.Forall₂ FieldRead gs) :
    fields.map Prod.fst = gs.map Prod.fst := by
  induction h with
  | nil => rfl
  | cons hf _ ih => rw [List.map_cons, List.map_cons, hf.1, ih]

/-- The text of a field is found under its name. -/
theorem lookup_of_read (h : fields.Forall₂ FieldRead gs) {name s : String}
    (hs : fields.lookup name = some (.text s)) : gs.lookup name = some (.text s) := by
  induction h with
  | nil => cases hs
  | @cons f g _ _ hf _ ih =>
    rw [List.lookup_cons] at hs ⊢
    rw [← hf.1]
    split at hs
    · exact congrArg some (hf.2 s (Option.some.inj hs))
    · exact ih hs

/-- **An object on one line is read**, each field under its name if the names are different. -/
theorem exists_read_objectLine (fields : List (String × Json)) :
    ∃ gs, fields.Forall₂ FieldRead gs ∧
      read (objectLine fields) = .ok (.object (insertAll [] gs)) := by
  cases fields with
  | nil => exact ⟨[], .nil, by rfl⟩
  | cons f fields =>
    obtain ⟨bound, hb⟩ : ∃ bound, bound = 2 * (objectLine (f :: fields)).toList.length := ⟨_, rfl⟩
    have hlen : (between (writtenFields (f :: fields))).length + 1 < bound := by
      rw [hb, toList_objectLine, List.length_cons, List.length_append]
      omega
    obtain ⟨gs, hgs, hread⟩ := readFields_written (f :: fields) (List.cons_ne_nil _ _) hlen [] []
    refine ⟨gs, hgs, ?_⟩
    rw [read, readChars, ← hb, toList_objectLine, skipBlanks_cons (by decide),
      readValue_object (starts_fields f fields), hread]
    rfl

/-- The texts of an object with different names are found again. -/
theorem read_objectLine_lookup (h : (fields.map Prod.fst).Nodup) : ∃ gs,
    read (objectLine fields) = .ok (.object gs) ∧
      ∀ name s, fields.lookup name = some (.text s) → gs.lookup name = some (.text s) := by
  obtain ⟨gs, hgs, hread⟩ := exists_read_objectLine fields
  refine ⟨gs, ?_, fun name s => lookup_of_read hgs⟩
  rw [hread, insertAll_of_nodup (by rwa [List.nil_append, ← map_fst_of_read hgs])]
  rfl

theorem eq_ofTexts_of_read {texts : List (String × String)}
    (h : (ofTexts texts).Forall₂ FieldRead gs) : gs = ofTexts texts := by
  induction texts generalizing gs with
  | nil =>
    cases h
    rfl
  | cons t texts ih =>
    obtain ⟨g, gs, hg, hgs, rfl⟩ := List.forall₂_cons_left_iff.1 h
    rw [ih hgs]
    exact congrArg₂ List.cons (Prod.ext hg.1.symm (hg.2 _ rfl)) rfl

/-- **An object of texts under different names is read back.** -/
theorem read_objectLine {texts : List (String × String)} (h : (texts.map Prod.fst).Nodup) :
    read (objectLine (ofTexts texts)) = .ok (.object (ofTexts texts)) := by
  have hnames : (ofTexts texts).map Prod.fst = texts.map Prod.fst := by simp [ofTexts]
  obtain ⟨gs, hgs, hread⟩ := exists_read_objectLine (ofTexts texts)
  obtain rfl := eq_ofTexts_of_read hgs
  rw [hread, insertAll_of_nodup (by rwa [List.nil_append, hnames])]
  rfl

end Objects

end TraversalScript.Json
