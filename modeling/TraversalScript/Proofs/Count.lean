import Mathlib.Algebra.Order.Ring.Nat
import TraversalScript.Proofs.Calendar
import TraversalScript.Proofs.Written

/-!
# Counts

Counts of seconds or milliseconds from the epoch, as they are written and as they are read.

* `CountText`, `PowerText`, `PointText`: a whole count, a power of ten, and a count with a point;
* `power?_eq_some`, **`readNumeral?_whole`**, **`readNumeral?_decimal`**: they are read exactly
  where they are written;
* `Moment.millisOfCount`: how many milliseconds a whole count stands for, by its size;
* **`Moment.exists_ofCount_iff`**, `Moment.milliseconds_of_ofCount`: the whole counts that are
  moments, and their milliseconds.
-/

namespace TraversalScript

open Moment

/-! ## Texts -/

/-- A sign, or none. -/
def IsSign (sign : List Char) : Prop := sign = [] ∨ sign = ['+'] ∨ sign = ['-']

/-- A whole count as it is written: digits, with a sign or without. -/
structure CountText where
  sign : List Char
  digits : List Char
  isSign : IsSign sign
  digits_ne : digits ≠ []
  isDigit : ∀ c ∈ digits, c.isDigit = true

namespace CountText

variable (c : CountText)

/-- The characters of a count. -/
def chars : List Char := c.sign ++ c.digits

/-- The text of a count. -/
def text : String := String.ofList c.chars

/-- The integer that a count spells. -/
def value : Int := signed (decide (c.sign = ['-'])) (digitsValue c.digits)

end CountText

/-- A power of ten as it is written: a mark and a whole number. -/
structure PowerText where
  mark : Char
  exponent : CountText
  mark_eq : mark = 'e' ∨ mark = 'E'

/-- The characters of a power of ten. -/
def PowerText.chars (p : PowerText) : List Char := p.mark :: p.exponent.chars

/-- A count with a point as it is written: a sign or none, digits on at least one side of the point,
and perhaps a power of ten. -/
structure PointText where
  sign : List Char
  before : List Char
  after : List Char
  power : Option PowerText
  isSign : IsSign sign
  digits_ne : ¬(before = [] ∧ after = [])
  isDigit_before : ∀ c ∈ before, c.isDigit = true
  isDigit_after : ∀ c ∈ after, c.isDigit = true

namespace PointText

variable (p : PointText)

/-- The characters of a count with a point. -/
def chars : List Char :=
  p.sign ++ (p.before ++ '.' :: (p.after ++ p.power.elim [] PowerText.chars))

/-- The integer that the digits before the point spell. -/
def whole : Int := signed (decide (p.sign = ['-'])) (digitsValue p.before)

/-- The double nearest to a count. -/
def double : Binary64 :=
  .ofDecimal (decide (p.sign = ['-']))
    (.ofDigits p.before p.after (p.power.elim 0 fun x => x.exponent.value))

end PointText

/-! ## Signs and powers -/

section Signs

variable {cs rest sign : List Char}

theorem spanSign_eq {negative : Bool} (h : spanSign cs = (negative, rest)) :
    ∃ sign, IsSign sign ∧ cs = sign ++ rest ∧ negative = decide (sign = ['-']) := by
  unfold spanSign at h
  split at h <;> cases h
  · exact ⟨['-'], .inr (.inr rfl), rfl, rfl⟩
  · exact ⟨['+'], .inr (.inl rfl), rfl, rfl⟩
  · exact ⟨[], .inl rfl, rfl, rfl⟩

theorem spanSign_append (hs : IsSign sign) (hr : ∀ c ∈ rest.head?, c ≠ '-' ∧ c ≠ '+') :
    spanSign (sign ++ rest) = (decide (sign = ['-']), rest) := by
  rcases hs with rfl | rfl | rfl
  · rw [List.nil_append]
    unfold spanSign
    split
    · exact absurd rfl (hr '-' rfl).1
    · exact absurd rfl (hr '+' rfl).2
    · rfl
  · rfl
  · rfl

/-- Digits are no sign. -/
theorem head_of_digits {ds : List Char} (hd : ∀ c ∈ ds, c.isDigit = true) (hne : ds ≠ [])
    (rest : List Char) : ∀ c ∈ (ds ++ rest).head?, c ≠ '-' ∧ c ≠ '+' := by
  cases ds with
  | nil => exact absurd rfl hne
  | cons d ds =>
    intro c hc
    cases hc
    have := hd d List.mem_cons_self
    constructor <;> rintro rfl <;> cases this

theorem CountText.spanSign_chars (c : CountText) :
    spanSign c.chars = (decide (c.sign = ['-']), c.digits) := by
  have h := head_of_digits c.isDigit c.digits_ne []
  rw [List.append_nil] at h
  exact spanSign_append c.isSign h

theorem CountText.spanDigits_digits (c : CountText) : spanDigits c.digits = (c.digits, []) := by
  have h := @spanDigits_append c.digits [] c.isDigit nofun
  rwa [List.append_nil] at h

/-- A power of ten is no digit. -/
theorem head_of_power (x : Option PowerText) :
    ∀ c ∈ (x.elim [] PowerText.chars).head?, c.isDigit = false := by
  intro c hc
  rcases x with _ | ⟨mark, exponent, hmark⟩
  · cases hc
  · cases hc
    rcases hmark with rfl | rfl <;> rfl

theorem power?_cons (mark : Char) (cs : List Char) : Decimal.power? (mark :: cs) =
    if mark = 'e' ∨ mark = 'E' then
      if (spanSign cs).2.isEmpty || !(spanSign cs).2.all Char.isDigit then none
      else some (signed (spanSign cs).1 (digitsValue (spanSign cs).2))
    else none := rfl

/-- A power of ten is read exactly where it is written. -/
theorem power?_eq_some {p : Int} : Decimal.power? cs = some p ↔
    ∃ x : Option PowerText, cs = x.elim [] PowerText.chars ∧
      x.elim 0 (fun x => x.exponent.value) = p := by
  cases cs with
  | nil =>
    constructor
    · intro h
      cases h
      exact ⟨none, rfl, rfl⟩
    · rintro ⟨_ | x, h, rfl⟩
      · rfl
      · cases h
  | cons mark cs =>
    rw [power?_cons]
    constructor
    · intro h
      obtain ⟨⟨negative, ds⟩, hsp⟩ : ∃ found, spanSign cs = found := ⟨_, rfl⟩
      obtain ⟨sign, hsign, rfl, rfl⟩ := spanSign_eq hsp
      rw [hsp] at h
      split_ifs at h with hmark hd
      cases h
      simp only [Bool.or_eq_true, List.isEmpty_iff, Bool.not_eq_true', not_or, Bool.not_eq_false,
        List.all_eq_true] at hd
      exact ⟨some ⟨mark, ⟨sign, ds, hsign, hd.1, hd.2⟩, hmark⟩, rfl, rfl⟩
    · rintro ⟨_ | x, h, rfl⟩
      · cases h
      · cases h
        have hne : x.exponent.digits.isEmpty = false := by simpa using x.exponent.digits_ne
        have hall : x.exponent.digits.all Char.isDigit = true :=
          List.all_eq_true.2 x.exponent.isDigit
        rw [if_pos x.mark_eq, x.exponent.spanSign_chars, hne, hall]
        rfl

end Signs

/-! ## Numerals -/

section Numerals

variable {cs : List Char}

theorem readNumeral?_eq (cs : List Char) : readNumeral? cs =
    if !isWord (signed (spanSign cs).1 (digitsValue (spanDigits (spanSign cs).2).1)) then none
    else
      match (spanDigits (spanSign cs).2).2 with
      | [] =>
        if (spanDigits (spanSign cs).2).1.isEmpty then none
        else some (.whole (signed (spanSign cs).1 (digitsValue (spanDigits (spanSign cs).2).1)))
      | '.' :: _ =>
        (Decimal.magnitude? (spanSign cs).2).map fun d => .decimal (.ofDecimal (spanSign cs).1 d)
      | _ => none := rfl

/-- A text is a sign, digits and what follows them, as they are taken from it. -/
theorem exists_parts (cs : List Char) : ∃ sign ds more, IsSign sign ∧
    (∀ c ∈ ds, c.isDigit = true) ∧ cs = sign ++ (ds ++ more) ∧
    spanSign cs = (decide (sign = ['-']), ds ++ more) ∧ spanDigits (ds ++ more) = (ds, more) := by
  obtain ⟨⟨negative, rest⟩, hsp⟩ : ∃ found, spanSign cs = found := ⟨_, rfl⟩
  obtain ⟨sign, hsign, rfl, rfl⟩ := spanSign_eq hsp
  obtain ⟨⟨ds, more⟩, hd⟩ : ∃ found, spanDigits rest = found := ⟨_, rfl⟩
  obtain ⟨rfl, hds⟩ := spanDigits_eq hd
  exact ⟨sign, ds, more, hsign, hds, rfl, hsp, hd⟩

theorem readNumeral?_chars (c : CountText) :
    readNumeral? c.chars = if isWord c.value then some (.whole c.value) else none := by
  have hne : c.digits.isEmpty = false := by simpa using c.digits_ne
  rw [readNumeral?_eq]
  simp only [c.spanSign_chars, c.spanDigits_digits, hne]
  change (if !isWord c.value then _ else some (Numeral.whole c.value)) = _
  cases isWord c.value <;> rfl

/-- **A whole count is read exactly where it is written**, if it has a place among 64 bits. -/
theorem readNumeral?_whole {n : Int} : readNumeral? cs = some (.whole n) ↔
    ∃ c : CountText, cs = c.chars ∧ c.value = n ∧ isWord n = true := by
  constructor
  · intro h
    rw [readNumeral?_eq] at h
    obtain ⟨sign, ds, more, hsign, hds, rfl, hsp, hd⟩ := exists_parts cs
    simp only [hsp, hd, Option.ite_none_left_eq_some] at h
    obtain ⟨hw, h⟩ := h
    split at h
    · rw [Option.ite_none_left_eq_some] at h
      obtain ⟨hne, h⟩ := h
      cases h
      refine ⟨⟨sign, ds, hsign, by simpa using hne, hds⟩, ?_, rfl, by simpa using hw⟩
      rw [List.append_nil, CountText.chars]
    · rw [Option.map_eq_some_iff] at h
      obtain ⟨_, _, h⟩ := h
      cases h
    · cases h
  · rintro ⟨c, rfl, rfl, hw⟩
    rw [readNumeral?_chars, if_pos hw]

theorem magnitude?_point {before tail : List Char} (h : spanDigits cs = (before, '.' :: tail)) :
    Decimal.magnitude? cs =
      if before.isEmpty && (spanDigits tail).1.isEmpty then none
      else (Decimal.power? (spanDigits tail).2).map
        (Decimal.ofDigits before (spanDigits tail).1) := by
  simp only [Decimal.magnitude?, h]

/-- **A count with a point is read exactly where it is written**, if the digits before the point
have a place among 64 bits. -/
theorem readNumeral?_decimal {x : Binary64} : readNumeral? cs = some (.decimal x) ↔
    ∃ p : PointText, cs = p.chars ∧ p.double = x ∧ isWord p.whole = true := by
  rw [readNumeral?_eq]
  constructor
  · intro h
    obtain ⟨sign, before, more, hsign, hb, rfl, hsp, hd⟩ := exists_parts cs
    simp only [hsp, hd, Option.ite_none_left_eq_some] at h
    obtain ⟨hw, h⟩ := h
    split at h
    · rw [Option.ite_none_left_eq_some] at h
      cases h.2
    · next tail =>
      obtain ⟨⟨after, rest⟩, ha⟩ : ∃ found, spanDigits tail = found := ⟨_, rfl⟩
      obtain ⟨rfl, hads⟩ := spanDigits_eq ha
      simp only [magnitude?_point hd, ha, Option.map_eq_some_iff, Option.ite_none_left_eq_some,
        Bool.and_eq_true, List.isEmpty_iff] at h
      obtain ⟨_, ⟨hne, power, hp, rfl⟩, h⟩ := h
      obtain ⟨p, rfl, rfl⟩ := power?_eq_some.1 hp
      cases h
      rw [Bool.not_eq_true', Bool.not_eq_false] at hw
      exact ⟨⟨sign, before, after, p, hsign, hne, hb, hads⟩, rfl, rfl, hw⟩
    · cases h
  · -- the reader goes through the text twice: up to the point, and again for the digits
    rintro ⟨p, rfl, rfl, hw⟩
    obtain ⟨tail, htail⟩ : ∃ tail, tail = p.after ++ p.power.elim [] PowerText.chars := ⟨_, rfl⟩
    have hs : spanSign p.chars = (decide (p.sign = ['-']), p.before ++ '.' :: tail) := by
      rw [PointText.chars, ← htail]
      refine spanSign_append p.isSign ?_
      by_cases hb : p.before = []
      · rw [hb]
        intro c hc
        cases hc
        decide
      · exact head_of_digits p.isDigit_before hb _
    have hd : spanDigits (p.before ++ '.' :: tail) = (p.before, '.' :: tail) :=
      spanDigits_append p.isDigit_before fun c hc => by cases hc; rfl
    have ha : spanDigits tail = (p.after, p.power.elim [] PowerText.chars) := by
      rw [htail]
      exact spanDigits_append p.isDigit_after (head_of_power p.power)
    have hp : Decimal.power? (p.power.elim [] PowerText.chars) =
        some (p.power.elim 0 fun x => x.exponent.value) := power?_eq_some.2 ⟨p.power, rfl, rfl⟩
    have hne : (p.before.isEmpty && p.after.isEmpty) = false := by
      simpa [List.isEmpty_iff] using p.digits_ne
    simp only [hs, hd]
    change (if !isWord p.whole then _ else _) = _
    rw [hw, magnitude?_point hd, ha, hne, hp]
    rfl

end Numerals

/-! ## Whole counts -/

namespace Moment

/-- How many milliseconds a whole count stands for: small counts are of seconds. -/
def millisOfCount (n : Int) : Int := if n.natAbs ≤ watershed then 1000 * n else n

variable {n : Int} {t : DateTime}

theorem ofCount_eq (n : Int) : ∃ seconds micro, ofCount n = ofUnix seconds micro ∧
    seconds * 1000000 + (micro : Int) = 1000 * millisOfCount n := by
  unfold ofCount millisOfCount
  by_cases h : watershed < n.natAbs
  · rw [if_pos h, if_neg (by omega)]
    exact ⟨_, _, rfl, by omega⟩
  · rw [if_neg h, if_pos (by omega)]
    exact ⟨_, _, rfl, by omega⟩

/-- **The whole counts that are moments** are the milliseconds of the years 1 to 9999, whether they
are counts of seconds or of milliseconds. -/
theorem exists_ofCount_iff : (∃ t, ofCount n = .ok t) ↔
    -62135596800000 ≤ n ∧ n ≤ 253402300799999 := by
  obtain ⟨seconds, micro, he, hm⟩ := ofCount_eq n
  -- both ends of the range are counts of milliseconds, and every count of seconds is inside
  have hr : InYears (1000 * millisOfCount n) ↔ -62135596800000 ≤ n ∧ n ≤ 253402300799999 := by
    unfold InYears millisOfCount watershed
    split_ifs <;> omega
  rw [he, ← hr, ← hm]
  constructor
  · rintro ⟨t, ht⟩
    exact inYears_of_ofUnix ht
  · intro h
    obtain ⟨t, ht, -⟩ := exists_ofUnix h
    exact ⟨t, ht⟩

/-- The moment of a whole count is as many milliseconds after the epoch as the count stands for. -/
theorem milliseconds_of_ofCount (h : ofCount n = .ok t) : t.milliseconds = millisOfCount n := by
  obtain ⟨seconds, micro, he, hm⟩ := ofCount_eq n
  rw [he] at h
  rw [DateTime.milliseconds, instant_of_ofUnix h, hm]
  omega

/-- Whole counts that are moments have a place among 64 bits. -/
theorem isWord_of_exists (h : ∃ t, ofCount n = .ok t) : isWord n = true := by
  have hr := exists_ofCount_iff.1 h
  have hp : Nat.pow 2 63 = 9223372036854775808 := rfl
  simp only [isWord, Bool.and_eq_true, decide_eq_true_iff, hp]
  omega

theorem read_of_isWord {c : CountText} (hw : isWord c.value = true) :
    read c.text = ofCount c.value := by
  rw [read, CountText.text, String.toList_ofList, readNumeral?_whole.2 ⟨c, rfl, rfl, hw⟩]

end Moment

end TraversalScript
