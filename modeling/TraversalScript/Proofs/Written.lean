import TraversalScript.Proofs.Timestamp

/-!
# Moments as they are written

A date with a time of day, or without, is read exactly where it is written.

* `Apart`: what follows a time of day without being taken for a part of it;
* `readSeconds?_chars`, `exists_secondText`: the seconds after hours and minutes;
* `readClock?_chars`, `exists_clockText`: a time of day;
* `readSpan?_eq_some`, **`readZone?_eq_some`**: a zone;
* `readDay_eq_ok`, `readTime?_eq_some`: year, month and day, and what follows them;
* **`readWritten_eq_ok`**: what is read as a moment is a day or a timestamp.
-/

namespace TraversalScript

open Moment

/-! ## Seconds -/

/-- Whether a text cannot be taken for more of the time of day before it. -/
def Apart (rest : List Char) : Prop :=
  ∀ c ∈ rest.head?, c.isDigit = false ∧ c ≠ ':' ∧ c ≠ '.' ∧ c ≠ ','

theorem spanDigits_eq {cs ds rest : List Char} (h : spanDigits cs = (ds, rest)) :
    cs = ds ++ rest ∧ ∀ c ∈ ds, c.isDigit = true := by
  rw [spanDigits, Prod.mk.injEq] at h
  obtain ⟨rfl, rfl⟩ := h
  exact ⟨List.takeWhile_append_dropWhile.symm, List.all_eq_true.1 List.all_takeWhile⟩

section Seconds

variable {cs rest : List Char} {second micro : Nat}

theorem readSeconds?_colon (cs : List Char) : readSeconds? (':' :: cs) = (digits? 2 cs).bind
    fun (second, cs) =>
      match cs with
      | '.' :: rest | ',' :: rest =>
        if (spanDigits rest).1.isEmpty then none
        else some ((second, microseconds (spanDigits rest).1), (spanDigits rest).2)
      | _ => some ((second, 0), cs) := rfl

/-- Seconds are read where they are written, before what cannot be taken for more of them. -/
theorem readSeconds?_chars (x : Option SecondText) (h : Apart rest) :
    readSeconds? (x.elim [] SecondText.chars ++ rest) =
      some ((x.elim 0 SecondText.second, x.elim 0 SecondText.micros), rest) := by
  rcases x with _ | ⟨second, fraction, hs⟩
  · simp only [Option.elim_none, List.nil_append]
    unfold readSeconds?
    split
    · exact absurd rfl (h ':' rfl).2.1
    · rfl
  · have hd : digits? 2 (paddedDigits 2 second ++ (fraction.elim [] FractionText.chars ++ rest)) =
        some (second, fraction.elim [] FractionText.chars ++ rest) :=
      (digits?_eq_some (by decide)).2 ⟨by omega, rfl⟩
    simp only [Option.elim_some, SecondText.chars, List.cons_append, List.append_assoc,
      readSeconds?_colon, hd, Option.bind_some]
    rcases fraction with _ | f
    · simp only [Option.elim_none, List.nil_append]
      split
      · exact absurd rfl (h '.' rfl).2.2.1
      · exact absurd rfl (h ',' rfl).2.2.2
      · rfl
    · have hsp : spanDigits (f.digits ++ rest) = (f.digits, rest) :=
        spanDigits_append f.isDigit fun c hc => (h c hc).1
      have hne : f.digits.isEmpty = false := by simpa using f.digits_ne
      simp only [Option.elim_some, FractionText.chars, List.cons_append, SecondText.micros]
      rcases f.mark_eq with hm | hm <;>
        simp only [hm, hsp, hne, f.microseconds_digits, Bool.false_eq_true, if_false]

/-- What is read as a fraction after its mark is written as one. -/
theorem exists_fractionText {mark : Char} (hm : mark = '.' ∨ mark = ',') {tail : List Char}
    {s : Nat} (h : (if (spanDigits tail).1.isEmpty then none
      else some ((s, microseconds (spanDigits tail).1), (spanDigits tail).2)) =
        some ((second, micro), rest)) :
    s = second ∧ ∃ f : FractionText, mark :: tail = f.chars ++ rest ∧ f.micros = micro := by
  obtain ⟨⟨ds, more⟩, hsp⟩ : ∃ p, p = spanDigits tail := ⟨_, rfl⟩
  obtain ⟨rfl, hds⟩ := spanDigits_eq hsp.symm
  rw [← hsp] at h
  simp only [Option.ite_none_left_eq_some, List.isEmpty_iff, Option.some.injEq,
    Prod.mk.injEq] at h
  obtain ⟨hne, ⟨rfl, rfl⟩, rfl⟩ := h
  exact ⟨rfl, ⟨mark, ds, hm, hne, hds⟩, rfl, (FractionText.microseconds_digits _).symm⟩

/-- What is read as seconds is written as seconds. -/
theorem exists_secondText (h : readSeconds? cs = some ((second, micro), rest))
    (hs : second < 60) : ∃ x : Option SecondText, cs = x.elim [] SecondText.chars ++ rest ∧
      x.elim 0 SecondText.second = second ∧ x.elim 0 SecondText.micros = micro := by
  by_cases hc : ∃ more, cs = ':' :: more
  · obtain ⟨more, rfl⟩ := hc
    rw [readSeconds?_colon, Option.bind_eq_some_iff] at h
    obtain ⟨⟨s, after⟩, hd, h⟩ := h
    obtain ⟨-, rfl⟩ := (digits?_eq_some (by decide)).1 hd
    simp only at h
    split at h
    · obtain ⟨rfl, f, hf, hmicro⟩ := exists_fractionText (.inl rfl) h
      exact ⟨some ⟨s, some f, hs⟩, by simp [SecondText.chars, hf], rfl, hmicro⟩
    · obtain ⟨rfl, f, hf, hmicro⟩ := exists_fractionText (.inr rfl) h
      exact ⟨some ⟨s, some f, hs⟩, by simp [SecondText.chars, hf], rfl, hmicro⟩
    · cases h
      exact ⟨some ⟨second, none, hs⟩, by simp [SecondText.chars], rfl, rfl⟩
  · unfold readSeconds? at h
    split at h
    · exact absurd ⟨_, rfl⟩ hc
    · cases h
      exact ⟨none, rfl, rfl, rfl⟩

end Seconds

/-! ## Times of day -/

theorem toList_iso (d : Date) : d.iso.toList =
    paddedDigits 4 d.year ++ '-' :: paddedDigits 2 d.month ++ '-' :: paddedDigits 2 d.day := by
  simp [Date.iso]

theorem timeOfDay_ofParts?_eq_some {hour minute second micro : Nat} {t : TimeOfDay} :
    TimeOfDay.ofParts? hour minute second micro = some t ↔
      t.hour = hour ∧ t.minute = minute ∧ t.second = second ∧ t.microsecond = micro := by
  constructor
  · intro h
    unfold TimeOfDay.ofParts? at h
    split_ifs at h
    cases h
    exact ⟨rfl, rfl, rfl, rfl⟩
  · rintro ⟨rfl, rfl, rfl, rfl⟩
    exact TimeOfDay.ofParts?_eq t

section Clock

variable {cs rest : List Char}

theorem readClock?_eq (cs : List Char) : readClock? cs = (digits? 2 cs).bind fun (hour, cs) =>
    match cs with
    | ':' :: cs => (digits? 2 cs).bind fun (minute, cs) =>
      (readSeconds? cs).bind fun ((second, micro), cs) =>
        (TimeOfDay.ofParts? hour minute second micro).bind fun time => some (time, cs)
    | _ => none := rfl

/-- A time of day is read where it is written, before what cannot be taken for more of it. -/
theorem readClock?_chars (c : ClockText) (h : Apart rest) :
    readClock? (c.chars ++ rest) = some (c.time, rest) := by
  have hh : digits? 2 (c.chars ++ rest) = some (c.hour,
      ':' :: (paddedDigits 2 c.minute ++ (c.seconds.elim [] SecondText.chars ++ rest))) :=
    (digits?_eq_some (by decide)).2 ⟨by have := c.hour_lt; omega, by simp [ClockText.chars]⟩
  have hm : digits? 2 (paddedDigits 2 c.minute ++ (c.seconds.elim [] SecondText.chars ++ rest)) =
      some (c.minute, c.seconds.elim [] SecondText.chars ++ rest) :=
    (digits?_eq_some (by decide)).2 ⟨by have := c.minute_lt; omega, rfl⟩
  have ht : TimeOfDay.ofParts? c.hour c.minute (c.seconds.elim 0 SecondText.second)
      (c.seconds.elim 0 SecondText.micros) = some c.time := TimeOfDay.ofParts?_eq c.time
  simp only [readClock?_eq, hh, hm, readSeconds?_chars c.seconds h, ht, Option.bind_some]

/-- What is read as a time of day is written as one. -/
theorem exists_clockText {t : TimeOfDay} (h : readClock? cs = some (t, rest)) :
    ∃ c : ClockText, cs = c.chars ++ rest ∧ c.time = t := by
  rw [readClock?_eq, Option.bind_eq_some_iff] at h
  obtain ⟨⟨hour, after⟩, hh, h⟩ := h
  obtain ⟨-, rfl⟩ := (digits?_eq_some (by decide)).1 hh
  simp only at h
  split at h
  · rw [Option.bind_eq_some_iff] at h
    obtain ⟨⟨minute, after⟩, hm, h⟩ := h
    obtain ⟨-, rfl⟩ := (digits?_eq_some (by decide)).1 hm
    simp only [Option.bind_eq_some_iff, Prod.exists] at h
    obtain ⟨second, micro, rest', hs, t', ht, he⟩ := h
    cases he
    obtain ⟨rfl, rfl, rfl, rfl⟩ := timeOfDay_ofParts?_eq_some.1 ht
    obtain ⟨x, rfl, hx1, hx2⟩ := exists_secondText hs t.second_lt
    refine ⟨⟨t.hour, t.minute, x, t.hour_lt, t.minute_lt⟩, by simp [ClockText.chars], ?_⟩
    simp only [ClockText.time, hx1, hx2]
  · cases h

end Clock

/-! ## Zones -/

section Zone

variable {cs : List Char}

/-- What follows a colon, if there is one. -/
def afterColon (cs : List Char) : List Char :=
  match cs with
  | ':' :: rest => rest
  | _ => cs

theorem readSpan?_eq (cs : List Char) : readSpan? cs = (digits? 2 cs).bind fun (hour, cs) =>
    (digits? 2 (afterColon cs)).bind fun (minute, cs) =>
      if cs.isEmpty ∧ hour < 24 ∧ minute < 60 then some (hour * 3600 + minute * 60)
      else none := rfl

/-- Hours and minutes of a shift are read exactly where they are written. -/
theorem readSpan?_eq_some {n : Nat} : readSpan? cs = some n ↔
    ∃ hour minute colon, cs = spanChars hour minute colon ∧ hour < 24 ∧ minute < 60 ∧
      hour * 3600 + minute * 60 = n := by
  rw [readSpan?_eq]
  constructor
  · intro h
    simp only [Option.bind_eq_some_iff, Prod.exists] at h
    obtain ⟨hour, after, hh, minute, rest, hm, h⟩ := h
    obtain ⟨-, rfl⟩ := (digits?_eq_some (by decide)).1 hh
    obtain ⟨-, hm⟩ := (digits?_eq_some (by decide)).1 hm
    simp only [Option.ite_none_right_eq_some, List.isEmpty_iff, Option.some.injEq] at h
    obtain ⟨⟨rfl, hlh, hlm⟩, rfl⟩ := h
    rw [List.append_nil] at hm
    unfold afterColon at hm
    split at hm
    · exact ⟨hour, minute, true, by rw [hm]; rfl, hlh, hlm, rfl⟩
    · exact ⟨hour, minute, false, by rw [hm]; rfl, hlh, hlm, rfl⟩
  · rintro ⟨hour, minute, colon, rfl, hh, hm, rfl⟩
    have hhour : digits? 2 (spanChars hour minute colon) =
        some (hour, (if colon then [':'] else []) ++ paddedDigits 2 minute) :=
      (digits?_eq_some (by decide)).2 ⟨by omega, rfl⟩
    have hminute : digits? 2 (paddedDigits 2 minute) = some (minute, []) :=
      (digits?_eq_some (by decide)).2 ⟨by omega, (List.append_nil _).symm⟩
    have hrest : afterColon ((if colon then [':'] else []) ++ paddedDigits 2 minute) =
        paddedDigits 2 minute := by
      cases colon with
      | true => rfl
      | false =>
        change afterColon (paddedDigits 2 minute) = _
        unfold afterColon
        split
        · next rest he =>
          have hd : ':'.isDigit = true :=
            @isDigit_of_mem_paddedDigits 2 minute _ (he ▸ List.mem_cons_self)
          cases hd
        · rfl
    simp only [hhour, Option.bind_some, hrest, hminute]
    exact if_pos ⟨rfl, hh, hm⟩

theorem offset_ofSeconds?_eq_some {n : Int} {o : Offset} :
    Offset.ofSeconds? n = some o ↔ o.seconds = n ∧ o.region = none := by
  unfold Offset.ofSeconds?
  constructor
  · intro h
    split_ifs at h
    cases h
    exact ⟨rfl, rfl⟩
  · obtain ⟨seconds, gt, lt, region⟩ := o
    rintro ⟨rfl, rfl⟩
    exact dif_pos ⟨gt, lt⟩

/-- The offset of a sign and a number of seconds. -/
def signedOffset? (sign : Char) (seconds : Nat) : Option (Option Offset) :=
  if sign = '+' then (Offset.ofSeconds? seconds).map some
  else if sign = '-' ∨ sign = '\u2212' then (Offset.ofSeconds? (-seconds)).map some
  else none

theorem ShiftText.signedOffset?_eq (s : ShiftText) :
    signedOffset? s.sign (s.hour * 3600 + s.minute * 60) = some (some s.offset) := by
  have ho : s.offset.seconds = if s.sign = '+' then ((s.hour * 3600 + s.minute * 60 : Nat) : Int)
      else -(s.hour * 3600 + s.minute * 60 : Nat) := rfl
  unfold signedOffset?
  split_ifs at ho ⊢ with hplus hminus
  · rw [offset_ofSeconds?_eq_some.2 ⟨ho, rfl⟩]
    rfl
  · rw [offset_ofSeconds?_eq_some.2 ⟨ho, rfl⟩]
    rfl
  · exact absurd (s.sign_eq.resolve_left hplus) hminus

theorem sign_of_signedOffset? {sign : Char} {seconds : Nat} {o : Option Offset}
    (h : signedOffset? sign seconds = some o) : sign = '+' ∨ sign = '-' ∨ sign = '\u2212' := by
  unfold signedOffset? at h
  split_ifs at h with hplus hminus
  · exact .inl hplus
  · exact .inr hminus

theorem readZone?_cons {c : Char} (hc : ¬((c = 'Z' ∨ c = 'z') ∧ cs = [])) :
    readZone? (c :: cs) = (readSpan? cs).bind (signedOffset? c) := by
  rw [readZone?]
  · rfl
  · rintro rfl rfl
    exact hc ⟨.inl rfl, rfl⟩
  · rintro rfl rfl
    exact hc ⟨.inr rfl, rfl⟩

/-- **A zone is read exactly where it is written.** -/
theorem readZone?_eq_some {o : Option Offset} :
    readZone? cs = some o ↔ ∃ z : ZoneText, cs = z.chars ∧ z.offset? = o := by
  constructor
  · intro h
    cases cs with
    | nil =>
      cases h
      exact ⟨.unwritten, rfl, rfl⟩
    | cons c cs =>
      by_cases hc : (c = 'Z' ∨ c = 'z') ∧ cs = []
      · obtain ⟨hmark, rfl⟩ := hc
        refine ⟨.universal c hmark, rfl, ?_⟩
        rcases hmark with rfl | rfl <;>
          · cases h
            rfl
      · rw [readZone?_cons hc, Option.bind_eq_some_iff] at h
        obtain ⟨n, hn, h⟩ := h
        obtain ⟨hour, minute, colon, rfl, hh, hm, rfl⟩ := readSpan?_eq_some.1 hn
        -- the shift is kept opaque, so that its offset is the one that the law gives
        obtain ⟨s, hs⟩ : ∃ s : ShiftText,
            s = ⟨c, hour, minute, colon, sign_of_signedOffset? h, hh, hm⟩ := ⟨_, rfl⟩
        have ho : some o = some (some s.offset) := by rw [← s.signedOffset?_eq, ← h, hs]
        cases ho
        exact ⟨.shifted s, by rw [hs]; rfl, rfl⟩
  · rintro ⟨z, rfl, rfl⟩
    match z with
    | .unwritten => rfl
    | .universal mark hmark => rcases hmark with rfl | rfl <;> rfl
    | .shifted s =>
      have hspan : readSpan? (spanChars s.hour s.minute s.colon) =
          some (s.hour * 3600 + s.minute * 60) :=
        readSpan?_eq_some.2 ⟨s.hour, s.minute, s.colon, rfl, s.hour_lt, s.minute_lt, rfl⟩
      have hc : ¬((s.sign = 'Z' ∨ s.sign = 'z') ∧ spanChars s.hour s.minute s.colon = []) := by
        rintro ⟨h, -⟩
        rcases s.sign_eq with hs | hs | hs <;> rw [hs] at h <;> revert h <;> decide
      rw [ZoneText.chars, ShiftText.chars, readZone?_cons hc, hspan, Option.bind_some,
        s.signedOffset?_eq]
      rfl

/-- A zone cannot be taken for more of the time of day before it. -/
theorem apart_zone (z : ZoneText) : Apart z.chars := by
  intro c hc
  cases z with
  | unwritten => cases hc
  | universal mark hmark =>
    cases hc
    rcases hmark with rfl | rfl <;> decide
  | shifted s =>
    cases hc
    rcases s.sign_eq with hs | hs | hs <;> rw [hs] <;> decide

end Zone

/-! ## Days -/

section Day

variable {cs rest : List Char} {year month day : Nat}

theorem field_eq_ok {fault : MomentFault} {width n : Nat} (hw : 0 < width) :
    field fault width cs = .ok (n, rest) ↔ n < 10 ^ width ∧ cs = paddedDigits width n ++ rest := by
  rw [← digits?_eq_some hw, field]
  cases digits? width cs <;> simp

theorem dash_eq_ok : dash cs = .ok rest ↔ cs = '-' :: rest := by
  unfold dash
  split
  · simp
  · next h => simpa using h rest

/-- The months of the year are those that have days. -/
theorem month_of_daysInMonth (h : 0 < daysInMonth year month) : 1 ≤ month ∧ month ≤ 12 := by
  unfold daysInMonth at h
  split at h <;> simp_all

theorem daysInMonth_le (year month : Nat) : daysInMonth year month ≤ 31 := by
  unfold daysInMonth
  split <;> first | decide | split <;> decide

/-- **Year, month and day are read exactly where they are written**, if there is such a day. -/
theorem readDay_eq_ok : readDay cs = .ok ((year, month, day), rest) ↔
    cs = paddedDigits 4 year ++ '-' :: paddedDigits 2 month ++ '-' :: paddedDigits 2 day ++ rest ∧
      year < 10000 ∧ 1 ≤ day ∧ day ≤ daysInMonth year month := by
  constructor
  · intro h
    simp only [readDay, bind_eq_ok, Prod.exists, field_eq_ok (show 0 < 4 by decide),
      field_eq_ok (show 0 < 2 by decide), dash_eq_ok] at h
    obtain ⟨y, _, ⟨hy, rfl⟩, _, rfl, m, _, ⟨hm, rfl⟩, _, rfl, d, _, ⟨hd, rfl⟩, h⟩ := h
    split_ifs at h with h1 h2
    · cases h
    · cases h
    · cases h
    · cases h
      exact ⟨by simp, hy, by omega, by omega⟩
  · rintro ⟨rfl, hy, hd1, hd⟩
    have hm := month_of_daysInMonth (hd1.trans hd)
    have hd31 := hd.trans (daysInMonth_le year month)
    simp only [readDay, bind_eq_ok, Prod.exists, field_eq_ok (show 0 < 4 by decide),
      field_eq_ok (show 0 < 2 by decide), dash_eq_ok]
    refine ⟨year, _, ⟨hy, by simp only [List.append_assoc, List.cons_append]; rfl⟩, _, rfl,
      month, _, ⟨by omega, rfl⟩, _, rfl, day, _, ⟨by omega, rfl⟩, ?_⟩
    rw [if_neg (by omega), if_neg (by omega)]
    rfl

theorem date_ofParts?_eq_some {d : Date} :
    Date.ofParts? year month day = some d ↔ d.year = year ∧ d.month = month ∧ d.day = day := by
  constructor
  · intro h
    unfold Date.ofParts? at h
    split_ifs at h
    cases h
    exact ⟨rfl, rfl, rfl⟩
  · rintro ⟨rfl, rfl, rfl⟩
    exact Date.ofParts?_eq d

/-- The day of a date is read. -/
theorem readDay_iso (d : Date) (rest : List Char) :
    readDay (d.iso.toList ++ rest) = .ok ((d.year, d.month, d.day), rest) := by
  have := d.year_le
  refine readDay_eq_ok.2 ⟨?_, by omega, d.day_pos, d.day_le⟩
  rw [toList_iso]

end Day

/-! ## Moments -/

section Moment

variable {cs : List Char} {time : TimeOfDay} {offset : Option Offset}

/-- What is read after a date is nothing at all, or a separator, a time of day and a zone. -/
theorem readTime?_eq_some : readTime? cs = some (time, offset) ↔
    cs = [] ∧ time = .start ∧ offset = none ∨
      ∃ (separator : Char) (c : ClockText) (z : ZoneText),
        (separator = 'T' ∨ separator = 't' ∨ separator = '_' ∨ separator = ' ') ∧
          cs = separator :: (c.chars ++ z.chars) ∧ c.time = time ∧ z.offset? = offset := by
  cases cs with
  | nil =>
    rw [readTime?, Option.some.injEq, Prod.mk.injEq]
    constructor
    · rintro ⟨rfl, rfl⟩
      exact .inl ⟨rfl, rfl, rfl⟩
    · rintro (⟨-, rfl, rfl⟩ | ⟨_, _, _, _, h, _⟩)
      · exact ⟨rfl, rfl⟩
      · cases h
  | cons separator cs =>
    simp only [readTime?, reduceCtorEq, false_and, false_or, List.cons.injEq]
    constructor
    · intro h
      split_ifs at h with hsep
      simp only [Option.bind_eq_bind, Option.bind_eq_some_iff, Prod.exists] at h
      obtain ⟨t, rest, hc, o, hz, he⟩ := h
      cases he
      obtain ⟨c, rfl, rfl⟩ := exists_clockText hc
      obtain ⟨z, rfl, rfl⟩ := readZone?_eq_some.1 hz
      exact ⟨separator, c, z, hsep, ⟨rfl, rfl⟩, rfl, rfl⟩
    · rintro ⟨_, c, z, hsep, ⟨rfl, rfl⟩, rfl, rfl⟩
      have hz : readZone? z.chars = some z.offset? := readZone?_eq_some.2 ⟨z, rfl, rfl⟩
      rw [if_pos hsep, readClock?_chars c (apart_zone z)]
      simp only [Option.bind_eq_bind, Option.bind_some, hz]
      rfl

/-- **What is read as a moment is a day or a timestamp**, and both are read where they are
written. -/
theorem readWritten_eq_ok {t : DateTime} : readWritten cs = .ok t ↔
    (∃ d : Date, cs = d.iso.toList ∧ t = ⟨d, .start, none⟩) ∨
      ∃ w : Timestamp, cs = w.chars ∧ w.moment = t := by
  constructor
  · intro h
    unfold readWritten at h
    rw [bind_eq_ok] at h
    obtain ⟨⟨⟨year, month, day⟩, rest⟩, hday, h⟩ := h
    obtain ⟨rfl, -⟩ := readDay_eq_ok.1 hday
    simp only at h
    split at h
    · cases h
    · cases h
    · next time offset date htime hdate =>
      cases h
      obtain ⟨rfl, rfl, rfl⟩ := date_ofParts?_eq_some.1 hdate
      rw [← toList_iso]
      rcases readTime?_eq_some.1 htime with ⟨rfl, rfl, rfl⟩ | ⟨sep, c, z, hsep, rfl, rfl, rfl⟩
      · exact .inl ⟨date, List.append_nil _, rfl⟩
      · exact .inr ⟨⟨date, sep, c, z, hsep⟩, rfl, rfl⟩
  · rintro (⟨d, hcs, rfl⟩ | ⟨w, hcs, rfl⟩)
    · have hd := readDay_iso d []
      rw [List.append_nil] at hd
      rw [hcs, readWritten, hd]
      simp only [bind, Except.bind, readTime?, d.ofParts?_eq]
      rfl
    · have ht : readTime? (w.separator :: (w.clock.chars ++ w.zone.chars)) =
          some (w.clock.time, w.zone.offset?) :=
        readTime?_eq_some.2 (.inr ⟨_, w.clock, w.zone, w.separator_eq, rfl, rfl, rfl⟩)
      rw [hcs, readWritten, Timestamp.chars, readDay_iso]
      simp only [bind, Except.bind, ht, w.date.ofParts?_eq]
      rfl

end Moment

end TraversalScript
