import TraversalScript.Proofs.Bounds

/-!
# Times as they are sent

A time that is sent as a text means the same as the moment that the text spells.

* `Sent`: an operand as it is sent, a timestamp, a day or no text at all;
* `Sent.value`, `Sent.count?`: the operand that is meant, and its milliseconds;
* `Sent.exists_readOperand`: what is read stands for the same time as what is meant;
* **`sent_predicate`**: a temporal node is written out as the leaf over the operands that are meant.
-/

namespace TraversalScript

/-- An operand of a temporal node as it is sent. -/
inductive Sent where
  | timestamp (w : Timestamp)
  | day (d : Date)
  | other (j : Json) (notText : ∀ s, j ≠ .text s)

namespace Sent

/-- What is sent. -/
def json : Sent → Json
  | timestamp w => .text w.text
  | day d => .text d.iso
  | other j _ => j

/-- The operand that is meant: the moment of a timestamp, the start of a day of universal time, and
anything else as it is. -/
def value : Sent → Value
  | timestamp w => .dateTime w.moment
  | day d => .dateTime ⟨d, .start, some .utc⟩
  | other j _ => j.toValue

/-- The milliseconds that are meant: those of the exact instant of a timestamp, rounded toward the
past, and those of the days before a day. -/
def count? : Sent → Option Int
  | timestamp w => some ⌊w.instant * 1000⌋
  | day d => some (d.daysFromEpoch * 86400000)
  | other j _ => milliseconds? j.toValue

theorem milliseconds?_value (x : Sent) : milliseconds? x.value = x.count? := by
  cases x with
  | timestamp w => exact congrArg some w.milliseconds_moment
  | day d =>
    refine congrArg some ?_
    simp only [DateTime.milliseconds, DateTime.instant, DateTime.offsetSeconds, Offset.utc,
      TimeOfDay.start, TimeOfDay.seconds]
    omega
  | other j h => rfl

/-- What is read of a text stands for the same time as what is meant. -/
theorem exists_readOperand (x : Sent) :
    ∃ v, CriteriaForm.readOperand x.json.toValue = .accepted v ∧ Alike v x.value := by
  cases x with
  | timestamp w =>
    have hr : Moment.read w.text = .ok w.moment := by
      refine read_of_readWritten (readWritten_eq_ok.2 (.inr ⟨w, ?_, rfl⟩))
      rw [Timestamp.text, String.toList_ofList]
    exact ⟨_, CriteriaForm.readOperand_text_eq_accepted.2 ⟨_, hr, rfl⟩, .inl rfl⟩
  | day d =>
    have hr : Moment.read d.iso = .ok ⟨d, .start, none⟩ :=
      read_of_readWritten (readWritten_eq_ok.2 (.inl ⟨d, rfl, rfl⟩))
    exact ⟨_, CriteriaForm.readOperand_text_eq_accepted.2 ⟨_, hr, rfl⟩, .inr ⟨_, rfl, rfl⟩⟩
  | other j h =>
    exact ⟨_, CriteriaForm.readOperand_of_ne fun s hs => h s (Json.toValue_eq_text.1 hs), .inl rfl⟩

end Sent

open CriteriaForm in
/-- **A temporal node is written out as the leaf over the operands that are meant**, whatever texts
they are sent as. Its bounds are the milliseconds that are meant, unless a number is sent beside the
texts that has too many digits. -/
theorem sent_predicate {fields : List (String × Json)} {o : Operator} {subject : Option String}
    {xs : List Sent} (h : NodeFields fields o subject (xs.map Sent.json) [])
    (ho : o.isTemporal = true) (origin : Origin) :
    ∃ form, parse origin (.object fields) = .accepted form ∧
      (∀ r, form.build >>= predicate r =
        Node.leaf (.member (.operator o)) (subjectValue subject) (xs.map Sent.value) >>=
          predicate r) ∧
      ∀ counts name idField idProperty, subject = some name → name ≠ "" →
        xs.map Sent.count? = counts.map some → counts.length = o.valueCount →
        (∀ x ∈ xs, x.value.isWritable = true) →
        form.build >>= predicate ⟨.text idField, .text idProperty⟩ =
          .ok (valuesSpelling (Quoted.literal (if name = idField then idProperty else name))
            (boundsSpelling o counts)) := by
  obtain ⟨vs, hvs⟩ := exists_forall₂.2 fun x (_ : x ∈ xs) => x.exists_readOperand
  -- a day is read without a zone and meant in universal time: it is alike, and not the same
  have halike : List.Forall₂ Alike vs (xs.map Sent.value) := by
    rw [List.forall₂_map_right_iff]
    exact (hvs.imp fun _ _ hv => hv.2).flip
  have hpredicate (r : Renaming) : (node o subject (some vs) []).build >>= predicate r =
      Node.leaf (.member (.operator o)) (subjectValue subject) (xs.map Sent.value) >>=
        predicate r :=
    build_alike ho halike (tuple?_operandsValue (some vs)) (tuple?_tuple _)
      (subjectValue subject) .none
      fun n m hn => by rw [predicate_eq_spelling, predicate_eq_spelling, hn r]
  refine ⟨node o subject (some vs) [], (parse_eq_accepted h ho).2 ⟨vs, [], ?_, .nil, rfl⟩,
    hpredicate, ?_⟩
  · rw [List.forall₂_map_left_iff]
    exact hvs.imp fun _ _ hv => hv.1
  · rintro counts name idField idProperty rfl hname hcounts hlength hwritable
    have hs : (subjectValue (some name)).truthy = true := by
      rw [truthy_subjectValue]
      simpa using hname
    have hcounts' : (xs.map Sent.value).map milliseconds? = counts.map some := by
      rw [List.map_map, ← hcounts]
      exact List.map_congr_left fun x _ => x.milliseconds?_value
    have hl : (xs.map Sent.value).length = o.valueCount := by
      simpa [hlength] using congrArg List.length hcounts
    rw [hpredicate, leaf_eq_ok ho hs hl]
    change predicate _ _ = _
    rw [predicate_eq_spelling, spelling_temporal ho]
    refine (leafSpelling_eq_ok ho hl).2 ⟨counts, _, hcounts', fun n hn => ?_, subjectText_text ..,
      rfl⟩
    have hmem : some n ∈ xs.map Sent.count? := hcounts ▸ List.mem_map_of_mem hn
    obtain ⟨x, hx, hxn⟩ := List.mem_map.1 hmem
    rw [← isWritable_of_milliseconds? (x.milliseconds?_value.trans hxn), hwritable x hx]

/-- A timestamp shortly before the end of 1969, five hours and a half ahead of universal time. -/
def eveTimestamp : Timestamp where
  date := ⟨1969, 12, 31, by decide, by decide, by decide, by decide⟩
  separator := '_'
  clock := ⟨23, 59, some ⟨59, some ⟨',', "9999999".toList, .inr rfl, by decide,
    List.all_eq_true.1 (by decide)⟩, by decide⟩, by decide, by decide⟩
  zone := .shifted ⟨'+', 5, 30, false, .inl rfl, by decide, by decide⟩
  separator_eq := .inr (.inr (.inl rfl))

/-- A day that only leap years have. -/
def leapDay : Date := ⟨2024, 2, 29, by decide, by decide, by decide, by decide⟩

/-- The fields of a node between the two. -/
def eveFields : List (String × Json) :=
  [("type", .text "BETWEEN"), ("subject", .text "at"),
    ("sub_values", .array [.text "1969-12-31_23:59:59,9999999+0530", .text "2024-02-29"])]

/-- The timestamp is written out with all digits of its fraction counted. -/
theorem sent_predicate_between :
    NodeFields eveFields .between (some "at")
        ([.timestamp eveTimestamp, .day leapDay].map Sent.json) [] ∧
      Operator.between.isTemporal = true ∧
      ∃ form, CriteriaForm.parse .body (.object eveFields) = .accepted form ∧
        form.build >>= predicate ⟨.text "key", .text "id"⟩ =
          .ok "values('at').is(between(-19800001, 1709164800000))" := by
  have heve : eveTimestamp.text = "1969-12-31_23:59:59,9999999+0530" := by decide +kernel
  have hday : leapDay.iso = "2024-02-29" := by decide +kernel
  have hm : ⌊eveTimestamp.instant * 1000⌋ = -19800001 := by
    rw [← Timestamp.milliseconds_moment]
    decide +kernel
  have h : NodeFields eveFields .between (some "at")
      ([.timestamp eveTimestamp, .day leapDay].map Sent.json) [] := by
    refine ⟨by decide, rfl, rfl, ?_, rfl⟩
    simp only [List.map_cons, List.map_nil, Sent.json, heve, hday]
    rfl
  obtain ⟨form, hp, -, hb⟩ := sent_predicate h rfl .body
  have hc : [.timestamp eveTimestamp, .day leapDay].map Sent.count? =
      [-19800001, 1709164800000].map some := by
    simp only [List.map_cons, List.map_nil, Sent.count?, hm]
    decide +kernel
  refine ⟨h, rfl, form, hp, ?_⟩
  have hw : ∀ x ∈ [Sent.timestamp eveTimestamp, .day leapDay], x.value.isWritable = true := by
    simp [Sent.value, Value.isWritable]
  rw [hb _ "at" "key" "id" rfl (by decide) hc rfl hw]
  exact congrArg Except.ok (by decide +kernel)

end TraversalScript
