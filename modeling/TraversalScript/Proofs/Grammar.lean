import Mathlib.Data.List.Forall2
import TraversalScript.Form.Request
import TraversalScript.Proofs.Spelled

/-!
# The grammar of requests

Which JSON values are accepted as requests.

* `Reading.seq_eq_accepted`, `Reading.required_eq_accepted` and the like: a reading is accepted if
  all its parts are, with what they give;
* `CriteriaShape`, `EntityShape`, `RequestShape`: the grammar, by the fields of objects;
* `CriteriaForm.ofFields_eq_accepted`, `CriteriaForm.exists_parse_iff`: a node is accepted by its
  fields, and a tree by its grammar;
* `Within`: the nodes of a tree as they are sent;
* **`request_accepted_iff`**: a request is accepted exactly if it is of the grammar.
-/

namespace TraversalScript

/-! ## Accepted readings -/

namespace Reading

variable {α β : Type} {b : β} {a : α} {fields : List (String × Json)} {name : String}

theorem map_eq_accepted {f : α → β} {x : Reading α} :
    f <$> x = accepted b ↔ ∃ a, x = accepted a ∧ f a = b := by
  cases x with
  | accepted a =>
    change accepted (f a) = accepted b ↔ _
    simp
  | refused i is =>
    change refused i is = accepted b ↔ _
    simp

theorem seq_eq_accepted {f : Reading (α → β)} {x : Reading α} :
    f <*> x = accepted b ↔ ∃ g a, f = accepted g ∧ x = accepted a ∧ g a = b := by
  cases f with
  | accepted g =>
    change g <$> x = accepted b ↔ _
    simp [map_eq_accepted]
  | refused i is =>
    change refused i (is ++ x.issues) = accepted b ↔ _
    simp

theorem under_eq_accepted {s : Step} {x : Reading α} :
    x.under s = accepted a ↔ x = accepted a := by
  cases x <;> simp [under]

theorem andThen_eq_accepted {x : Reading α} {f : α → Reading β} :
    x.andThen f = accepted b ↔ ∃ a, x = accepted a ∧ f a = accepted b := by
  cases x <;> simp [andThen]

theorem required_eq_accepted {read : Json → Reading α} :
    required fields name read = accepted a ↔
      ∃ j, fields.lookup name = some j ∧ read j = accepted a := by
  unfold required
  cases fields.lookup name <;> simp [under_eq_accepted, fail]

theorem optional_eq_accepted {default : α} {read : Json → Reading α} :
    optional fields name default read = accepted a ↔
      fields.lookup name = none ∧ a = default ∨
        ∃ j, fields.lookup name = some j ∧ read j = accepted a := by
  unfold optional
  cases fields.lookup name with
  | none => simp [eq_comm]
  | some j => simp [under_eq_accepted]

/-- A field that may be absent is accepted by itself. -/
theorem exists_optional_iff {default : α} {read : Json → Reading α} :
    (∃ a, optional fields name default read = accepted a) ↔
      ∀ j ∈ fields.lookup name, ∃ a, read j = accepted a := by
  simp only [optional_eq_accepted]
  cases fields.lookup name <;> simp

theorem noOthers_eq_accepted {known : List String} {u : Unit} :
    noOthers known fields = accepted u ↔ ∀ f ∈ fields, f.1 ∈ known := by
  have h (is : List Issue) : ofIssues () is = accepted u ↔ is = [] := by
    cases is <;> simp [ofIssues]
  rw [noOthers, h, List.map_eq_nil_iff, List.filter_eq_nil_iff]
  simp

/-! ### Plain parts -/

theorem text_eq_accepted {j : Json} {s : String} : text j = accepted s ↔ j = .text s := by
  cases j <;> simp [text, fail]

theorem textOrNull_eq_accepted {j : Json} {s : Option String} :
    textOrNull j = accepted s ↔ j = s.elim .null .text := by
  unfold textOrNull
  split
  · cases s <;> simp
  · next hj =>
    rw [map_eq_accepted]
    cases s with
    | none => simpa using hj
    | some s => simp [text_eq_accepted]

theorem someText_eq_accepted {j : Json} {s : String} :
    someText j = accepted s ↔ j = .text s ∧ s ≠ "" := by
  cases j with
  | text t =>
    change (if t.isEmpty then fail .emptyText (.text t) else accepted t) = _ ↔ _
    simp only [String.isEmpty_iff, Json.text.injEq]
    split_ifs with ht
    · subst ht
      simp only [fail, reduceCtorEq, false_iff, not_and, not_not]
      exact Eq.symm
    · rw [accepted.injEq]
      exact ⟨fun h => ⟨h, h ▸ ht⟩, And.left⟩
  | _ => simp [someText, fail]

theorem word_eq_accepted {words : List String} {find : String → Option α} {j : Json} :
    word words find j = accepted a ↔ ∃ s, j = .text s ∧ find s = some a := by
  cases j with
  | text s =>
    unfold word
    cases h : find s <;> simp [h, fail]
  | _ => simp [word, fail]

end Reading

theorem Operator.ofName?_eq_some {s : String} {o : Operator} :
    ofName? s = some o ↔ s = o.name := by
  constructor
  · intro h
    have := List.find?_some h
    exact (beq_iff_eq.1 this).symm
  · rintro rfl
    exact ofName?_name o

theorem Operator.name_injective {o p : Operator} (h : o.name = p.name) : o = p :=
  Option.some.inj ((ofName?_name o).symm.trans (ofName?_eq_some.2 h))

theorem Kind.ofWord?_eq_some {s : String} {k : Kind} : ofWord? s = some k ↔ s = k.word := by
  constructor
  · intro h
    have := List.find?_some h
    exact (beq_iff_eq.1 this).symm
  · rintro rfl
    exact ofWord?_word k

/-! ## The grammar -/

/-- What may stand as the operands of an operator: nothing, or a list of anything, in which the
texts spell moments if the operator is temporal. -/
def OperandsShape (o : Operator) (j : Json) : Prop :=
  j = .null ∨ ∃ js, j = .array js ∧
    (o.isTemporal = true → ∀ s, .text s ∈ js → Spelled s.toList)

/-- A criteria tree as it is sent. How many operands and children a node has does not matter. -/
inductive CriteriaShape : Json → Prop
  | node {fields : List (String × Json)} (o : Operator) (children : List Json)
      (known : ∀ f ∈ fields, f.1 ∈ ["type", "subject", "sub_values", "sub_criteria"])
      (type : fields.lookup "type" = some (.text o.name))
      (subject : ∀ j ∈ fields.lookup "subject", j = .null ∨ ∃ s, j = .text s)
      (operands : ∀ j ∈ fields.lookup "sub_values", OperandsShape o j)
      (list : ∀ j ∈ fields.lookup "sub_criteria", j = .array children)
      (each : ∀ c ∈ children, CriteriaShape c) : CriteriaShape (.object fields)

/-- An entity as it is sent. -/
inductive EntityShape : Json → Prop
  | entity {fields : List (String × Json)} (s : String) (k : Kind)
      (known : ∀ f ∈ fields, f.1 ∈ ["id_field_name", "entity_label", "entity_kind"])
      (idField : ∀ j ∈ fields.lookup "id_field_name", ∃ i, j = .text i)
      (label : fields.lookup "entity_label" = .some (.text s)) (notEmpty : s ≠ "")
      (kind : fields.lookup "entity_kind" = .some (.text k.word)) : EntityShape (.object fields)

/-- A request as it is sent. -/
inductive RequestShape : Json → Prop
  | request {fields : List (String × Json)} (c e : Json)
      (known : ∀ f ∈ fields, f.1 ∈ ["criteria", "entity"])
      (criteria : fields.lookup "criteria" = some c) (tree : CriteriaShape c)
      (entity : fields.lookup "entity" = some e) (about : EntityShape e) :
      RequestShape (.object fields)

/-! ## Operands -/

theorem Json.toValues_eq_map (js : List Json) : Json.toValues js = js.map Json.toValue := by
  induction js with
  | nil => rfl
  | cons j js ih => rw [Json.toValues, ih, List.map_cons]

theorem Json.toValue_eq_text {j : Json} {s : String} : j.toValue = .text s ↔ j = .text s := by
  cases j <;> simp [Json.toValue]

theorem exists_forall₂ {α β : Type} {R : α → β → Prop} {xs : List α} :
    (∃ ys, List.Forall₂ R xs ys) ↔ ∀ x ∈ xs, ∃ y, R x y := by
  induction xs with
  | nil => simp
  | cons x xs ih =>
    rw [List.forall_mem_cons, ← ih]
    simp only [List.forall₂_cons_left_iff]
    constructor
    · rintro ⟨_, y, ys, hy, hys, rfl⟩
      exact ⟨⟨y, hy⟩, ys, hys⟩
    · rintro ⟨⟨y, hy⟩, ys, hys⟩
      exact ⟨_, y, ys, hy, hys, rfl⟩

namespace CriteriaForm

theorem readOperand_text_eq_accepted {s : String} {v : Value} :
    readOperand (.text s) = .accepted v ↔ ∃ t, Moment.read s = .ok t ∧ v = .dateTime t := by
  rw [readOperand]
  cases Moment.read s <;> simp [Reading.fail, eq_comm]

theorem readOperand_of_ne {v : Value} (h : ∀ s, v ≠ .text s) : readOperand v = .accepted v := by
  cases v with
  | text s => exact absurd rfl (h s)
  | _ => rfl

/-- Operands are accepted one by one. -/
theorem readOperands_eq_accepted {vs ws : List Value} : readOperands vs = .accepted ws ↔
    List.Forall₂ (fun v w => readOperand v = .accepted w) vs ws := by
  induction vs generalizing ws with
  | nil => simp [readOperands, eq_comm]
  | cons v vs ih =>
    have hmap (w : Value) : (readOperands vs).map (w :: ·) = .accepted ws ↔
        ∃ us, readOperands vs = .accepted us ∧ w :: us = ws := Reading.map_eq_accepted
    simp only [readOperands, Reading.andThen_eq_accepted, hmap, List.forall₂_cons_left_iff, ih]
    constructor
    · rintro ⟨w, hw, us, hus, rfl⟩
      exact ⟨w, us, hw, hus, rfl⟩
    · rintro ⟨w, us, hw, hus, rfl⟩
      exact ⟨w, hw, us, hus, rfl⟩

/-- Operands are accepted as moments exactly if every text among them spells one. -/
theorem exists_readOperands_iff {js : List Json} :
    (∃ ws, readOperands (Json.toValues js) = .accepted ws) ↔
      ∀ s, .text s ∈ js → Spelled s.toList := by
  simp only [readOperands_eq_accepted, exists_forall₂, Json.toValues_eq_map, List.forall_mem_map]
  constructor
  · intro h s hs
    obtain ⟨v, hv⟩ := h _ hs
    obtain ⟨t, ht, -⟩ := readOperand_text_eq_accepted.1 hv
    exact exists_read_iff.1 ⟨t, ht⟩
  · intro h j hj
    by_cases hs : ∃ s, j = .text s
    · obtain ⟨s, rfl⟩ := hs
      obtain ⟨t, ht⟩ := exists_read_iff.2 (h s hj)
      exact ⟨_, readOperand_text_eq_accepted.2 ⟨t, ht, rfl⟩⟩
    · exact ⟨_, readOperand_of_ne fun s he => hs ⟨s, Json.toValue_eq_text.1 he⟩⟩

theorem operandsOrNull_eq_accepted {j : Json} {vs : Option (List Value)} :
    operandsOrNull j = .accepted vs ↔
      j = .null ∧ vs = none ∨ ∃ js, j = .array js ∧ vs = some (Json.toValues js) := by
  unfold operandsOrNull
  split
  · simp [eq_comm]
  · next hj =>
    rw [Reading.map_eq_accepted]
    cases j <;> simp [Reading.array, Reading.fail, eq_comm] at hj ⊢

/-! ## Nodes -/

/-- **A node is accepted by its fields**, with its operands read as moments if they are to be. -/
theorem ofFields_eq_accepted {fields : List (String × Json)}
    {children : Reading (List CriteriaForm)} {form : CriteriaForm} :
    ofFields fields children = .accepted form ↔
      ∃ (o : Operator) (subject : Option String) (operands : Option (List Value))
        (forms : List CriteriaForm),
        fields.lookup "type" = some (.text o.name) ∧
        Reading.optional fields "subject" none Reading.textOrNull = .accepted subject ∧
        Reading.optional fields "sub_values" none operandsOrNull = .accepted operands ∧
        children = .accepted forms ∧ (∀ f ∈ fields, f.1 ∈ fieldNames) ∧
        withMoments (node o subject operands forms) = .accepted form := by
  simp only [ofFields, Reading.andThen_eq_accepted, Reading.seq_eq_accepted,
    Reading.map_eq_accepted, Reading.required_eq_accepted, Reading.word_eq_accepted,
    Operator.ofName?_eq_some, Reading.noOthers_eq_accepted]
  constructor
  · rintro ⟨_, ⟨_, _, ⟨_, forms, ⟨_, operands, ⟨_, subject, ⟨o, ⟨_, hl, _, rfl, rfl⟩, rfl⟩,
      hs, rfl⟩, hv, rfl⟩, hc, rfl⟩, hk, rfl⟩, hw⟩
    exact ⟨o, subject, operands, forms, hl, hs, hv, hc, hk, hw⟩
  · rintro ⟨o, subject, operands, forms, hl, hs, hv, hc, hk, hw⟩
    exact ⟨_, ⟨_, (), ⟨_, forms, ⟨_, operands, ⟨_, subject, ⟨o, ⟨_, hl, _, rfl, rfl⟩, rfl⟩,
      hs, rfl⟩, hv, rfl⟩, hc, rfl⟩, hk, rfl⟩, hw⟩

theorem exists_withMoments_iff {o : Operator} {subject : Option String} {forms : List CriteriaForm}
    {operands : Option (List Value)} :
    (∃ form, withMoments (node o subject operands forms) = .accepted form) ↔
      (o.isTemporal = true → ∀ vs ∈ operands, ∃ ws, readOperands vs = .accepted ws) := by
  cases operands with
  | none => simp [withMoments]
  | some vs =>
    rw [withMoments]
    split_ifs with ho
    · have hmap (form : CriteriaForm) :
          (readOperands vs).map (fun read => node o subject (some read) forms) = .accepted form ↔
            ∃ ws, readOperands vs = .accepted ws ∧ node o subject (some ws) forms = form :=
        Reading.map_eq_accepted
      simp [ho, hmap]
    · simp [ho]

/-- The operands of a node are accepted exactly if they are as its operator asks. -/
theorem exists_operands_iff {fields : List (String × Json)} {o : Operator} :
    (∃ vs, Reading.optional fields "sub_values" none operandsOrNull = .accepted vs ∧
      (o.isTemporal = true → ∀ us ∈ vs, ∃ ws, readOperands us = .accepted ws)) ↔
      ∀ j ∈ fields.lookup "sub_values", OperandsShape o j := by
  constructor
  · rintro ⟨vs, hvs, hw⟩ j hj
    rcases Reading.optional_eq_accepted.1 hvs with ⟨hn, -⟩ | ⟨i, hi, hr⟩
    · rw [hn] at hj
      cases hj
    · rw [hi] at hj
      cases hj
      rcases operandsOrNull_eq_accepted.1 hr with ⟨rfl, rfl⟩ | ⟨js, rfl, rfl⟩
      · exact .inl rfl
      · exact .inr ⟨js, rfl, fun ho => exists_readOperands_iff.1 (hw ho _ rfl)⟩
  · intro h
    cases hl : fields.lookup "sub_values" with
    | none => exact ⟨none, Reading.optional_eq_accepted.2 (.inl ⟨hl, rfl⟩), fun _ _ => nofun⟩
    | some j =>
      rcases h j hl with rfl | ⟨js, rfl, ht⟩
      · exact ⟨none, Reading.optional_eq_accepted.2
          (.inr ⟨_, hl, operandsOrNull_eq_accepted.2 (.inl ⟨rfl, rfl⟩)⟩), fun _ _ => nofun⟩
      · refine ⟨some (Json.toValues js), Reading.optional_eq_accepted.2
          (.inr ⟨_, hl, operandsOrNull_eq_accepted.2 (.inr ⟨js, rfl, rfl⟩)⟩), ?_⟩
        rintro ho us ⟨⟩
        exact exists_readOperands_iff.2 (ht ho)

/-! ## Trees -/

theorem parseChildren_eq (origin : Origin) (fields : List (String × Json)) :
    parseChildren origin fields =
      Reading.optional fields "sub_criteria" [] (parseList origin) := by
  induction fields with
  | nil => rfl
  | cons f fields ih =>
    obtain ⟨name, j⟩ := f
    rw [parseChildren]
    split_ifs with h
    · subst h
      rfl
    · rw [ih, Reading.optional, Reading.optional, List.lookup_cons,
        beq_eq_false_iff_ne.2 (Ne.symm h)]

theorem parseItems_eq_accepted {origin : Origin} {i : Nat} {js : List Json}
    {forms : List CriteriaForm} : parseItems origin i js = .accepted forms ↔
      List.Forall₂ (fun j form => parse origin j = .accepted form) js forms := by
  induction js generalizing i forms with
  | nil => simp [parseItems, eq_comm]
  | cons j js ih =>
    simp only [parseItems, Reading.seq_eq_accepted, Reading.map_eq_accepted,
      Reading.under_eq_accepted, ih, List.forall₂_cons_left_iff]
    constructor
    · rintro ⟨_, forms, ⟨form, hf, rfl⟩, hfs, rfl⟩
      exact ⟨form, forms, hf, hfs, rfl⟩
    · rintro ⟨form, forms, hf, hfs, rfl⟩
      exact ⟨_, forms, ⟨form, hf, rfl⟩, hfs, rfl⟩

/-- Children are accepted if the field is absent, or holds an array of nodes that are accepted. -/
theorem parseChildren_eq_accepted {origin : Origin} {fields : List (String × Json)}
    {forms : List CriteriaForm} : parseChildren origin fields = .accepted forms ↔
      fields.lookup "sub_criteria" = none ∧ forms = [] ∨
        ∃ js, fields.lookup "sub_criteria" = some (.array js) ∧
          List.Forall₂ (fun j form => parse origin j = .accepted form) js forms := by
  have hlist (j : Json) : parseList origin j = .accepted forms ↔ ∃ js, j = .array js ∧
      List.Forall₂ (fun j form => parse origin j = .accepted form) js forms := by
    cases j <;> simp [parseList, parseItems_eq_accepted, Reading.fail]
  simp only [parseChildren_eq, Reading.optional_eq_accepted, hlist]
  constructor
  · rintro (h | ⟨_, hl, js, rfl, hf⟩)
    · exact .inl h
    · exact .inr ⟨js, hl, hf⟩
  · rintro (h | ⟨js, hl, hf⟩)
    · exact .inl h
    · exact .inr ⟨_, hl, js, rfl, hf⟩

theorem sizeOf_lt_of_lookup {fields : List (String × Json)} {name : String} {js : List Json}
    (h : fields.lookup name = some (.array js)) {c : Json} (hc : c ∈ js) :
    sizeOf c < sizeOf (Json.object fields) := by
  have hm : (name, Json.array js) ∈ fields := by
    obtain ⟨before, after, rfl, -⟩ := List.lookup_eq_some_iff.1 h
    simp
  have hj := List.sizeOf_lt_of_mem hc
  have hf := List.sizeOf_lt_of_mem hm
  simp only [Json.object.sizeOf_spec, Json.array.sizeOf_spec, Prod.mk.sizeOf_spec] at *
  omega

/-- What is accepted as a tree is of the grammar. -/
theorem shape_of_parse {origin : Origin} : ∀ {j : Json} {form : CriteriaForm},
    parse origin j = .accepted form → CriteriaShape j
  | .object fields, form, h => by
    obtain ⟨o, subject, operands, forms, hl, hs, hv, hc, hk, hw⟩ := ofFields_eq_accepted.1 h
    have hsubject : ∀ j ∈ fields.lookup "subject", j = .null ∨ ∃ s, j = .text s := by
      intro j hj
      obtain ⟨s, hs⟩ := Reading.exists_optional_iff.1 ⟨subject, hs⟩ j hj
      rw [Reading.textOrNull_eq_accepted.1 hs]
      cases s with
      | none => exact .inl rfl
      | some s => exact .inr ⟨s, rfl⟩
    have hoperands : ∀ j ∈ fields.lookup "sub_values", OperandsShape o j :=
      exists_operands_iff.1 ⟨operands, hv, exists_withMoments_iff.1 ⟨form, hw⟩⟩
    rcases parseChildren_eq_accepted.1 hc with ⟨hn, -⟩ | ⟨js, hj, hforms⟩
    · refine .node o [] hk hl hsubject hoperands ?_ nofun
      rw [hn]
      nofun
    · refine .node o js hk hl hsubject hoperands ?_ fun c hc => ?_
      · rw [hj]
        rintro _ ⟨⟩
        rfl
      · obtain ⟨form, hform⟩ := exists_forall₂.1 ⟨forms, hforms⟩ c hc
        exact shape_of_parse hform
  | .null, _, h | .bool _, _, h | .int _, _, h | .real _, _, h | .text _, _, h | .array _, _, h =>
    nomatch h
termination_by j => sizeOf j
-- a child is smaller than the object whose field lists it
decreasing_by exact sizeOf_lt_of_lookup hj hc

/-- What is of the grammar is accepted as a tree. -/
theorem exists_parse_of_shape (origin : Origin) {j : Json} (h : CriteriaShape j) :
    ∃ form, parse origin j = .accepted form := by
  induction h with
  | @node fields o children known type subject operands list each ih =>
    obtain ⟨s, hs⟩ := (@Reading.exists_optional_iff _ fields "subject" none
      Reading.textOrNull).2 fun j hj => by
        rcases subject j hj with rfl | ⟨s, rfl⟩
        · exact ⟨none, rfl⟩
        · exact ⟨some s, rfl⟩
    obtain ⟨vs, hvs, hw⟩ := exists_operands_iff.2 operands
    obtain ⟨forms, hforms⟩ : ∃ forms, parseChildren origin fields = .accepted forms := by
      cases hl : fields.lookup "sub_criteria" with
      | none => exact ⟨[], parseChildren_eq_accepted.2 (.inl ⟨hl, rfl⟩)⟩
      | some j =>
        obtain ⟨forms, hforms⟩ := exists_forall₂.2 ih
        refine ⟨forms, parseChildren_eq_accepted.2 (.inr ⟨children, ?_, hforms⟩)⟩
        rw [hl, list j hl]
    obtain ⟨form, hform⟩ := exists_withMoments_iff.2 hw
    exact ⟨form, ofFields_eq_accepted.2 ⟨o, s, vs, forms, type, hs, hvs, hforms, known, hform⟩⟩

theorem exists_parse_iff {origin : Origin} {j : Json} :
    (∃ form, parse origin j = .accepted form) ↔ CriteriaShape j :=
  ⟨fun ⟨_, h⟩ => shape_of_parse h, exists_parse_of_shape origin⟩

end CriteriaForm

/-! ## Entities and requests -/

theorem EntityForm.exists_parse_iff {origin : Origin} {j : Json} :
    (∃ form, EntityForm.parse origin j = .accepted form) ↔ EntityShape j := by
  constructor
  · rintro ⟨form, h⟩
    cases j with
    | object fields =>
      simp only [parse, ofFields, Reading.seq_eq_accepted, Reading.map_eq_accepted,
        Reading.required_eq_accepted, Reading.someText_eq_accepted, Reading.word_eq_accepted,
        Kind.ofWord?_eq_some, Reading.noOthers_eq_accepted] at h
      obtain ⟨_, _, ⟨_, k, ⟨_, s, ⟨i, hi, rfl⟩, ⟨_, hl, rfl, hs⟩, rfl⟩, ⟨_, hk, _, rfl, rfl⟩, rfl⟩,
        hn, rfl⟩ := h
      refine .entity s k hn (fun j hj => ?_) hl hs hk
      obtain ⟨i, hi⟩ := Reading.exists_optional_iff.1 ⟨i, hi⟩ j hj
      exact ⟨i, Reading.text_eq_accepted.1 hi⟩
    | _ => cases h
  · rintro ⟨s, k, known, idField, label, notEmpty, kind⟩
    rename_i fields
    obtain ⟨i, hi⟩ := (@Reading.exists_optional_iff _ fields "id_field_name" defaultIdField
      Reading.text).2 fun j hj => by
        obtain ⟨i, rfl⟩ := idField j hj
        exact ⟨i, rfl⟩
    simp only [parse, ofFields, Reading.seq_eq_accepted, Reading.map_eq_accepted,
      Reading.required_eq_accepted, Reading.someText_eq_accepted, Reading.word_eq_accepted,
      Kind.ofWord?_eq_some, Reading.noOthers_eq_accepted]
    exact ⟨_, _, (), ⟨_, k, ⟨_, s, ⟨i, hi, rfl⟩, ⟨_, label, rfl, notEmpty⟩, rfl⟩,
      ⟨_, kind, _, rfl, rfl⟩, rfl⟩, known, rfl⟩

/-- The nodes of a criteria tree as it is sent. -/
inductive Within (n : Json) : Json → Prop
  | root : Within n n
  | child {c : Json} {fields : List (String × Json)} {children : List Json}
      (list : fields.lookup "sub_criteria" = some (.array children)) (mem : c ∈ children)
      (within : Within n c) : Within n (.object fields)

/-- Every node of a tree of the grammar is of the grammar. -/
theorem CriteriaShape.within {n j : Json} (h : CriteriaShape j) (hn : Within n j) :
    CriteriaShape n := by
  induction hn with
  | root => exact h
  | child list mem _ ih =>
    cases h with
    | node o children known type subject operands hlist each =>
      cases hlist _ list
      exact ih (each _ mem)

/-- **A request is accepted exactly if it is of the grammar**, and so one node outside the grammar,
at any depth of its tree, has it refused. -/
theorem request_accepted_iff (origin : Origin) (j : Json) :
    ((∃ form, RequestForm.parse origin j = .accepted form) ↔ RequestShape j) ∧
      ∀ c n, j.field? "criteria" = some c → Within n c → ¬CriteriaShape n →
        ∃ first others, RequestForm.parse origin j = .refused first others := by
  have hiff : (∃ form, RequestForm.parse origin j = .accepted form) ↔ RequestShape j := by
    constructor
    · rintro ⟨form, h⟩
      cases j with
      | object fields =>
        simp only [RequestForm.parse, RequestForm.ofFields, Reading.seq_eq_accepted,
          Reading.map_eq_accepted, Reading.required_eq_accepted, Reading.noOthers_eq_accepted] at h
        obtain ⟨_, _, ⟨_, e, ⟨c, ⟨i, hi, hc⟩, rfl⟩, ⟨k, hk, he⟩, rfl⟩, hn, rfl⟩ := h
        exact .request i k hn hi (CriteriaForm.exists_parse_iff.1 ⟨c, hc⟩) hk
          (EntityForm.exists_parse_iff.1 ⟨e, he⟩)
      | _ => cases h
    · rintro ⟨i, k, known, hi, tree, hk, about⟩
      obtain ⟨c, hc⟩ := CriteriaForm.exists_parse_iff.2 tree
      obtain ⟨e, he⟩ := EntityForm.exists_parse_iff.2 about
      simp only [RequestForm.parse, RequestForm.ofFields, Reading.seq_eq_accepted,
        Reading.map_eq_accepted, Reading.required_eq_accepted, Reading.noOthers_eq_accepted]
      exact ⟨_, _, (), ⟨_, e, ⟨c, ⟨i, hi, hc⟩, rfl⟩, ⟨k, hk, he⟩, rfl⟩, known, rfl⟩
  refine ⟨hiff, fun c n hc hn hshape => ?_⟩
  cases h : RequestForm.parse origin j with
  | refused first others => exact ⟨first, others, rfl⟩
  | accepted form =>
    cases hiff.1 ⟨form, h⟩ with
    | request i k known hi tree =>
      cases hi.symm.trans hc
      exact absurd (tree.within hn) hshape

end TraversalScript
