import TraversalScript.Proofs.Leaves
import TraversalScript.Proofs.Mirror

/-!
# What is read of operands

Reading a criteria tree changes the texts among temporal operands and nothing else, and once only.

* `OperandRead`: what an operand is read as;
* `CriteriaForm.ReadAs`: a form that shows a JSON value node by node, its operands place by place;
* `CriteriaForm.Settled`, `Node.Settled`: no text is left among temporal operands;
* `ReadAs.each`: what is so for operands as they are read is so at every node;
* `CriteriaForm.reread`: the checks of a form run once more on what was read;
* `readAs_of_parse`, `parse_eq_reread`, `reread_of_settled`: what is read, and that a settled form
  stays as it is;
* `spelling_settled`: a settled tree is not refused for a text;
* **`moments_settled`**: all of this for every form that is accepted.
-/

namespace TraversalScript

/-! ## Operands -/

/-- What an operand is read as: a text under a temporal operator as the moment that it spells, and
everything else as it is. -/
inductive OperandRead (o : Operator) : Json → Value → Prop
  | moment {s : String} {t : DateTime} (temporal : o.isTemporal = true)
      (spells : Moment.read s = .ok t) : OperandRead o (.text s) (.dateTime t)
  | same {j : Json} (other : o.isTemporal = true → ∀ s, j ≠ .text s) : OperandRead o j j.toValue

/-- An operand as it is sent. -/
def OperandSent (_ : Operator) (j : Json) (v : Value) : Prop := v = j.toValue

/-- What a temporal operand is read as is no text. -/
theorem OperandRead.ne_text {o : Operator} {j : Json} {v : Value} (h : OperandRead o j v)
    (ho : o.isTemporal = true) (s : String) : v ≠ .text s := by
  cases h with
  | moment => exact nofun
  | same other => exact fun hv => other ho s (Json.toValue_eq_text.1 hv)

namespace CriteriaForm

/-- The operands of a node, place by place, or nothing. -/
inductive OperandsAs (R : Json → Value → Prop) : Json → Option (List Value) → Prop
  | null : OperandsAs R .null none
  | list {js : List Json} {vs : List Value} (each : List.Forall₂ R js vs) :
      OperandsAs R (.array js) (some vs)

/-- A form that shows a JSON value: the same operators, subjects and children at every node, and
operands that stand in a relation to those that were sent. -/
inductive ReadAs (R : Operator → Json → Value → Prop) : Json → CriteriaForm → Prop
  | node {fields : List (String × Json)} {o : Operator} {s : Option String}
      {vs : Option (List Value)} {children : List Json} {forms : List CriteriaForm}
      (known : ∀ f ∈ fields, f.1 ∈ fieldNames)
      (type : fields.lookup "type" = some (.text o.name))
      (subject : (fields.lookup "subject").getD .null = s.elim .null .text)
      (operands : OperandsAs (R o) ((fields.lookup "sub_values").getD .null) vs)
      (list : (fields.lookup "sub_criteria").getD (.array []) = .array children)
      (length : children.length = forms.length)
      (each : ∀ {c form}, (c, form) ∈ children.zip forms → ReadAs R c form) :
      ReadAs R (.object fields) (.node o s vs forms)

/-- What is so for each operand of a node under its operator. -/
def Each (P : Operator → Value → Prop) : CriteriaForm → Prop
  | node o _ vs _ => ∀ ws ∈ vs, ∀ v ∈ ws, P o v

/-- No text is left among the operands of a temporal node. -/
def Settled : CriteriaForm → Prop
  | node o _ vs _ => o.isTemporal = true → ∀ ws ∈ vs, ∀ s, .text s ∉ ws

/-! ## Reading once more -/

mutual

/-- The checks of a form run once more on what was read: those of the children, and then that of the
temporal operands. -/
def reread : CriteriaForm → Reading CriteriaForm
  | node o s vs forms =>
    ((rereadAll 0 forms).under (.field "sub_criteria")).map (node o s vs) |>.andThen withMoments

/-- The checks of a list of forms, each at its place. -/
def rereadAll : Nat → List CriteriaForm → Reading (List CriteriaForm)
  | _, [] => .accepted []
  | i, form :: forms => List.cons <$> (reread form).under (.item i) <*> rereadAll (i + 1) forms

end

theorem withMoments_of_settled {form : CriteriaForm} (h : form.Settled) :
    form.withMoments = .accepted form := by
  obtain ⟨o, s, vs, forms⟩ := form
  cases vs with
  | none => rfl
  | some vs =>
    rw [withMoments]
    split_ifs with ho
    · have hread : readOperands vs = .accepted vs := by
        rw [readOperands_eq_accepted, List.forall₂_same]
        intro v hv
        refine readOperand_of_ne fun t he => ?_
        exact h ho vs rfl t (he ▸ hv)
      rw [hread]
      rfl
    · rfl

mutual

/-- **A settled form stays as it is.** -/
theorem reread_of_settled (form : CriteriaForm) (h : ∀ g ∈ form.postorder, g.Settled) :
    form.reread = .accepted form := by
  cases form with
  | node o s vs forms =>
    rw [postorder, List.forall_mem_append] at h
    rw [reread, rereadAll_of_settled forms h.1 0]
    exact withMoments_of_settled (h.2 _ (List.mem_singleton_self _))

theorem rereadAll_of_settled (forms : List CriteriaForm)
    (h : ∀ g ∈ postorderAll forms, g.Settled) (i : Nat) : rereadAll i forms = .accepted forms := by
  cases forms with
  | nil => rfl
  | cons form forms =>
    rw [postorderAll, List.forall_mem_append] at h
    rw [rereadAll, reread_of_settled form h.1, rereadAll_of_settled forms h.2]
    rfl

end

/-! ## What was read -/

section Read

variable {fields : List (String × Json)} {o : Operator} {s : Option String}
  {vs : Option (List Value)} {j : Json} {form raw : CriteriaForm}

/-- A field that is read as nothing when it is null may as well be absent. -/
theorem optional_iff_getD {α : Type} {name : String} {default a : α} {read : Json → Reading α}
    (hn : read .null = .accepted default) :
    Reading.optional fields name default read = .accepted a ↔
      read ((fields.lookup name).getD .null) = .accepted a := by
  rw [Reading.optional]
  cases fields.lookup name with
  | none => rw [Option.getD_none, hn]
  | some j => rw [Option.getD_some, Reading.under_eq_accepted]

theorem type_iff : Reading.required fields "type"
      (Reading.word (Operator.all.map Operator.name) Operator.ofName?) = .accepted o ↔
    fields.lookup "type" = some (.text o.name) := by
  simp only [Reading.required_eq_accepted, Reading.word_eq_accepted, Operator.ofName?_eq_some]
  constructor
  · rintro ⟨_, hl, _, rfl, rfl⟩
    exact hl
  · exact fun hl => ⟨_, hl, _, rfl, rfl⟩

theorem subject_iff : Reading.optional fields "subject" none Reading.textOrNull = .accepted s ↔
    (fields.lookup "subject").getD .null = s.elim .null .text :=
  (optional_iff_getD (show Reading.textOrNull .null = .accepted none from rfl)).trans
    Reading.textOrNull_eq_accepted

theorem operandsOrNull_iff : operandsOrNull j = .accepted vs ↔ OperandsAs (OperandSent o) j vs := by
  rw [operandsOrNull_eq_accepted]
  constructor
  · rintro (⟨rfl, rfl⟩ | ⟨js, rfl, rfl⟩)
    · exact .null
    · refine .list ?_
      rw [Json.toValues_eq_map, List.forall₂_map_right_iff, List.forall₂_same]
      exact fun _ _ => rfl
  · rintro (- | @⟨js, vs, each⟩)
    · exact .inl ⟨rfl, rfl⟩
    · refine .inr ⟨js, rfl, ?_⟩
      rw [Json.toValues_eq_map, Option.some.injEq, ← List.forall₂_eq_eq_eq,
        List.forall₂_map_right_iff]
      exact each.flip

theorem operands_iff :
    Reading.optional fields "sub_values" none operandsOrNull = .accepted vs ↔
      OperandsAs (OperandSent o) ((fields.lookup "sub_values").getD .null) vs :=
  (optional_iff_getD (show operandsOrNull .null = .accepted none from rfl)).trans
    operandsOrNull_iff

theorem operandRead_of_readOperand (ho : o.isTemporal = true) {v : Value}
    (h : readOperand j.toValue = .accepted v) : OperandRead o j v := by
  by_cases hj : ∃ s, j = .text s
  · obtain ⟨s, rfl⟩ := hj
    obtain ⟨t, ht, rfl⟩ := readOperand_text_eq_accepted.1 h
    exact .moment ho ht
  · rw [readOperand_of_ne fun s hs => hj ⟨s, Json.toValue_eq_text.1 hs⟩] at h
    cases h
    exact .same fun _ s hs => hj ⟨s, hs⟩

/-- What becomes of the operands of a node when they are read. -/
theorem withMoments_eq_accepted {forms : List CriteriaForm} (hj : OperandsAs (OperandSent o) j vs)
    (h : withMoments (node o s vs forms) = .accepted form) :
    ∃ ws, form = node o s ws forms ∧ OperandsAs (OperandRead o) j ws := by
  cases hj with
  | null =>
    cases h
    exact ⟨none, rfl, .null⟩
  | @list js vs each =>
    obtain rfl : vs = js.map Json.toValue := by
      rw [← List.forall₂_eq_eq_eq, List.forall₂_map_right_iff]
      exact each.flip
    rw [withMoments] at h
    split_ifs at h with ho
    · obtain ⟨ws, hws, rfl⟩ := Reading.map_eq_accepted.1 h
      refine ⟨some ws, rfl, .list ?_⟩
      rw [readOperands_eq_accepted, List.forall₂_map_left_iff] at hws
      exact hws.imp fun _ _ hv => operandRead_of_readOperand ho hv
    · cases h
      refine ⟨_, rfl, .list ?_⟩
      rw [List.forall₂_map_right_iff, List.forall₂_same]
      exact fun _ _ => .same fun ht => absurd ht ho

end Read

/-- **What is accepted is read as it should be**, node by node. -/
theorem readAs_of_parse {origin : Origin} : ∀ {j : Json} {form : CriteriaForm},
    parse origin j = .accepted form → ReadAs OperandRead j form
  | .object fields, form, h => by
    obtain ⟨o, s, vs, forms, hl, hs, hv, hc, hk, hw⟩ := ofFields_eq_accepted.1 h
    obtain ⟨ws, rfl, hws⟩ := withMoments_eq_accepted (operands_iff.1 hv) hw
    rcases parseChildren_eq_accepted.1 hc with ⟨hn, rfl⟩ | ⟨js, hj, hforms⟩
    · have hlist : (fields.lookup "sub_criteria").getD (.array []) = .array [] := by rw [hn]; rfl
      exact .node hk hl (subject_iff.1 hs) hws hlist rfl nofun
    · have hlist : (fields.lookup "sub_criteria").getD (.array []) = .array js := by rw [hj]; rfl
      rw [List.forall₂_iff_zip] at hforms
      refine .node hk hl (subject_iff.1 hs) hws hlist hforms.1 fun hm => ?_
      have hmem := (List.of_mem_zip hm).1
      exact readAs_of_parse (hforms.2 hm)
  | .null, _, h | .bool _, _, h | .int _, _, h | .real _, _, h | .text _, _, h | .array _, _, h =>
    nomatch h
termination_by j => sizeOf j
-- a child is smaller than the object whose field lists it
decreasing_by exact sizeOf_lt_of_lookup hj hmem

/-- What is of the grammar can be read as it is sent. -/
theorem exists_sent {j : Json} (h : CriteriaShape j) : ∃ raw, ReadAs OperandSent j raw := by
  induction h with
  | @node fields o children known type subject operands list each ih =>
    obtain ⟨s, hs⟩ := (@Reading.exists_optional_iff _ fields "subject" none
      Reading.textOrNull).2 fun j hj => by
        rcases subject j hj with rfl | ⟨s, rfl⟩
        · exact ⟨none, rfl⟩
        · exact ⟨some s, rfl⟩
    obtain ⟨vs, hvs, -⟩ := exists_operands_iff.2 operands
    cases hl : fields.lookup "sub_criteria" with
    | none =>
      have hlist : (fields.lookup "sub_criteria").getD (.array []) = .array [] := by rw [hl]; rfl
      exact ⟨.node o s vs [],
        .node known type (subject_iff.1 hs) (operands_iff.1 hvs) hlist rfl nofun⟩
    | some j =>
      have hlist : (fields.lookup "sub_criteria").getD (.array []) = .array children := by
        rw [hl, list j hl]
        rfl
      obtain ⟨raws, hraws⟩ := exists_forall₂.2 ih
      rw [List.forall₂_iff_zip] at hraws
      exact ⟨_, .node known type (subject_iff.1 hs) (operands_iff.1 hvs) hlist hraws.1 hraws.2⟩

/-! ## Reading is reading once more -/

section Reread

variable {fields : List (String × Json)} {o : Operator} {s : Option String}
  {vs : Option (List Value)}

/-- A node whose fields are accepted but for its children. -/
theorem ofFields_of_parts (children : Reading (List CriteriaForm))
    (type : fields.lookup "type" = some (.text o.name))
    (subject : Reading.optional fields "subject" none Reading.textOrNull = .accepted s)
    (operands : Reading.optional fields "sub_values" none operandsOrNull = .accepted vs)
    (known : ∀ f ∈ fields, f.1 ∈ fieldNames) :
    ofFields fields children = (children.map (node o s vs)).andThen withMoments := by
  have hk : Reading.noOthers fieldNames fields = .accepted () :=
    Reading.noOthers_eq_accepted.2 known
  rw [ofFields, type_iff.2 type, subject, operands, hk]
  cases children with
  | accepted forms => rfl
  | refused i is =>
    change Reading.refused i (is ++ []) = .refused i is
    rw [List.append_nil]

theorem parseItems_eq_rereadAll {origin : Origin} {children : List Json}
    {forms : List CriteriaForm}
    (h : List.Forall₂ (fun c form => parse origin c = form.reread) children forms) (i : Nat) :
    parseItems origin i children = rereadAll i forms := by
  induction h generalizing i with
  | nil => rfl
  | cons hc _ ih => rw [parseItems, rereadAll, hc, ih]

/-- **To read a JSON value is to run the checks on what it shows**, with the same issues. -/
theorem ReadAs.parse_eq_reread (origin : Origin) {j : Json} {raw : CriteriaForm}
    (h : ReadAs OperandSent j raw) : parse origin j = raw.reread := by
  induction h with
  | @node fields o s vs children forms known type subject operands list length each ih =>
    have hchildren : parseChildren origin fields =
        (rereadAll 0 forms).under (.field "sub_criteria") := by
      rw [← parseItems_eq_rereadAll (List.forall₂_iff_zip.2 ⟨length, ih⟩), parseChildren_eq]
      cases hl : fields.lookup "sub_criteria" with
      | none =>
        rw [hl] at list
        cases list
        rw [Reading.optional, hl]
        rfl
      | some j =>
        rw [hl] at list
        cases list
        rw [Reading.optional, hl]
        rfl
    rw [parse, hchildren, reread]
    exact ofFields_of_parts _ type (subject_iff.2 subject) (operands_iff.2 operands) known

end Reread

/-! ## Settled trees -/

theorem exists_mem_zip {α β : Type} {xs : List α} {ys : List β} (h : xs.length = ys.length) {y : β}
    (hy : y ∈ ys) : ∃ x, (x, y) ∈ xs.zip ys := by
  rw [← List.map_snd_zip h.ge, List.mem_map] at hy
  obtain ⟨⟨x, _⟩, hm, rfl⟩ := hy
  exact ⟨x, hm⟩

theorem OperandsAs.forall {R : Json → Value → Prop} {P : Value → Prop} {j : Json}
    {vs : Option (List Value)} (h : OperandsAs R j vs) (hP : ∀ {j v}, R j v → P v) :
    ∀ ws ∈ vs, ∀ v ∈ ws, P v := by
  cases h with
  | null => exact nofun
  | list each =>
    rintro ws ⟨⟩ v hv
    obtain ⟨j, hj⟩ := exists_mem_zip each.length_eq hv
    exact hP (List.forall₂_zip each hj)

theorem exists_postorderAll {g : CriteriaForm} {forms : List CriteriaForm}
    (h : g ∈ postorderAll forms) : ∃ form ∈ forms, g ∈ form.postorder := by
  induction forms with
  | nil => cases h
  | cons form forms ih =>
    rw [postorderAll, List.mem_append] at h
    rcases h with h | h
    · exact ⟨form, List.mem_cons_self, h⟩
    · obtain ⟨form', hm, hg⟩ := ih h
      exact ⟨form', List.mem_cons_of_mem _ hm, hg⟩

/-- What is so for operands as they are read is so at every node of what was read. -/
theorem ReadAs.each {R : Operator → Json → Value → Prop} {P : Operator → Value → Prop} {j : Json}
    {form : CriteriaForm} (h : ReadAs R j form) (hP : ∀ {o j v}, R o j v → P o v) :
    ∀ g ∈ form.postorder, g.Each P := by
  induction h with
  | @node fields o s vs children forms _ _ _ operands _ length _ ih =>
    rw [postorder, List.forall_mem_append]
    constructor
    · intro g hg
      obtain ⟨form, hf, hg⟩ := exists_postorderAll hg
      obtain ⟨c, hc⟩ := exists_mem_zip length hf
      exact ih hc g hg
    · rw [List.forall_mem_singleton]
      exact operands.forall hP

/-- What was read is settled, at every node. -/
theorem ReadAs.settled {j : Json} {form : CriteriaForm} (h : ReadAs OperandRead j form) :
    ∀ g ∈ form.postorder, g.Settled := by
  have hne := h.each fun hr => OperandRead.ne_text hr
  intro g hg
  have hg := hne g hg
  obtain ⟨o, s, vs, forms⟩ := g
  exact fun ho ws hws t ht => hg ws hws _ ht ho t rfl

end CriteriaForm

/-! ## Settled trees are not refused for texts -/

/-- An operand that is no text under a temporal operator; and what has a type of the name of texts
is one. -/
def Textless (o : Operator) (v : Value) : Prop :=
  v.typeName = "str" → o.isTemporal = false ∧ ∃ s, v = .text s

/-- What an operand is read as is no text that a temporal operator would refuse. -/
theorem OperandRead.textless {o : Operator} {j : Json} {v : Value} (h : OperandRead o j v) :
    Textless o v := by
  intro hv
  cases h with
  | moment => simp [Value.typeName] at hv
  | same other =>
    cases j with
    | text s => exact ⟨Bool.eq_false_iff.2 fun ho => other ho s rfl, s, by rw [Json.toValue]⟩
    | _ => simp [Json.toValue, Value.typeName] at hv

/-- A checked tree whose operands are no texts under a temporal operator. -/
inductive Node.Settled : Node → Prop
  | criteria {o : Operator} {s : Value} {vs : List Value} {ns : List Node}
      (operands : ∀ v ∈ vs, Textless o v) (children : ∀ n ∈ ns, Settled n) :
      Settled (.criteria o s vs ns)

mutual

theorem CriteriaForm.mirror_settled (form : CriteriaForm)
    (h : ∀ g ∈ form.postorder, g.Each Textless) : form.mirror.Settled := by
  cases form with
  | node o s vs forms =>
    rw [postorder, List.forall_mem_append, List.forall_mem_singleton] at h
    refine .criteria (fun v hv => ?_) (mirrorAll_settled forms h.1)
    cases vs with
    | none => cases hv
    | some vs => exact h.2 vs rfl v hv

theorem CriteriaForm.mirrorAll_settled (forms : List CriteriaForm)
    (h : ∀ g ∈ postorderAll forms, g.Each Textless) : ∀ n ∈ mirrorAll forms, n.Settled := by
  cases forms with
  | nil => exact nofun
  | cons form forms =>
    rw [postorderAll, List.forall_mem_append] at h
    rw [mirrorAll, List.forall_mem_cons]
    exact ⟨form.mirror_settled h.1, mirrorAll_settled forms h.2⟩

end

theorem Value.mem_of_itemOf {vs : List Value} {i : Nat} {v : Value} (h : itemOf vs i = .ok v) :
    v ∈ vs := by
  rw [itemOf] at h
  cases hv : vs[i]? with
  | none =>
    rw [hv] at h
    cases h
  | some w =>
    rw [hv] at h
    cases h
    exact List.mem_of_getElem? hv

/-- **A settled tree is not refused for a text.** -/
theorem spelling_settled {r : Renaming} {n : Node} (hn : n.Settled) (use : Use) :
    spelling r n ≠ .error (.script (.unsupportedValue "str" use)) := by
  induction hn with
  | @criteria o s vs ns operands _ ih =>
    rw [spelling]
    cases ho : o.joiner? with
    | some opening =>
      rcases ns with _ | ⟨left, _ | ⟨right, more⟩⟩
      · simp [pairSpelling]
      · simp [pairSpelling]
      · have hl := ih left (by simp)
        have hr := ih right (by simp)
        simp only [pairSpelling]
        cases ha : spelling r left with
        | error f =>
          rw [ha] at hl
          exact hl
        | ok a =>
          cases hb : spelling r right with
          | error f =>
            rw [hb] at hr
            exact hr
          | ok b => simp
    | none =>
      intro h
      obtain ⟨i, v, hv, hf, he⟩ := leafSpelling_eq_script h
      obtain ⟨ht, t, rfl⟩ := operands v (Value.mem_of_itemOf hv)
        (ScriptError.unsupportedValue.inj he).1.symm
      -- a text does not fit only where a moment is wanted
      cases o with
      | before | after | between => cases ht
      | _ => cases hf

open CriteriaForm in
/-- **Reading a tree makes moments of the texts among temporal operands and changes nothing else.**
Every operand is in its place; no temporal node is left with a text, so that no tree made of the
form is refused for one; and what was read is left as it is by the checks that made it of what was
sent. -/
theorem moments_settled {origin : Origin} {j : Json} {form : CriteriaForm}
    (h : parse origin j = .accepted form) :
    ReadAs OperandRead j form ∧
      (∀ g ∈ form.postorder, g.Settled) ∧
      (∀ n, form.toNode = .ok n → ∀ r use,
        predicate r n ≠ .error (.script (.unsupportedValue "str" use))) ∧
      (∃ raw, ReadAs OperandSent j raw ∧ parse origin j = raw.reread) ∧
      form.reread = .accepted form ∧ ∀ g ∈ form.postorder, g.withMoments = .accepted g := by
  have hread := readAs_of_parse h
  have hsettled := hread.settled
  refine ⟨hread, hsettled, fun n hn r use => ?_, ?_, reread_of_settled form hsettled,
    fun g hg => withMoments_of_settled (hsettled g hg)⟩
  · obtain rfl := eq_mirror_of_toNode form hn
    rw [predicate_eq_spelling]
    have htextless := hread.each fun hr => OperandRead.textless hr
    exact spelling_settled (form.mirror_settled htextless) use
  · obtain ⟨raw, hraw⟩ := exists_sent (shape_of_parse h)
    exact ⟨raw, hraw, hraw.parse_eq_reread origin⟩

/-- The same text as a bound, next to a number, and as a value that something is to be equal to. -/
def birthdays : Json :=
  .object [("type", .text "AND"), ("sub_criteria", .array [
    .object [("sub_values", .array [.text "2024-02-29", .int 5]), ("subject", .text "born"),
      ("type", .text "BETWEEN")],
    .object [("type", .text "IS_EQUAL"), ("subject", .text "day"),
      ("sub_values", .array [.text "2024-02-29"])]])]

/-- What is read of it, once the bound is a moment. -/
def birthdaysForm (t : DateTime) : CriteriaForm :=
  .node .and none none [
    .node .between (some "born") (some [.dateTime t, .int 5]) [],
    .node .isEqual (some "day") (some [.text "2024-02-29"]) []]

theorem birthdays_settled : ∃ t, CriteriaForm.parse .body birthdays = .accepted (birthdaysForm t) ∧
    CriteriaForm.ReadAs OperandRead birthdays (birthdaysForm t) ∧
      (birthdaysForm t).reread = .accepted (birthdaysForm t) := by
  obtain ⟨t, h⟩ : ∃ t, CriteriaForm.parse .body birthdays = .accepted (birthdaysForm t) :=
    ⟨_, rfl⟩
  obtain ⟨hread, -, -, -, hreread, -⟩ := moments_settled h
  exact ⟨t, h, hread, hreread⟩

end TraversalScript
