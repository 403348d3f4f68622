import TraversalScript.Proofs.Construction

/-!
# Trees mirror forms

A form becomes the tree of its own shape or none, and a tree comes back from the JSON value that
shows it.

* `CriteriaForm.mirror`: the tree of a form, part by part;
* `CriteriaForm.Kept`, `CriteriaForm.construct`: whether a node of a form keeps the contract of its
  operator, and the node alone, over the trees of its children;
* **`toNode_eq_ok`**, **`toNode_eq_error`**: a form becomes its mirror if every node of it is kept,
  and else the first that is not is reported;
* `Node.Plain`, `Node.json?`: trees of texts and JSON operands, and the JSON value of one;
* **`readBack_of_plain`**: such a tree is read back from its JSON value;
* **`conversion_exact`**: both.
-/

namespace TraversalScript

namespace CriteriaForm

/-! ## The tree of a form -/

mutual

/-- The tree of a form, part by part: no subject is nothing, and no operands are an empty list. -/
def mirror : CriteriaForm → Node
  | node o s vs forms => .criteria o (subjectValue s) (vs.getD []) (mirrorAll forms)

/-- The trees of a list of forms, in their order. -/
def mirrorAll : List CriteriaForm → List Node
  | [] => []
  | form :: forms => form.mirror :: mirrorAll forms

end

/-- Whether the parts of a node keep the contract of its operator. -/
def Kept : CriteriaForm → Prop
  | node o s vs forms => Node.Contract o (subjectValue s) (vs.getD []) (mirrorAll forms)

/-- A node of a form alone, over the trees of its children. -/
def construct : CriteriaForm → Except Fault Node
  | node o s vs forms =>
    Node.build (.member (.operator o)) (subjectValue s) (operandsValue vs)
      (.nodes (mirrorAll forms))

section Conversion

variable {form g : CriteriaForm} {forms : List CriteriaForm} {n : Node} {ns : List Node}

theorem length_mirrorAll (forms : List CriteriaForm) : (mirrorAll forms).length = forms.length := by
  induction forms with
  | nil => rfl
  | cons form forms ih => rw [mirrorAll, List.length_cons, List.length_cons, ih]

theorem isCriteria_mirrorAll : ∀ n ∈ mirrorAll forms, n.isCriteria = true := by
  induction forms with
  | nil => exact nofun
  | cons form forms ih =>
    rw [mirrorAll, List.forall_mem_cons]
    refine ⟨?_, ih⟩
    cases form
    rfl

theorem fault?_eq_none : g.fault? = none ↔ g.Kept := by
  obtain ⟨o, s, vs, forms⟩ := g
  have hm := @malformation?_eq_flaw? o s vs forms _ (length_mirrorAll forms) isCriteria_mirrorAll
  rw [fault?, ← hm, Option.map_eq_none_iff, Node.malformation?_eq_none, Kept]

/-- A node alone is built or its own flaw is reported. -/
theorem construct_eq (g : CriteriaForm) : g.construct =
    match g.fault? with
    | some e => .error (.script e)
    | none => .ok g.mirror := by
  obtain ⟨o, s, vs, forms⟩ := g
  have hm := @malformation?_eq_flaw? o s vs forms _ (length_mirrorAll forms) isCriteria_mirrorAll
  rw [construct, fault?, ← hm]
  simp only [Node.build, tuple?_operandsValue, Children.toList, Node.ofParts]
  cases Node.malformation? o (subjectValue s) (vs.getD []) (mirrorAll forms) <;> rfl

mutual

theorem eq_mirror_of_toNode (form : CriteriaForm) {n : Node} (h : form.toNode = .ok n) :
    n = form.mirror := by
  cases form with
  | node o s vs forms =>
    rw [toNode] at h
    cases hns : toNodes forms with
    | error e =>
      rw [hns] at h
      cases h
    | ok ns =>
      rw [hns] at h
      obtain ⟨-, rfl⟩ := Node.ofParts_eq_ok.1 h
      rw [mirror, eq_mirrorAll_of_toNodes forms hns]

theorem eq_mirrorAll_of_toNodes (forms : List CriteriaForm) {ns : List Node}
    (h : toNodes forms = .ok ns) : ns = mirrorAll forms := by
  cases forms with
  | nil =>
    cases h
    rfl
  | cons form forms =>
    rw [toNodes] at h
    cases hn : toNode form with
    | error e =>
      rw [hn] at h
      cases h
    | ok n =>
      rw [hn] at h
      cases hns : toNodes forms with
      | error e =>
        rw [hns] at h
        cases h
      | ok ns =>
        rw [hns] at h
        cases h
        rw [mirrorAll, eq_mirror_of_toNode form hn, eq_mirrorAll_of_toNodes forms hns]

end

theorem eq_mirror_of_build (form : CriteriaForm) {n : Node} (h : form.build = .ok n) :
    n = form.mirror := by
  rw [build_eq_toNode] at h
  cases hn : form.toNode with
  | error e =>
    rw [hn] at h
    cases h
  | ok m =>
    rw [hn] at h
    cases h
    exact eq_mirror_of_toNode form hn

/-- A form becomes its mirror or its first flaw is reported. -/
theorem toNode_eq (form : CriteriaForm) : form.toNode =
    match form.malformed? with
    | some e => .error e
    | none => .ok form.mirror := by
  have hgives := build_malformed form
  rw [build_eq_toNode] at hgives
  cases hm : form.malformed? with
  | some e =>
    rw [hm] at hgives
    cases hn : form.toNode with
    | error e' =>
      rw [hn] at hgives
      cases hgives
      rfl
    | ok n =>
      rw [hn] at hgives
      cases hgives
  | none =>
    rw [hm] at hgives
    obtain ⟨n, hn, -⟩ := hgives
    cases hok : form.toNode with
    | error e' =>
      rw [hok] at hn
      cases hn
    | ok m => rw [eq_mirror_of_toNode form hok]

theorem malformed?_eq_none : form.malformed? = none ↔ ∀ g ∈ form.postorder, g.Kept := by
  rw [malformed?, List.findSome?_eq_none_iff]
  exact forall₂_congr fun g _ => fault?_eq_none

/-- **A form becomes its mirror exactly if every node of it is kept.** -/
theorem toNode_eq_ok : form.toNode = .ok n ↔ (∀ g ∈ form.postorder, g.Kept) ∧ n = form.mirror := by
  rw [toNode_eq, ← malformed?_eq_none]
  cases form.malformed? with
  | some e => simp
  | none => simp [eq_comm]

/-- **The first node that is not kept is reported**, as it is when it is built alone. -/
theorem toNode_eq_error (h : ¬∀ g ∈ form.postorder, g.Kept) : ∃ before g after e,
    form.postorder = before ++ g :: after ∧ (∀ k ∈ before, k.Kept) ∧ ¬g.Kept ∧
      e.kind = .malformedCriteria ∧ g.construct = .error (.script e) ∧ form.toNode = .error e := by
  obtain ⟨e, hfirst⟩ : ∃ e, form.malformed? = some e := by
    cases hm : form.malformed? with
    | some e => exact ⟨e, rfl⟩
    | none => exact absurd (malformed?_eq_none.1 hm) h
  obtain ⟨before, g, after, hsplit, he, hb⟩ := List.findSome?_eq_some_iff.1 hfirst
  have hkind : e.kind = .malformedCriteria := by
    obtain ⟨o, s, vs, forms⟩ := g
    obtain ⟨reason, -, rfl⟩ := Option.map_eq_some_iff.1 he
    rfl
  refine ⟨before, g, after, e, hsplit, fun k hk => fault?_eq_none.1 (hb k hk), ?_, hkind, ?_, ?_⟩
  · rw [← fault?_eq_none, he]
    exact Option.some_ne_none e
  · rw [construct_eq, he]
  · rw [toNode_eq, hfirst]

end Conversion

end CriteriaForm

/-! ## Trees and their JSON -/

namespace Node

/-- Trees of texts or nothing as subjects and of JSON operands, no texts among those of temporal
nodes. -/
inductive Plain : Node → Prop
  | criteria {o : Operator} (subject : Option String) (operands : List Json) {children : List Node}
      (ho : o.isTemporal = true → ∀ s, .text s ∉ operands) (hc : ∀ n ∈ children, Plain n) :
      Plain (.criteria o (CriteriaForm.subjectValue subject) (Json.toValues operands) children)

/-- The JSON value of a node by its fields. -/
def jsonOf (o : Operator) (subject : Json) (operands children : List Json) : Json :=
  .object [("type", .text o.name), ("subject", subject), ("sub_values", .array operands),
    ("sub_criteria", .array children)]

mutual

/-- The JSON value that shows a checked tree, node by node. -/
def json? : Node → Option Json
  | .criteria o subject operands children => do
    let s ← Json.ofValue? subject
    let vs ← Json.ofValues? operands
    let ns ← jsonAll? children
    return jsonOf o s vs ns
  | _ => none

/-- The JSON values that show a list of trees. -/
def jsonAll? : List Node → Option (List Json)
  | [] => some []
  | n :: ns => do
    let j ← n.json?
    let js ← jsonAll? ns
    return j :: js

end

end Node

mutual

theorem ofValue?_toValue (j : Json) : Json.ofValue? j.toValue = some j := by
  cases j with
  | null | bool | int | real | text => rfl
  | array items =>
    rw [Json.toValue, Json.ofValue?, ofValues?_toValues items]
    rfl
  | object fields =>
    rw [Json.toValue, Json.ofValue?, ofEntries?_toEntries fields]
    rfl

theorem ofValues?_toValues (js : List Json) : Json.ofValues? (Json.toValues js) = some js := by
  cases js with
  | nil => rfl
  | cons j js =>
    rw [Json.toValues, Json.ofValues?, ofValue?_toValue j, ofValues?_toValues js]
    rfl

theorem ofEntries?_toEntries (fields : List (String × Json)) :
    Json.ofEntries? (Json.toEntries fields) = some fields := by
  match fields with
  | [] => rfl
  | (name, j) :: fields =>
    rw [Json.toEntries, Json.ofEntries?, ofValue?_toValue j, ofEntries?_toEntries fields]
    rfl

end

section Shown

variable {o : Operator} {subject : Value} {operands : List Value} {ns : List Node}

theorem malformation?_of_shaped (h : Node.Shaped (.criteria o subject operands ns)) :
    Node.malformation? o subject operands ns = none := by
  cases h with
  | pair ho hl hr => exact Node.malformation?_pair ho hl.isCriteria hr.isCriteria
  | leaf ho hs hv => exact Node.malformation?_leaf ho hs hv

theorem shaped_children (h : Node.Shaped (.criteria o subject operands ns)) :
    ∀ n ∈ ns, n.Shaped := by
  cases h with
  | pair _ hl hr =>
    intro n hn
    rw [List.mem_cons, List.mem_singleton] at hn
    rcases hn with rfl | rfl
    · exact hl
    · exact hr
  | leaf =>
    intro n hn
    cases hn

/-- A tree that is read back from the JSON value that shows it. -/
def Node.ReadBack (origin : Origin) (n : Node) : Prop :=
  ∃ j form, n.json? = some j ∧ CriteriaForm.parse origin j = .accepted form ∧ form.toNode = .ok n

theorem readBack_all {origin : Origin} (h : ∀ n ∈ ns, n.ReadBack origin) :
    ∃ js forms, Node.jsonAll? ns = some js ∧
      List.Forall₂ (fun j form => CriteriaForm.parse origin j = .accepted form) js forms ∧
      CriteriaForm.toNodes forms = .ok ns := by
  induction ns with
  | nil => exact ⟨[], [], rfl, .nil, rfl⟩
  | cons n ns ih =>
    rw [List.forall_mem_cons] at h
    obtain ⟨⟨j, form, hj, hform, hn⟩, hns⟩ := h
    obtain ⟨js, forms, hjs, hforms, hall⟩ := ih hns
    refine ⟨j :: js, form :: forms, ?_, .cons hform hforms, ?_⟩
    · rw [Node.jsonAll?, hj, hjs]
      rfl
    · rw [CriteriaForm.toNodes, hn, hall]

/-- The fields of a node are read as they are shown. -/
theorem parse_jsonOf {origin : Origin} {subject : Option String} {us js : List Json}
    {forms : List CriteriaForm} (ho : o.isTemporal = true → ∀ s, .text s ∉ us)
    (hforms : List.Forall₂ (fun j form => CriteriaForm.parse origin j = .accepted form) js forms) :
    CriteriaForm.parse origin (Node.jsonOf o (subject.elim .null .text) us js) =
      .accepted (.node o subject (some (Json.toValues us)) forms) := by
  rw [Node.jsonOf, CriteriaForm.parse, CriteriaForm.ofFields_eq_accepted]
  refine ⟨o, subject, some (Json.toValues us), forms, rfl, ?_, ?_, ?_, ?_, ?_⟩
  · exact Reading.optional_eq_accepted.2 (.inr ⟨_, rfl, Reading.textOrNull_eq_accepted.2 rfl⟩)
  · exact Reading.optional_eq_accepted.2
      (.inr ⟨_, rfl, CriteriaForm.operandsOrNull_eq_accepted.2 (.inr ⟨us, rfl, rfl⟩)⟩)
  · exact CriteriaForm.parseChildren_eq_accepted.2 (.inr ⟨js, rfl, hforms⟩)
  · intro f hf
    simp only [List.mem_cons, List.not_mem_nil, or_false] at hf
    rcases hf with rfl | rfl | rfl | rfl <;> simp [CriteriaForm.fieldNames]
  · rw [CriteriaForm.withMoments]
    split_ifs with ht
    · -- operands that are no texts are read as they are
      have hread : CriteriaForm.readOperands (Json.toValues us) = .accepted (Json.toValues us) := by
        rw [CriteriaForm.readOperands_eq_accepted, List.forall₂_same, Json.toValues_eq_map,
          List.forall_mem_map]
        intro j hj
        refine CriteriaForm.readOperand_of_ne fun s he => ?_
        rw [Json.toValue_eq_text] at he
        exact ho ht s (he ▸ hj)
      rw [hread]
      rfl
    · rfl

/-- **A tree of texts and JSON operands is read back** from the JSON value that shows it. -/
theorem readBack_of_plain (origin : Origin) {n : Node} (hp : n.Plain) (hs : n.Shaped) :
    n.ReadBack origin := by
  induction hp with
  | @criteria o subject us children ho _ ih =>
    obtain ⟨js, forms, hjs, hforms, hns⟩ :=
      readBack_all fun n hn => ih n hn (shaped_children hs n hn)
    have hsubject : Json.ofValue? (CriteriaForm.subjectValue subject) =
        some (subject.elim .null .text) := by
      cases subject <;> rfl
    refine ⟨_, .node o subject (some (Json.toValues us)) forms, ?_, parse_jsonOf ho hforms, ?_⟩
    · rw [Node.json?, hsubject, ofValues?_toValues, hjs]
      rfl
    · rw [CriteriaForm.toNode, hns]
      exact Node.ofParts_eq_ok.2 ⟨malformation?_of_shaped hs, rfl⟩

end Shown

/-- **The conversion is exact**: a form becomes the tree of its own shape if every node of it is
kept, and of any other form the first node that is not is reported as it is alone; and a tree that
can be built, of texts and JSON operands, comes back from the JSON value that shows it. -/
theorem conversion_exact :
    (∀ form : CriteriaForm,
      (∀ n, form.toNode = .ok n ↔ (∀ g ∈ form.postorder, g.Kept) ∧ n = form.mirror) ∧
        ((∀ g ∈ form.postorder, g.Kept) ∨ ∃ before g after e,
          form.postorder = before ++ g :: after ∧ (∀ k ∈ before, k.Kept) ∧ ¬g.Kept ∧
            e.kind = .malformedCriteria ∧ g.construct = .error (.script e) ∧
            form.toNode = .error e)) ∧
      ∀ origin (n : Node), n.Built → n.Plain → n.ReadBack origin := by
  refine ⟨fun form => ⟨fun n => CriteriaForm.toNode_eq_ok, ?_⟩, fun origin n hb hp => ?_⟩
  · by_cases h : ∀ g ∈ form.postorder, g.Kept
    · exact .inl h
    · exact .inr (CriteriaForm.toNode_eq_error h)
  · exact readBack_of_plain origin hp (Node.built_iff_shaped.1 hb)

/-- A range with one bound, before a leaf without a subject. -/
def halfRange : CriteriaForm :=
  .node .and none none [.node .between (some "age") (some [.int 1]) [],
    .node .present none (some []) []]

/-- A list and a moment that is a number, under an operator with a subject of its own. -/
def mixedTree : Node :=
  .criteria .or (.text "any") [] [.criteria .isEqual (.text "tags") [.list [.null, .int 1]] [],
    .criteria .before (.text "born") [.int 0] []]

theorem halfRange_refused_mixedTree_readBack : mixedTree.Built ∧ mixedTree.Plain ∧
    (∃ e, e.kind = .malformedCriteria ∧ halfRange.toNode = .error e) ∧
      mixedTree.ReadBack .body := by
  have hbuilt : mixedTree.Built := Node.built_iff_shaped.2
    (.pair rfl (.leaf rfl rfl rfl) (.leaf rfl rfl rfl))
  have hplain : mixedTree.Plain := by
    refine .criteria (some "any") [] (fun ho => by cases ho) fun n hn => ?_
    rw [List.mem_cons, List.mem_singleton] at hn
    rcases hn with rfl | rfl
    · exact .criteria (some "tags") [.array [.null, .int 1]] (fun ho => by cases ho)
        fun n hn => by cases hn
    · exact .criteria (some "born") [.int 0] (by simp) fun n hn => by cases hn
  have hlack : ¬CriteriaForm.Kept (.node .present none (some []) []) := by
    rintro (⟨ho | ho⟩ | ⟨-, hs⟩)
    · cases ho
    · cases ho
    · cases hs
  obtain ⟨hform, hread⟩ := conversion_exact
  refine ⟨hbuilt, hplain, ?_, hread .body mixedTree hbuilt hplain⟩
  rcases (hform halfRange).2 with hkept | ⟨-, -, -, e, -, -, -, hkind, -, he⟩
  · exact absurd (hkept _ (by simp [halfRange, CriteriaForm.postorder,
      CriteriaForm.postorderAll])) hlack
  · exact ⟨e, hkind, he⟩

end TraversalScript
