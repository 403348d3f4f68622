import TraversalScript.Proofs.Conversion
import TraversalScript.Proofs.Grammar

/-!
# Bounds of time

The operands of temporal nodes, from the fields that they are sent in to the script.

* `boundsSpelling`, **`leafSpelling_eq_ok`**: a temporal leaf is written with the milliseconds of
  its operands, and with nothing else of them;
* `boundsSpelling_injective`: the milliseconds can be told from the script;
* `Alike`, **`build_alike`**: operands that stand for the same time come to the same;
* `NodeFields`, **`CriteriaForm.parse_eq_accepted`**: the fields of a temporal node, and what is
  read of them.
-/

namespace TraversalScript

/-! ## Temporal leaves -/

theorem Operator.isCombinator_of_isTemporal {o : Operator} (ho : o.isTemporal = true) :
    o.isCombinator = false := by
  cases o <;> first | rfl | cases ho

theorem spelling_temporal {o : Operator} (ho : o.isTemporal = true) (r : Renaming) (subject : Value)
    (vs : List Value) (ns : List Node) :
    spelling r (.criteria o subject vs ns) = leafSpelling r o subject (Value.itemOf vs) := by
  have hj : o.joiner? = none := by
    rw [← Option.isNone_iff_eq_none, ← Option.isSome_eq_false_iff, o.isSome_joiner?]
    exact Operator.isCombinator_of_isTemporal ho
  simp only [spelling, hj]

theorem tuple?_tuple (vs : List Value) : (Value.tuple vs).tuple? = .ok vs := by cases vs <;> rfl

/-- A leaf with a subject and as many operands as its operator takes is built. -/
theorem leaf_eq_ok {o : Operator} (ho : o.isTemporal = true) {subject : Value}
    (hs : subject.truthy = true) {vs : List Value} (hl : vs.length = o.valueCount) :
    Node.leaf (.member (.operator o)) subject vs = .ok (.criteria o subject vs []) :=
  Node.build_eq_ok.2 ⟨o, vs, [], rfl, tuple?_tuple vs, rfl, Node.ofParts_eq_ok.2
    ⟨Node.malformation?_leaf (Operator.isCombinator_of_isTemporal ho) hs hl, rfl⟩⟩

/-- A named subject is written as a literal, and the field of ids under the name of their
property. -/
theorem subjectText_text (idField idProperty name : String) :
    subjectText ⟨.text idField, .text idProperty⟩ (.text name) =
      .ok (Quoted.literal (if name = idField then idProperty else name)) := by
  refine subjectText_eq_ok.2 ⟨_, ?_, rfl⟩
  by_cases hi : name = idField <;> simp [Renaming.apply, Value.same, hi, Value.text?]

/-! ## The test of a leaf -/

/-- The test of a temporal operator on bounds in milliseconds. -/
def boundsSpelling : Operator → List Int → String
  | .before, [m] => "lt(" ++ shownInt m ++ ")"
  | .after, [m] => "gt(" ++ shownInt m ++ ")"
  | .between, [low, high] => "between(" ++ shownInt low ++ ", " ++ shownInt high ++ ")"
  | _, _ => ""

section Leaf

variable {r : Renaming} {o : Operator} {subject : Value} {vs : List Value} {t : String}

/-- **A temporal leaf is written with the milliseconds of its operands**, in their order, if all of
them can be written. -/
theorem leafSpelling_eq_ok (ho : o.isTemporal = true) (hl : vs.length = o.valueCount) :
    leafSpelling r o subject (Value.itemOf vs) = .ok t ↔
      ∃ counts p, vs.map milliseconds? = counts.map some ∧ (∀ n ∈ counts, isWritable n = true) ∧
        subjectText r subject = .ok p ∧ t = valuesSpelling p (boundsSpelling o counts) := by
  cases o with
  | isEqual | and | or | present => cases ho
  | before | after =>
    obtain ⟨v, rfl⟩ := List.length_eq_one_iff.1 hl
    simp only [leafSpelling, bind_eq_ok, operandAs_eq_ok, toMilliseconds_eq_ok, countText_eq_ok]
    constructor
    · rintro ⟨n, ⟨w, ⟨⟩, hn⟩, _, ⟨hw, rfl⟩, p, hp, ⟨⟩⟩
      exact ⟨[n], p, by simp [hn], by simp [hw], hp, rfl⟩
    · rintro ⟨counts, p, hc, hw, hp, rfl⟩
      obtain ⟨n, rfl⟩ : ∃ n, counts = [n] := List.length_eq_one_iff.1 (by simpa using
        (congrArg List.length hc).symm)
      exact ⟨n, ⟨v, rfl, by simpa using hc⟩, _, ⟨hw n List.mem_cons_self, rfl⟩, p, hp, rfl⟩
  | between =>
    obtain ⟨v, w, rfl⟩ := List.length_eq_two.1 hl
    simp only [leafSpelling, bind_eq_ok, operandAs_eq_ok, toLong_eq_ok, countText_eq_ok]
    constructor
    · rintro ⟨m, ⟨_, ⟨⟩, hm⟩, n, ⟨_, ⟨⟩, hn⟩, _, ⟨hv, rfl⟩, _, ⟨hw, rfl⟩, p, hp, ⟨⟩⟩
      exact ⟨[m, n], p, by simp [hm, hn], by simp [hv, hw], hp, rfl⟩
    · rintro ⟨counts, p, hc, hw, hp, rfl⟩
      obtain ⟨m, n, rfl⟩ : ∃ m n, counts = [m, n] := List.length_eq_two.1 (by simpa using
        (congrArg List.length hc).symm)
      simp only [List.map_cons, List.map_nil, List.cons.injEq] at hc
      simp only [List.forall_mem_cons] at hw
      exact ⟨m, ⟨v, rfl, hc.1⟩, n, ⟨w, rfl, hc.2.1⟩, _, ⟨hw.1, rfl⟩, _, ⟨hw.2.1, rfl⟩, p, hp, rfl⟩

end Leaf

/-- The bounds can be told from the test. -/
theorem boundsSpelling_injective {o : Operator} (ho : o.isTemporal = true) {ms ns : List Int}
    (hm : ms.length = o.valueCount) (hn : ns.length = o.valueCount)
    (h : boundsSpelling o ms = boundsSpelling o ns) : ms = ns := by
  rw [← String.toList_inj] at h
  cases o with
  | isEqual | and | or | present => cases ho
  | before | after =>
    obtain ⟨m, rfl⟩ := List.length_eq_one_iff.1 hm
    obtain ⟨n, rfl⟩ := List.length_eq_one_iff.1 hn
    simp only [boundsSpelling, shownInt, String.toList_append, String.toList_ofList,
      List.append_assoc, List.append_cancel_left_eq] at h
    rw [(@intText_append_cons m n ')' rfl _ _ h).1]
  | between =>
    obtain ⟨a, b, rfl⟩ := List.length_eq_two.1 hm
    obtain ⟨c, d, rfl⟩ := List.length_eq_two.1 hn
    simp only [boundsSpelling, shownInt, String.toList_append, String.toList_ofList,
      List.append_assoc, List.append_cancel_left_eq] at h
    obtain ⟨rfl, hrest⟩ := @intText_append_cons a c ',' rfl _ _ h
    rw [(@intText_append_cons b d ')' rfl _ _ (List.cons.inj hrest).2).1]

theorem valuesSpelling_injective {subject s t : String}
    (h : valuesSpelling subject s = valuesSpelling subject t) : s = t := by
  rw [← String.toList_inj] at h ⊢
  simpa [valuesSpelling] using h

/-! ## Operands for the same time -/

/-- Whether a temporal operator takes two operands for the same: they are, or they stand for the
same milliseconds. -/
def Alike (v w : Value) : Prop := v = w ∨ ∃ n, milliseconds? v = some n ∧ milliseconds? w = some n

/-- Operands that are taken for the same are read alike. -/
theorem Alike.reads {v w : Value} (h : Alike v w) :
    toMilliseconds v = toMilliseconds w ∧ toLong v = toLong w := by
  rcases h with rfl | ⟨n, hv, hw⟩
  · exact ⟨rfl, rfl⟩
  · rw [toMilliseconds_eq_ok.2 hv, toMilliseconds_eq_ok.2 hw, toLong_eq_ok.2 hv,
      toLong_eq_ok.2 hw]
    exact ⟨rfl, rfl⟩

section Alike

variable {o : Operator} {vs ws : List Value}

/-- Operands that are read alike, one by one, are read alike at each place. -/
theorem operandAs_congr {α : Type} {R : Value → Value → Prop} {read : Value → Except ScriptError α}
    (hr : ∀ v w, R v w → read v = read w) (h : List.Forall₂ R vs ws) (i : Nat) :
    operandAs (Value.itemOf vs) read i = operandAs (Value.itemOf ws) read i := by
  induction h generalizing i with
  | nil => rfl
  | @cons v w vs ws hv _ ih =>
    cases i with
    | zero =>
      change (read v).mapError Fault.script = (read w).mapError Fault.script
      rw [hr v w hv]
    | succ i => exact ih i

theorem leafSpelling_alike (ho : o.isTemporal = true) (h : List.Forall₂ Alike vs ws) (r : Renaming)
    (subject : Value) : leafSpelling r o subject (Value.itemOf vs) =
      leafSpelling r o subject (Value.itemOf ws) := by
  have ht := operandAs_congr (fun _ _ h => h.reads.1) h
  have hl := operandAs_congr (fun _ _ h => h.reads.2) h
  cases o with
  | isEqual | and | or | present => cases ho
  | before | after => simp only [leafSpelling, ht]
  | between => simp only [leafSpelling, hl]

/-- **Operands that stand for the same time come to the same**, also where a node is refused. -/
theorem build_alike {α : Type} (ho : o.isTemporal = true) (h : List.Forall₂ Alike vs ws)
    {a b : Value} (ha : a.tuple? = .ok vs) (hb : b.tuple? = .ok ws) (subject : Value)
    (children : Children) {f : Node → Except Fault α}
    (hf : ∀ n m, (∀ r, spelling r n = spelling r m) → f n = f m) :
    Node.build (.member (.operator o)) subject a children >>= f =
      Node.build (.member (.operator o)) subject b children >>= f := by
  have hc := Operator.isCombinator_of_isTemporal ho
  simp only [Node.build, ha, hb]
  cases children.toList with
  | error m => rfl
  | ok ns =>
    -- the shape of a node depends on how many operands there are, and not on what they are
    have hm : Node.malformation? o subject vs ns = Node.malformation? o subject ws ns := by
      simp only [Node.malformation?, hc, Bool.false_eq_true, if_false, Node.leafFault?, h.length_eq]
    simp only [Node.ofParts, hm]
    cases Node.malformation? o subject ws ns with
    | some reason => rfl
    | none =>
      refine hf _ _ fun r => ?_
      rw [spelling_temporal ho, spelling_temporal ho]
      exact leafSpelling_alike ho h r subject

end Alike

/-! ## Fields -/

/-- The fields of a node, by what they stand for. -/
structure NodeFields (fields : List (String × Json)) (o : Operator) (subject : Option String)
    (operands children : List Json) : Prop where
  known : ∀ f ∈ fields, f.1 ∈ ["type", "subject", "sub_values", "sub_criteria"]
  type : fields.lookup "type" = some (.text o.name)
  subject : (fields.lookup "subject").getD .null = subject.elim .null .text
  operands : fields.lookup "sub_values" = some (.array operands)
  children : (fields.lookup "sub_criteria").getD (.array []) = .array children

namespace CriteriaForm

variable {fields : List (String × Json)} {o : Operator} {subject : Option String}
  {operands children : List Json} {origin : Origin} {form : CriteriaForm}

/-- **What is read of a temporal node**: its operands, each read as a moment if it is a text, and
its children. -/
theorem parse_eq_accepted (h : NodeFields fields o subject operands children)
    (ho : o.isTemporal = true) : parse origin (.object fields) = .accepted form ↔
      ∃ vs forms, List.Forall₂ (fun j v => readOperand j.toValue = .accepted v) operands vs ∧
        List.Forall₂ (fun j form => parse origin j = .accepted form) children forms ∧
        form = node o subject (some vs) forms := by
  have hs : Reading.optional fields "subject" none Reading.textOrNull = .accepted subject := by
    have := h.subject
    rw [Reading.optional_eq_accepted]
    cases hl : fields.lookup "subject" with
    | none =>
      rw [hl] at this
      cases subject <;> simp at this ⊢
    | some j =>
      rw [hl] at this
      exact .inr ⟨j, rfl, Reading.textOrNull_eq_accepted.2 this⟩
  have hv : Reading.optional fields "sub_values" none operandsOrNull =
      .accepted (some (Json.toValues operands)) :=
    Reading.optional_eq_accepted.2
      (.inr ⟨_, h.operands, operandsOrNull_eq_accepted.2 (.inr ⟨operands, rfl, rfl⟩)⟩)
  have hc (forms : List CriteriaForm) : parseChildren origin fields = .accepted forms ↔
      List.Forall₂ (fun j form => parse origin j = .accepted form) children forms := by
    have := h.children
    rw [parseChildren_eq_accepted]
    cases hl : fields.lookup "sub_criteria" with
    | none =>
      rw [hl] at this
      cases this
      simp
    | some j =>
      rw [hl] at this
      cases this
      simp
  have hvs (vs : List Value) : readOperands (Json.toValues operands) = .accepted vs ↔
      List.Forall₂ (fun j v => readOperand j.toValue = .accepted v) operands vs := by
    rw [readOperands_eq_accepted, Json.toValues_eq_map, List.forall₂_map_left_iff]
  rw [parse, ofFields_eq_accepted]
  constructor
  · rintro ⟨p, s, us, forms, hl, hs', hv', hforms, -, hw⟩
    obtain rfl : o = p := Operator.name_injective (Json.text.inj (Option.some.inj
      (h.type.symm.trans hl)))
    cases hs.symm.trans hs'
    cases hv.symm.trans hv'
    rw [withMoments, if_pos ho] at hw
    obtain ⟨vs, hread, rfl⟩ := Reading.map_eq_accepted.1 hw
    exact ⟨vs, forms, (hvs vs).1 hread, (hc forms).1 hforms, rfl⟩
  · rintro ⟨vs, forms, hread, hforms, rfl⟩
    refine ⟨o, subject, _, forms, h.type, hs, hv, (hc forms).2 hforms, h.known, ?_⟩
    rw [withMoments, if_pos ho]
    exact Reading.map_eq_accepted.2 ⟨vs, (hvs vs).2 hread, rfl⟩

end CriteriaForm

end TraversalScript
