import TraversalScript.Proofs.Bounds

/-!
# Which nodes are built

A node is built of four parts exactly if they keep the contract of its operator, and otherwise the
first breach of it is reported.

* `Value.Sequence`, `Children.Sequence`: the sequences that parts are taken for;
* `Node.Contract`, `Node.Breach`: what an operator asks of the parts, and the first thing amiss;
* `malformation?_eq_none`, `malformation?_eq_some`: the shape is checked for just that;
* `Node.Outcome`, **`build_outcome`**: what comes of any four parts.
-/

namespace TraversalScript

/-! ## Sequences -/

/-- The sequence that a value is taken for: none of what counts as false, else its items. -/
inductive Value.Sequence : Value → List Value → Prop
  | empty {v : Value} (h : v.truthy = false) : Sequence v []
  | items {v : Value} {vs : List Value} (h : v.truthy = true) (hi : v.items? = some vs) :
      Sequence v vs

/-- The sequence that children are taken for. -/
inductive Children.Sequence : Children → List Node → Prop
  | nodes (ns : List Node) : Sequence (.nodes ns) ns
  | value {v : Value} {vs : List Value} (h : v.Sequence vs) : Sequence (.value v) (vs.map .value)

theorem tuple?_eq_ok {v : Value} {vs : List Value} : v.tuple? = .ok vs ↔ v.Sequence vs := by
  unfold Value.tuple? Value.each
  constructor
  · intro h
    split_ifs at h with ht
    · split at h
      · next items hi =>
        cases h
        exact .items ht hi
      · cases h
    · cases h
      exact .empty (Bool.eq_false_iff.2 ht)
  · rintro (ht | ⟨ht, hi⟩)
    · rw [if_neg (by simp [ht])]
    · rw [if_pos ht, hi]

theorem tuple?_eq_error {v : Value} {m : Misuse} (h : v.tuple? = .error m) : m = .wrongType := by
  unfold Value.tuple? Value.each at h
  split_ifs at h
  split at h <;> cases h
  rfl

theorem toList_eq_ok {children : Children} {ns : List Node} :
    children.toList = .ok ns ↔ children.Sequence ns := by
  constructor
  · intro h
    cases children with
    | nodes ns =>
      cases h
      exact .nodes ns
    | value v =>
      cases hv : v.tuple? with
      | error m =>
        rw [Children.toList, hv] at h
        cases h
      | ok vs =>
        rw [Children.toList, hv] at h
        cases h
        exact .value (tuple?_eq_ok.1 hv)
  · rintro (ns | hv)
    · rfl
    · rw [Children.toList, tuple?_eq_ok.2 hv]
      rfl

theorem toList_eq_error {children : Children} {m : Misuse} (h : children.toList = .error m) :
    m = .wrongType := by
  cases children with
  | nodes ns => cases h
  | value v =>
    cases hv : v.tuple? with
    | error k =>
      rw [Children.toList, hv] at h
      cases h
      exact tuple?_eq_error hv
    | ok vs =>
      rw [Children.toList, hv] at h
      cases h

/-! ## The contract of an operator -/

namespace Node

/-- What an operator asks of the parts of its nodes: and and or two checked children and no
operands, any other a subject, no children and as many operands as it takes. -/
inductive Contract (o : Operator) (subject : Value) (vs : List Value) (ns : List Node) : Prop
  | combinator (ho : o = .and ∨ o = .or) (hn : ns.length = 2) (hv : vs = [])
      (hc : ∀ n ∈ ns, n.isCriteria = true)
  | leaf (ho : ¬(o = .and ∨ o = .or)) (hs : subject.truthy = true) (hn : ns = [])
      (hv : vs.length = o.valueCount)

/-- The first thing amiss with the parts of a node: of and and or the number of children, then
operands, then the first child that is not checked; of any other operator a lacking subject, then
children, then the number of operands. -/
inductive Breach (o : Operator) (subject : Value) (vs : List Value) (ns : List Node) :
    Malformation → Prop
  | childCount (ho : o = .and ∨ o = .or) (hn : ns.length ≠ 2) :
      Breach o subject vs ns (.childCount ns.length)
  | valuesGiven (ho : o = .and ∨ o = .or) (hn : ns.length = 2) (hv : vs ≠ []) :
      Breach o subject vs ns .valuesGiven
  | childType (ho : o = .and ∨ o = .or) (hn : ns.length = 2) (hv : vs = [])
      {before after : List Node} {n : Node} (hc : ns = before ++ n :: after)
      (hb : ∀ m ∈ before, m.isCriteria = true) (hu : n.isCriteria = false) :
      Breach o subject vs ns (.childType n.typeName)
  | noSubject (ho : ¬(o = .and ∨ o = .or)) (hs : subject.truthy = false) :
      Breach o subject vs ns .noSubject
  | childrenGiven (ho : ¬(o = .and ∨ o = .or)) (hs : subject.truthy = true) (hn : ns ≠ []) :
      Breach o subject vs ns .childrenGiven
  | valueCount (ho : ¬(o = .and ∨ o = .or)) (hs : subject.truthy = true) (hn : ns = [])
      (hv : vs.length ≠ o.valueCount) : Breach o subject vs ns (.valueCount vs.length)

section Shape

variable {o : Operator} {s : Value} {vs : List Value} {ns : List Node}

theorem isCombinator_iff : o.isCombinator = true ↔ o = .and ∨ o = .or := by
  cases o <;> simp [Operator.isCombinator]

theorem malformation?_eq_none : malformation? o s vs ns = none ↔ Contract o s vs ns := by
  unfold malformation?
  constructor
  · intro h
    split_ifs at h with ho
    · obtain ⟨rfl, left, right, rfl, hl, hr⟩ := combinatorFault?_eq_none.1 h
      refine .combinator (isCombinator_iff.1 ho) rfl rfl ?_
      intro n hn
      rw [List.mem_cons, List.mem_singleton] at hn
      rcases hn with rfl | rfl
      · exact hl
      · exact hr
    · obtain ⟨hs, hn, hv⟩ := leafFault?_eq_none.1 h
      exact .leaf (fun h => ho (isCombinator_iff.2 h)) hs hn hv
  · rintro (⟨ho, hn, hv, hc⟩ | ⟨ho, hs, hn, hv⟩)
    · obtain ⟨left, right, rfl⟩ := List.length_eq_two.1 hn
      rw [if_pos (isCombinator_iff.2 ho), combinatorFault?_eq_none]
      exact ⟨hv, left, right, rfl, hc _ (by simp), hc _ (by simp)⟩
    · rw [if_neg (fun h => ho (isCombinator_iff.1 h)), leafFault?_eq_none]
      exact ⟨hs, hn, hv⟩

theorem combinatorFault?_eq_some {reason : Malformation} (ho : o = .and ∨ o = .or) :
    combinatorFault? vs ns = some reason ↔ Breach o s vs ns reason := by
  have harity (hn : ns.length = 2) : ¬ns.length ≠ combinatorArity := fun h => h hn
  unfold combinatorFault?
  constructor
  · intro h
    split_ifs at h with hn hv
    · cases h
      exact .childCount ho hn
    · cases h
      exact .valuesGiven ho (not_not.1 hn) (by simpa using hv)
    · obtain ⟨n, hf, rfl⟩ := Option.map_eq_some_iff.1 h
      obtain ⟨hu, before, after, hc, hb⟩ := List.find?_eq_some_iff_append.1 hf
      refine .childType ho (not_not.1 hn) (by simpa using hv) hc ?_ (by simpa using hu)
      intro m hm
      simpa using hb m hm
  · intro h
    cases h with
    | childCount _ hn => exact if_pos hn
    | valuesGiven _ hn hv => rw [if_neg (harity hn), if_pos (by simpa using hv)]
    | @childType _ hn hv before after n hc hb hu =>
      have hf : ns.find? (fun m => !m.isCriteria) = some n := by
        refine List.find?_eq_some_iff_append.2 ⟨by simpa using hu, before, after, hc, ?_⟩
        intro m hm
        simpa using hb m hm
      rw [if_neg (harity hn), if_neg (by simp [hv]), hf]
      rfl
    | noSubject h | childrenGiven h | valueCount h => exact absurd ho h

theorem leafFault?_eq_some {reason : Malformation} (ho : ¬(o = .and ∨ o = .or)) :
    leafFault? o s vs ns = some reason ↔ Breach o s vs ns reason := by
  unfold leafFault?
  constructor
  · intro h
    split_ifs at h with hs hn hv
    · cases h
      exact .noSubject ho (by simpa using hs)
    · cases h
      exact .childrenGiven ho (by simpa using hs) (by simpa using hn)
    · cases h
      exact .valueCount ho (by simpa using hs) (by simpa using hn) hv
  · intro h
    cases h with
    | childCount h | valuesGiven h | childType h => exact absurd h ho
    | noSubject _ hs => simp [hs]
    | childrenGiven _ hs hn => simp [hs, hn]
    | valueCount _ hs hn hv => simp [hs, hn, hv]

/-- **The shape is checked for the first breach of the contract.** -/
theorem malformation?_eq_some {reason : Malformation} :
    malformation? o s vs ns = some reason ↔ Breach o s vs ns reason := by
  unfold malformation?
  by_cases ho : o = .and ∨ o = .or
  · rw [if_pos (isCombinator_iff.2 ho), combinatorFault?_eq_some ho]
  · rw [if_neg (fun h => ho (isCombinator_iff.1 h)), leafFault?_eq_some ho]

end Shape

/-! ## What comes of four parts -/

/-- What comes of four parts: the tag is looked at first, then the operands, then the children, and
then they keep the contract or there is a first breach of it. A tag that is no operator is refused
with its text, and is a bad value where it has none. -/
inductive Outcome (tag subject operands : Value) (children : Children) : Except Fault Node → Prop
  | unsupported (ht : ∀ o, tag ≠ .member (.operator o)) (hs : tag.isShowable = true) :
      Outcome tag subject operands children (.error (.script (.unsupportedOperator tag)))
  | unshown (ht : ∀ o, tag ≠ .member (.operator o)) (hs : tag.isShowable = false) :
      Outcome tag subject operands children (.error (.misuse .badValue))
  | operands {o : Operator} (ht : tag = .member (.operator o)) (hv : ∀ vs, ¬operands.Sequence vs) :
      Outcome tag subject operands children (.error (.misuse .wrongType))
  | children {o : Operator} {vs : List Value} (ht : tag = .member (.operator o))
      (hv : operands.Sequence vs) (hn : ∀ ns, ¬children.Sequence ns) :
      Outcome tag subject operands children (.error (.misuse .wrongType))
  | malformed {o : Operator} {vs : List Value} {ns : List Node} {reason : Malformation}
      (ht : tag = .member (.operator o)) (hv : operands.Sequence vs) (hn : children.Sequence ns)
      (hb : Breach o subject vs ns reason) :
      Outcome tag subject operands children (.error (.script (.malformed o subject reason)))
  | built {o : Operator} {vs : List Value} {ns : List Node} (ht : tag = .member (.operator o))
      (hv : operands.Sequence vs) (hn : children.Sequence ns) (hc : Contract o subject vs ns) :
      Outcome tag subject operands children (.ok (.criteria o subject vs ns))

section Build

variable {tag subject operands : Value} {children : Children} {x : Except Fault Node}

theorem build_of_ne (ht : ∀ o, tag ≠ .member (.operator o)) :
    build tag subject operands children = .error (.ofTag tag) := by
  unfold build
  split
  · next o => exact absurd rfl (ht o)
  · rfl

theorem build_of_outcome (h : Outcome tag subject operands children x) :
    build tag subject operands children = x := by
  have herror {v : Value} (hv : ∀ vs, ¬v.Sequence vs) : v.tuple? = .error .wrongType := by
    cases ht : v.tuple? with
    | ok vs => exact absurd (tuple?_eq_ok.1 ht) (hv vs)
    | error m => rw [tuple?_eq_error ht]
  cases h with
  | unsupported ht hs => rw [build_of_ne ht, Fault.ofTag, if_pos hs]
  | unshown ht hs => rw [build_of_ne ht, Fault.ofTag, if_neg (by simp [hs])]
  | operands ht hv =>
    subst ht
    simp only [build, herror hv]
  | children ht hv hn =>
    subst ht
    have hl : children.toList = .error .wrongType := by
      cases hl : children.toList with
      | ok ns => exact absurd (toList_eq_ok.1 hl) (hn ns)
      | error m => rw [toList_eq_error hl]
    simp only [build, tuple?_eq_ok.2 hv, hl]
  | malformed ht hv hn hb =>
    subst ht
    simp only [build, tuple?_eq_ok.2 hv, toList_eq_ok.2 hn, ofParts, malformation?_eq_some.2 hb]
    rfl
  | built ht hv hn hc =>
    subst ht
    simp only [build, tuple?_eq_ok.2 hv, toList_eq_ok.2 hn, ofParts, malformation?_eq_none.2 hc]
    rfl

/-- Something comes of any four parts. -/
theorem exists_outcome (tag subject operands : Value) (children : Children) :
    ∃ x, Outcome tag subject operands children x := by
  by_cases ht : ∃ o, tag = .member (.operator o)
  · obtain ⟨o, ht⟩ := ht
    by_cases hv : ∃ vs, operands.Sequence vs
    · obtain ⟨vs, hv⟩ := hv
      by_cases hn : ∃ ns, children.Sequence ns
      · obtain ⟨ns, hn⟩ := hn
        cases hm : malformation? o subject vs ns with
        | some reason => exact ⟨_, .malformed ht hv hn (malformation?_eq_some.1 hm)⟩
        | none => exact ⟨_, .built ht hv hn (malformation?_eq_none.1 hm)⟩
      · exact ⟨_, .children ht hv (not_exists.1 hn)⟩
    · exact ⟨_, .operands ht (not_exists.1 hv)⟩
  · cases hs : tag.isShowable with
    | true => exact ⟨_, .unsupported (not_exists.1 ht) hs⟩
    | false => exact ⟨_, .unshown (not_exists.1 ht) hs⟩

theorem build_eq_iff : build tag subject operands children = x ↔
    Outcome tag subject operands children x := by
  constructor
  · rintro rfl
    obtain ⟨x, h⟩ := exists_outcome tag subject operands children
    rwa [build_of_outcome h]
  · exact build_of_outcome

end Build

/-- **What comes of any four parts**: a node of the parts as they were given, which can be built of
its own parts again; or a refusal of the tag, or of parts that are no sequences, or of the first
breach of the contract, which names the operator and the subject. -/
theorem build_outcome (tag subject operands : Value) (children : Children) :
    (∀ x, build tag subject operands children = x ↔ Outcome tag subject operands children x) ∧
      (∀ e, build tag subject operands children = .error (.script e) →
        ((∀ o, tag ≠ .member (.operator o)) ∧ e.kind = .unsupportedOperator) ∨
          ∃ o, tag = .member (.operator o) ∧ e.kind = .malformedCriteria ∧
            e.detail = [("type", .text o.name), ("subject", subject)]) ∧
      ∀ n, build tag subject operands children = .ok n →
        ∃ o vs ns, n = .criteria o subject vs ns ∧
          build (.member (.operator o)) subject (.tuple vs) (.nodes ns) = .ok n := by
  refine ⟨fun x => build_eq_iff, fun e h => ?_, fun n h => ?_⟩
  · cases build_eq_iff.1 h with
    | unsupported ht _ => exact .inl ⟨ht, rfl⟩
    | malformed ht => exact .inr ⟨_, ht, rfl, rfl⟩
  · cases build_eq_iff.1 h with
    | @built o vs ns _ _ _ hc =>
      have hvs : (Value.tuple vs).Sequence vs := tuple?_eq_ok.1 (tuple?_tuple vs)
      exact ⟨o, vs, ns, rfl, build_of_outcome (.built rfl hvs (.nodes ns) hc)⟩

/-- A text stands for its characters, a set for what it holds, and a number that counts as false for
no children; bytes that are empty are no operands. -/
theorem build_between_characters :
    build (.member (.operator .between)) (.text "age") (.text "ab") (.value (.int 0)) =
        .ok (.criteria .between (.text "age") [.text "a", .text "b"] []) ∧
      build (.member (.operator .between)) (.text "age") (.tuple [.text "a", .text "b"])
          (.nodes []) = .ok (.criteria .between (.text "age") [.text "a", .text "b"] []) ∧
      build (.member (.operator .between)) (.text "age")
          (.foreign (.set true [.int 3, .int 1])) (.value (.int 0)) =
        .ok (.criteria .between (.text "age") [.int 3, .int 1] []) ∧
      build (.member (.operator .between)) (.text "age") (.tuple [.int 3, .int 1]) (.nodes []) =
        .ok (.criteria .between (.text "age") [.int 3, .int 1] []) ∧
      (∃ e, build (.member (.operator .and)) (.text "age") (.text "ab") (.value (.int 0)) =
          .error (.script e) ∧ e.kind = .malformedCriteria ∧
        e.detail = [("type", .text "AND"), ("subject", .text "age")]) ∧
      ∃ e, build (.member (.operator .between)) (.text "age") (.foreign (.codes true []))
          (.value (.int 0)) = .error (.script e) ∧ e.kind = .malformedCriteria ∧
        e.detail = [("type", .text "BETWEEN"), ("subject", .text "age")] := by
  have rebuilt {tag subject operands : Value} {children : Children} {n : Node}
      (h : build tag subject operands children = .ok n) :=
    (build_outcome tag subject operands children).2.2 n h
  have refused {o : Operator} {subject operands : Value} {children : Children} {e : ScriptError}
      (h : build (.member (.operator o)) subject operands children = .error (.script e)) :
      e.kind = .malformedCriteria ∧ e.detail = [("type", .text o.name), ("subject", subject)] := by
    rcases (build_outcome _ _ _ _).2.1 e h with ⟨ht, -⟩ | ⟨p, hp, hkind, hdetail⟩
    · exact absurd rfl (ht o)
    · cases hp
      exact ⟨hkind, hdetail⟩
  have htext : build (.member (.operator .between)) (.text "age") (.text "ab") (.value (.int 0)) =
      .ok (.criteria .between (.text "age") [.text "a", .text "b"] []) := rfl
  have hset : build (.member (.operator .between)) (.text "age")
      (.foreign (.set true [.int 3, .int 1])) (.value (.int 0)) =
        .ok (.criteria .between (.text "age") [.int 3, .int 1] []) := rfl
  have hand : build (.member (.operator .and)) (.text "age") (.text "ab") (.value (.int 0)) =
      .error (.script (.malformed .and (.text "age") (.childCount 0))) := rfl
  have hnone : ∃ e, build (.member (.operator .between)) (.text "age") (.foreign (.codes true []))
      (.value (.int 0)) = .error (.script e) := ⟨_, rfl⟩
  obtain ⟨o, vs, ns, hn, hb⟩ := rebuilt htext
  cases hn
  obtain ⟨o, vs, ns, hn, hc⟩ := rebuilt hset
  cases hn
  obtain ⟨e, he⟩ := hnone
  exact ⟨htext, hb, hset, hc, ⟨_, hand, refused hand⟩, e, he, refused he⟩

/-- **A tag that is an integer of too many digits is not refused**: its text cannot be written. -/
theorem build_overlong_tag :
    (∀ o, Value.int overlong ≠ .member (.operator o)) ∧
      ∀ subject operands children e,
        build (.int overlong) subject operands children ≠ .error (.script e) := by
  have ht : ∀ o, Value.int overlong ≠ .member (.operator o) := nofun
  refine ⟨ht, fun subject operands children e h => ?_⟩
  rw [build_of_outcome (.unshown ht isWritable_overlong)] at h
  cases h

end Node

end TraversalScript
