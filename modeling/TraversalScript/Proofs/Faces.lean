import TraversalScript.Proofs.Decoding

/-!
# What a node is written as

A node is written as a step that joins two trees, or as a leaf, or it is refused; checked and loose
nodes are alike in that.

* `Joint`, `Face`: the two ways of joining, and what a node is written as;
* `Node.face`, `Node.face_induction`: the face of a node, and induction along the two trees that a
  node joins;
* `spelling_face`, `query?_face`: the predicate of a tree, and what it asks for, by faces;
* `Query.text`, `Query.text_injective`: a predicate can be told from its text;
* **`spelling_eq_ok`**: a tree is written out exactly if it asks for something, and as that.
-/

namespace TraversalScript

/-! ## Faces -/

/-- How two predicates are joined. -/
inductive Joint where
  | both
  | either

namespace Joint

/-- The opening of the step that joins two predicates. -/
def opening : Joint → String
  | both => "and("
  | either => "or("

/-- What two predicates say when they are joined. -/
def combine : Joint → Query → Query → Query
  | both => .both
  | either => .either

end Joint

/-- How an operator joins two predicates. -/
def Operator.joint? : Operator → Option Joint
  | .and => some .both
  | .or => some .either
  | _ => none

namespace Operator

variable (o : Operator)

theorem joiner?_eq : o.joiner? = o.joint?.map Joint.opening := by cases o <;> rfl

theorem combine?_eq : o.combine? = o.joint?.map Joint.combine := by cases o <;> rfl

theorem isCombinator_eq : o.isCombinator = o.joint?.isSome := by cases o <;> rfl

end Operator

/-- What a node is written as. -/
inductive Face where
  /-- A step that joins two trees. -/
  | pair (j : Joint) (left right : Node)
  /-- A test on one subject. -/
  | leaf (o : Operator) (subject : Value) (operand : Nat → Except Misuse Value)
  /-- Nothing. -/
  | refused (f : Fault)

namespace Node

/-- The face of a node that joins the first two trees of a list. -/
def pairFace (j : Joint) : List Node → Misuse → Face
  | left :: right :: _, _ => .pair j left right
  | _, lack => .refused (.misuse lack)

/-- What a node is written as. -/
def face : Node → Face
  | criteria o s vs ns =>
    match o.joint? with
    | some j => pairFace j ns .outOfRange
    | none => .leaf o s (Value.itemOf vs)
  | loose (.member (.operator o)) s v h ns =>
    match o.joint? with
    | some j => pairFace j ns h.lack
    | none => .leaf o s v.item
  | loose tag .. => .refused (.ofTag tag)
  | value _ => .refused (.misuse .noAttribute)

theorem face_loose {tag : Value} (ht : ∀ o, tag ≠ .member (.operator o)) (s v : Value)
    (h : Holder) (ns : List Node) :
    (loose tag s v h ns).face = .refused (.ofTag tag) := by
  rw [face]
  exact ht

variable {n left right : Node} {i j : Joint}

theorem count_lt_of_pairFace {ns : List Node} {lack : Misuse}
    (h : pairFace i ns lack = .pair j left right) :
    left.count < countAll ns + 1 ∧ right.count < countAll ns + 1 := by
  match ns, h with
  | _ :: _ :: more, h =>
    cases h
    simp only [countAll]
    omega

/-- The trees that a node joins are smaller than it. -/
theorem count_lt_of_face (h : n.face = .pair j left right) :
    left.count < n.count ∧ right.count < n.count := by
  cases n with
  | criteria o s vs ns =>
    rw [face] at h
    cases ho : o.joint? with
    | some i =>
      rw [ho] at h
      exact count_lt_of_pairFace h
    | none =>
      rw [ho] at h
      cases h
  | loose tag s v holder ns =>
    by_cases ht : ∃ o, tag = .member (.operator o)
    · obtain ⟨o, rfl⟩ := ht
      rw [face] at h
      cases ho : o.joint? with
      | some i =>
        rw [ho] at h
        exact count_lt_of_pairFace h
      | none =>
        rw [ho] at h
        cases h
    · rw [face_loose (not_exists.1 ht)] at h
      cases h
  | value v => cases h

/-- **Induction along the trees that a node joins.** -/
theorem face_induction {P : Node → Prop}
    (pair : ∀ n j left right, n.face = .pair j left right → P left → P right → P n)
    (leaf : ∀ n o s operand, n.face = .leaf o s operand → P n)
    (refused : ∀ n f, n.face = .refused f → P n) (n : Node) : P n := by
  induction hk : n.count using Nat.strongRecOn generalizing n with
  | ind k ih =>
    cases h : n.face with
    | pair j left right =>
      obtain ⟨hl, hr⟩ := count_lt_of_face h
      exact pair n j left right h (ih _ (hk ▸ hl) left rfl) (ih _ (hk ▸ hr) right rfl)
    | leaf o s operand => exact leaf n o s operand h
    | refused f => exact refused n f h

end Node

/-! ## Predicates by faces -/

section Faces

variable (r : Renaming)

theorem pairSpelling_face (j : Joint) (ns : List Node) (lack : Misuse) :
    pairSpelling r j.opening ns lack = match Node.pairFace j ns lack with
      | .pair j left right => do
        let a ← spelling r left
        let b ← spelling r right
        return j.opening ++ a ++ ", " ++ b ++ ")"
      | .leaf o s operand => leafSpelling r o s operand
      | .refused f => .error f := by
  rcases ns with _ | ⟨left, _ | ⟨right, more⟩⟩
  · rfl
  · rfl
  · simp only [pairSpelling, Node.pairFace]
    cases spelling r left with
    | error f => rfl
    | ok a => cases spelling r right <;> rfl

/-- **The predicate of a tree** is that of its face. -/
theorem spelling_face (n : Node) : spelling r n = match n.face with
    | .pair j left right => do
      let a ← spelling r left
      let b ← spelling r right
      return j.opening ++ a ++ ", " ++ b ++ ")"
    | .leaf o s operand => leafSpelling r o s operand
    | .refused f => .error f := by
  cases n with
  | criteria o s vs ns =>
    rw [spelling, Node.face, o.joiner?_eq]
    cases o.joint? with
    | some j => exact pairSpelling_face r j ns _
    | none => rfl
  | loose tag s v h ns =>
    by_cases ht : ∃ o, tag = .member (.operator o)
    · obtain ⟨o, rfl⟩ := ht
      rw [spelling, Node.face, o.joiner?_eq]
      cases o.joint? with
      | some j => exact pairSpelling_face r j ns _
      | none => rfl
    · rw [spelling, Node.face_loose (not_exists.1 ht)]
      exact not_exists.1 ht
  | value v => rw [spelling]; rfl

theorem pairQuery?_face (j : Joint) (ns : List Node) (lack : Misuse) :
    Node.pairQuery? r j.combine ns = match Node.pairFace j ns lack with
      | .pair j left right => do return j.combine (← left.query? r) (← right.query? r)
      | .leaf o s operand => leafQuery? r o s operand
      | .refused _ => none := by
  rcases ns with _ | ⟨left, _ | ⟨right, more⟩⟩ <;> rfl

/-- **What a tree asks for** is what its face does. -/
theorem query?_face (n : Node) : n.query? r = match n.face with
    | .pair j left right => do return j.combine (← left.query? r) (← right.query? r)
    | .leaf o s operand => leafQuery? r o s operand
    | .refused _ => none := by
  cases n with
  | criteria o s vs ns =>
    rw [Node.query?, Node.face, o.combine?_eq]
    cases o.joint? with
    | some j => exact pairQuery?_face r j ns _
    | none => rfl
  | loose tag s v h ns =>
    by_cases ht : ∃ o, tag = .member (.operator o)
    · obtain ⟨o, rfl⟩ := ht
      rw [Node.query?, Node.face, o.combine?_eq]
      cases o.joint? with
      | some j => exact pairQuery?_face r j ns _
      | none => rfl
    · rw [Node.query?, Node.face_loose (not_exists.1 ht)]
      · rintro _ _ _ _ ⟨⟩
      · rintro o s v h ns ⟨⟩
        exact ht ⟨o, rfl⟩
  | value v => rfl

end Faces

/-! ## What is written -/

namespace Query

/-- The text of a predicate. -/
def text (q : Query) : String := String.ofList q.chars

/-- A predicate can be told from its text. -/
theorem text_injective {p q : Query} (hp : p.Legible) (hq : q.Legible) (h : p.text = q.text) :
    p = q := by
  have hchars : p.chars = q.chars := String.ofList_inj.1 h
  have hread {u : Query} (hu : u.Legible) (hd : u.depth ≤ max p.depth q.depth) :
      readQuery (max p.depth q.depth + 1) (u.chars ++ []) = some (u, []) := readQuery_chars hu hd []
  have := hread hp (Nat.le_max_left ..)
  rw [hchars, hread hq (Nat.le_max_right ..)] at this
  cases this
  rfl

end Query

section Written

variable {r : Renaming}

theorem exists_ofValue {v : Value} {o : Operand} (h : Operand.ofValue? v = some o) :
    ∃ l, Literal.ofValue v = .ok l := by
  unfold Operand.ofValue? at h
  split at h
  · exact ⟨_, rfl⟩
  · exact ⟨_, rfl⟩
  · obtain ⟨t, ht, -⟩ := Option.map_eq_some_iff.1 h
    obtain ⟨l, hl, -⟩ := toLiteral_eq_ok.1 (toOption_eq_some.1 ht)
    exact ⟨l, hl⟩

/-- A leaf that asks for something is written out. -/
theorem exists_leafSpelling {o : Operator} {subject : Value} {operand : Nat → Except Misuse Value}
    {q : Query} (h : leafQuery? r o subject operand = some q) :
    ∃ t, leafSpelling r o subject operand = .ok t := by
  simp only [leafQuery?, Option.bind_eq_bind, Option.bind_eq_some_iff] at h
  obtain ⟨s, hs, h⟩ := h
  have ht : subjectText r subject = .ok (Quoted.literal s) := subjectText_eq_ok.2 ⟨s, hs, rfl⟩
  have hread {α : Type} {read : Value → Except ScriptError α} {i : Nat} {v : Value} {a : α}
      (hv : operand i = .ok v) (ha : read v = .ok a) : operandAs operand read i = .ok a :=
    operandAs_eq_ok.2 ⟨v, hv, ha⟩
  have hcount {v : Value} {n : Int} (hw : v.isWritable = true) (hn : milliseconds? v = some n) :
      countText n = .ok (shownInt n) :=
    countText_eq_ok.2 ⟨by rw [← isWritable_of_milliseconds? hn, hw], rfl⟩
  cases o <;> simp only [Option.bind_eq_some_iff, operand?_eq_some] at h
  case present | and | or => exact ⟨_, bind_eq_ok.2 ⟨_, ht, rfl⟩⟩
  case isEqual =>
    obtain ⟨v, ⟨hv, hw⟩, p, hp, -⟩ := h
    obtain ⟨l, hl⟩ := exists_ofValue hp
    have hprint : literalText l = .ok l.write :=
      literalText_eq_ok.2 ⟨by rw [← isWritable_of_ofValue hl, hw], rfl⟩
    exact ⟨_, bind_eq_ok.2 ⟨l, hread hv hl, bind_eq_ok.2 ⟨_, hprint, bind_eq_ok.2 ⟨_, ht, rfl⟩⟩⟩⟩
  case before | after =>
    obtain ⟨v, ⟨hv, hw⟩, m, hm, -⟩ := h
    exact ⟨_, bind_eq_ok.2 ⟨m, hread hv (toMilliseconds_eq_ok.2 hm),
      bind_eq_ok.2 ⟨_, hcount hw hm, bind_eq_ok.2 ⟨_, ht, rfl⟩⟩⟩⟩
  case between =>
    obtain ⟨v, ⟨hv, hvw⟩, m, hm, w, ⟨hw, hww⟩, n, hn, -⟩ := h
    exact ⟨_, bind_eq_ok.2 ⟨m, hread hv (toLong_eq_ok.2 hm), bind_eq_ok.2
      ⟨n, hread hw (toLong_eq_ok.2 hn), bind_eq_ok.2 ⟨_, hcount hvw hm, bind_eq_ok.2
        ⟨_, hcount hww hn, bind_eq_ok.2 ⟨_, ht, rfl⟩⟩⟩⟩⟩⟩

/-- A tree that asks for something is written out. -/
theorem exists_spelling (n : Node) {q : Query} (h : n.query? r = some q) :
    ∃ t, spelling r n = .ok t := by
  induction n using Node.face_induction generalizing q with
  | pair n j left right hn ihl ihr =>
    rw [query?_face, hn] at h
    simp only [Option.bind_eq_bind, Option.bind_eq_some_iff] at h
    obtain ⟨a, ha, b, hb, -⟩ := h
    obtain ⟨x, hx⟩ := ihl ha
    obtain ⟨y, hy⟩ := ihr hb
    rw [spelling_face, hn]
    exact ⟨_, bind_eq_ok.2 ⟨x, hx, bind_eq_ok.2 ⟨y, hy, rfl⟩⟩⟩
  | leaf n o s operand hn =>
    rw [query?_face, hn] at h
    rw [spelling_face, hn]
    exact exists_leafSpelling h
  | refused n f hn =>
    rw [query?_face, hn] at h
    cases h

/-- **A tree is written out exactly if it asks for something**, and as what it asks for. -/
theorem spelling_eq_ok {n : Node} {t : String} : spelling r n = .ok t ↔
    ∃ q, n.query? r = some q ∧ q.Legible ∧ t = q.text := by
  constructor
  · intro h
    obtain ⟨q, hq, hl, hc⟩ := spelling_chars h
    exact ⟨q, hq, hl, by rw [Query.text, ← hc, String.ofList_toList]⟩
  · rintro ⟨q, hq, -, rfl⟩
    obtain ⟨t, ht⟩ := exists_spelling n hq
    obtain ⟨p, hp, -, hc⟩ := spelling_chars ht
    cases hp.symm.trans hq
    rw [ht, Query.text, ← hc, String.ofList_toList]

end Written

end TraversalScript
