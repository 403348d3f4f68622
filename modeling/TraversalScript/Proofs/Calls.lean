import TraversalScript.Proofs.Leaves

/-!
# Calls that build trees

A tree is built by calls, and each call is given only what came out of the calls before it.

* `Call`, `Call.result`: the three ways to build a node;
* `Session`: successful calls one after the other, with the nodes that they built;
* `Call.built`, `Session.built`: what one call keeps of the shape of nodes, and so all of them;
* `Node.nodes`, `Node.Kept`: the nodes of a tree, and what the operator of a node asks of it;
* `Fault.OfWriting`, `Mild`, `spelling_mild`: a tree of the right shape is refused only for an
  operand or a subject;
* `Node.wanted`: the operands of a tree from left to right, and what they are wanted as;
* `exists_spelling_iff`, `spelling_overlong`, `spelling_misfit`: when a tree of the right shape is
  written out, and what is reported if not;
* **`session_predicate`**: what is built in a session has the right shape, and is written out
  exactly if every operand can be read as it is wanted and is no integer of too many digits.
-/

namespace TraversalScript

/-! ## Sessions -/

/-- A call that builds a node. -/
inductive Call where
  | build (tag subject operands : Value) (children : Children)
  | leaf (tag subject : Value) (operands : List Value)
  | combine (tag : Value) (left right : Node)

namespace Call

/-- What comes of a call. -/
def result : Call → Except Fault Node
  | build tag subject operands children => Node.build tag subject operands children
  | leaf tag subject operands => Node.leaf tag subject operands
  | combine tag left right => Node.combine tag left right

/-- What a call is given as the children of its node. -/
def children : Call → Children
  | build _ _ _ children => children
  | leaf .. => .none
  | combine _ left right => .nodes [left, right]

end Call

/-- Successful calls one after the other, and the nodes that they built: the checked nodes among the
children of a call were built by calls before it. -/
inductive Session : List Call → List Node → Prop
  | start : Session [] []
  | call {calls : List Call} {built : List Node} {c : Call} {n : Node}
      (before : Session calls built)
      (given : ∀ ns, c.children.toList = .ok ns → ∀ m ∈ ns, m.isCriteria = true → m ∈ built)
      (ok : c.result = .ok n) : Session (calls ++ [c]) (built ++ [n])

/-- A call over nodes that were built gives a node that was built. -/
theorem Call.built {c : Call} {n : Node}
    (hc : ∀ ns, c.children.toList = .ok ns → ∀ m ∈ ns, m.isCriteria = true → m.Built)
    (h : c.result = .ok n) : n.Built := by
  cases c with
  | build tag subject operands children => exact .build hc h
  | leaf tag subject operands => exact .build hc h
  | combine tag left right =>
    exact @Node.Built.build tag .null (.tuple []) (.nodes [left, right]) n hc h

/-- All nodes of a session are built node after node. -/
theorem Session.built {calls : List Call} {built : List Node} (h : Session calls built) :
    ∀ n ∈ built, n.Built := by
  induction h with
  | start => exact nofun
  | call _ given ok ih =>
    rw [List.forall_mem_append, List.forall_mem_singleton]
    exact ⟨ih, Call.built (fun ns hns m hm hk => ih m (given ns hns m hm hk)) ok⟩

/-! ## The nodes of a tree -/

namespace Node

mutual

/-- The nodes of a tree, a node before its children. -/
def nodes : Node → List Node
  | criteria o s vs ns => criteria o s vs ns :: nodesAll ns
  | loose tag s v h ns => loose tag s v h ns :: nodesAll ns
  | value v => [value v]

/-- The nodes of a list of trees. -/
def nodesAll : List Node → List Node
  | [] => []
  | n :: ns => n.nodes ++ nodesAll ns

end

/-- What the operator of a node asks of it: a combinator has no operands and two checked children; a
leaf has a subject, no children and as many operands as its operator takes. -/
def Kept : Node → Prop
  | criteria o s vs ns =>
    if o.isCombinator then
      vs = [] ∧ ∃ left right, ns = [left, right] ∧ left.isCriteria = true ∧ right.isCriteria = true
    else s.truthy = true ∧ ns = [] ∧ vs.length = o.valueCount
  | _ => False

/-- Every node of a tree of the right shape is as its operator asks. -/
theorem Shaped.kept {n : Node} (h : n.Shaped) : ∀ m ∈ n.nodes, m.Kept := by
  induction h with
  | @pair o s left right ho hl hr ihl ihr =>
    simp only [nodes, nodesAll, List.append_nil, List.forall_mem_cons, List.forall_mem_append]
    refine ⟨?_, ihl, ihr⟩
    rw [Kept, if_pos ho]
    exact ⟨rfl, left, right, rfl, hl.isCriteria, hr.isCriteria⟩
  | @leaf o s vs ho hs hv =>
    simp only [nodes, nodesAll, List.forall_mem_cons]
    refine ⟨?_, nofun⟩
    rw [Kept, if_neg (by simp [ho])]
    exact ⟨hs, rfl, hv⟩

end Node

/-! ## Why a tree of the right shape is refused -/

/-- A fault of an operand or of a subject that cannot be written. -/
def Fault.OfWriting : Fault → Prop
  | .script e => e.kind = .unsupportedValue
  | .misuse m => m = .noAttribute ∨ m = .wrongType ∨ m = .badValue

/-- A step that fails only because something cannot be written. -/
def Mild {α : Type} (x : Except Fault α) : Prop := ∀ f, x = .error f → f.OfWriting

theorem Mild.ok {α : Type} (a : α) : Mild (.ok a : Except Fault α) := nofun

theorem Mild.bind {α β : Type} {x : Except Fault α} {f : α → Except Fault β} (hx : Mild x)
    (hf : ∀ a, Mild (f a)) : Mild (x >>= f) := by
  cases x with
  | ok a => exact hf a
  | error e =>
    intro g hg
    cases hg
    exact hx e rfl

section Leaf

variable {r : Renaming} {vs : List Value} {i : Nat}

theorem subjectText_mild (r : Renaming) (subject : Value) : Mild (subjectText r subject) := by
  unfold subjectText quoteValue
  intro f hf
  split at hf
  · cases hf
  · cases hf
    exact .inr (.inl rfl)
  · cases hf
    exact .inl rfl

theorem operandAs_mild {α : Type} {read : Value → Except ScriptError α} {use : Use}
    (hr : Reads read use) (hi : i < vs.length) : Mild (operandAs (Value.itemOf vs) read i) := by
  have hv : Value.itemOf vs i = .ok vs[i] := by rw [Value.itemOf, List.getElem?_eq_getElem hi]
  have hg := operandAs_gives hr hv
  intro f hf
  unfold Value.misfit? at hg
  split at hg
  · obtain ⟨a, ha, -⟩ := hg
    rw [ha] at hf
    cases hf
  · rw [show operandAs _ _ i = _ from hg] at hf
    cases hf
    rfl

theorem literalText_mild (l : Literal) : Mild (literalText l) := by
  intro f hf
  cases hl : l.isWritable with
  | true =>
    rw [literalText_eq_ok.2 ⟨hl, rfl⟩] at hf
    cases hf
  | false =>
    rw [literalText, Literal.print_eq_error.2 ⟨hl, rfl⟩] at hf
    cases hf
    exact .inr (.inr rfl)

theorem leafSpelling_mild {o : Operator} (hv : vs.length = o.valueCount) (subject : Value) :
    Mild (leafSpelling r o subject (Value.itemOf vs)) := by
  have finish (wrap : String → String) :
      Mild (do let t ← subjectText r subject; return wrap t) :=
    (subjectText_mild r subject).bind fun _ => Mild.ok _
  cases o with
  | present | and | or => exact finish _
  | isEqual =>
    exact (operandAs_mild reads_literal (by simp [hv, Operator.valueCount])).bind fun _ =>
      (literalText_mild _).bind fun _ => finish _
  | before | after =>
    exact (operandAs_mild reads_time (by simp [hv, Operator.valueCount])).bind fun _ =>
      (literalText_mild _).bind fun _ => finish _
  | between =>
    exact (operandAs_mild reads_long (by simp [hv, Operator.valueCount])).bind fun _ =>
      (operandAs_mild reads_long (by simp [hv, Operator.valueCount])).bind fun _ =>
        (literalText_mild _).bind fun _ => (literalText_mild _).bind fun _ => finish _

end Leaf

/-- A tree of the right shape is refused only for an operand or a subject. -/
theorem spelling_mild (r : Renaming) {n : Node} (h : n.Shaped) : Mild (spelling r n) := by
  induction h with
  | @pair o s left right ho hl hr ihl ihr =>
    rw [← o.isSome_joiner?, Option.isSome_iff_exists] at ho
    obtain ⟨opening, ho⟩ := ho
    simp only [spelling, ho, pairSpelling_pair]
    exact ihl.bind fun _ => ihr.bind fun _ => Mild.ok _
  | @leaf o s vs ho hs hv =>
    rw [← o.isSome_joiner?, Option.isSome_eq_false_iff, Option.isNone_iff_eq_none] at ho
    simp only [spelling, ho]
    exact leafSpelling_mild hv s

/-! ## The operands of a tree -/

/-- The operands of a tree from left to right, each with what it is wanted as. -/
def Node.wanted (n : Node) : List (Use × Value) :=
  n.leaves.flatMap fun l => l.operands.map (l.operator.use, ·)

/-- Whether an operand cannot be written as what it is wanted as. -/
def isMisfit (u : Use × Value) : Bool := !u.2.fits u.1

/-- The refusal of a tree is that of the first operand from the left that cannot be written. -/
theorem Node.misfit?_eq (n : Node) :
    n.misfit? = (n.wanted.find? isMisfit).map fun u => unsupported u.2 u.1 := by
  have hl (l : Leaf) : l.misfit? =
      ((l.operands.map (l.operator.use, ·)).find? isMisfit).map fun u => unsupported u.2 u.1 := by
    rw [Leaf.misfit?]
    induction l.operands with
    | nil => rfl
    | cons v vs ih =>
      rw [List.findSome?_cons, List.map_cons, List.find?_cons, Value.misfit?, ih]
      cases h : v.fits l.operator.use <;> simp [isMisfit, h]
  unfold misfit? wanted
  induction n.leaves with
  | nil => rfl
  | cons l ls ih =>
    rw [List.findSome?_cons, List.flatMap_cons, List.find?_append, ih, hl l]
    cases (l.operands.map (l.operator.use, ·)).find? isMisfit <;> rfl

theorem Node.misfit?_eq_none {n : Node} :
    n.misfit? = none ↔ ∀ u ∈ n.wanted, u.2.fits u.1 = true := by
  rw [n.misfit?_eq, Option.map_eq_none_iff, List.find?_eq_none]
  simp [isMisfit]

theorem Node.isWritable_eq_true {n : Node} :
    n.isWritable = true ↔ ∀ u ∈ n.wanted, u.2.isWritable = true := by
  simp only [isWritable, Leaf.isWritable, wanted, List.all_eq_true, List.mem_flatMap, List.mem_map]
  constructor
  · rintro h _ ⟨l, hl, v, hv, rfl⟩
    exact h l hl v hv
  · exact fun h l hl v hv => h _ ⟨l, hl, v, hv, rfl⟩

section Wanted

variable {r : Renaming} {p : String} {n : Node}

/-- A tree is written out exactly if all operands can be read and all numbers can be written. -/
theorem exists_spelling_iff (hp : r.idProperty = .text p) (hs : n.Shaped) (hn : n.Named) :
    (∃ t, spelling r n = .ok t) ↔ n.misfit? = none ∧ n.isWritable = true := by
  have hw := spelling_writes hp hs hn
  rw [← Node.fault?_eq_none]
  cases hf : n.fault? with
  | none =>
    rw [hf] at hw
    obtain ⟨t, ht, -⟩ := hw
    exact ⟨fun _ => rfl, fun _ => ⟨t, ht⟩⟩
  | some f =>
    rw [hf] at hw
    rw [show spelling r n = _ from hw]
    exact ⟨nofun, nofun⟩

/-- Where all operands can be read and a number cannot be written, that is reported. -/
theorem spelling_overlong (hp : r.idProperty = .text p) (hs : n.Shaped) (hn : n.Named)
    (hm : n.misfit? = none) (hw : n.isWritable = false) :
    spelling r n = .error (.misuse .badValue) := by
  have h := spelling_writes hp hs hn
  rw [Node.fault?_of_fits hm, hw] at h
  exact h

/-- Where all numbers can be written, the first operand that cannot be read is reported. -/
theorem spelling_misfit (hp : r.idProperty = .text p) (hs : n.Shaped) (hn : n.Named)
    (hw : n.isWritable = true) {e : ScriptError} (hm : n.misfit? = some e) :
    spelling r n = .error (.script e) := by
  have h := spelling_writes hp hs hn
  rw [Node.fault?_eq hw, hm] at h
  exact h

end Wanted

/-- **What is built in a session has the right shape at every node, and is written out exactly if
every operand can be read as it is wanted and is no integer of too many digits.** No tree of a
session is refused for its shape. If the subjects are texts and all numbers can be written, the first
operand from the left that cannot be read is the one that is reported; and if all operands can be
read, a number that cannot be written is a bad value. -/
theorem session_predicate {calls : List Call} {built : List Node} (h : Session calls built)
    {n : Node} (hn : n ∈ built) (e : Entity) (p : String) :
    (∀ m ∈ n.nodes, m.Kept) ∧
    (predicate ⟨e.idField, .text p⟩ n ≠ .error (.misuse .outOfRange) ∧
      ∀ x, predicate ⟨e.idField, .text p⟩ n = .error (.script x) →
        x.kind ≠ .unsupportedOperator ∧ x.kind ≠ .malformedCriteria) ∧
    (n.Named →
      ((∃ t, predicate ⟨e.idField, .text p⟩ n = .ok t) ↔
        (∀ u ∈ n.wanted, u.2.fits u.1 = true) ∧ ∀ u ∈ n.wanted, u.2.isWritable = true) ∧
      ((∀ u ∈ n.wanted, u.2.isWritable = true) →
        ∀ use v, n.wanted.find? isMisfit = some (use, v) →
          ∃ x, predicate ⟨e.idField, .text p⟩ n = .error (.script x) ∧ x.kind = .unsupportedValue ∧
            x.detail = [("value_type", .text v.typeName), ("target", .text use.word)]) ∧
      ((∀ u ∈ n.wanted, u.2.fits u.1 = true) → (∃ u ∈ n.wanted, u.2.isWritable = false) →
        predicate ⟨e.idField, .text p⟩ n = .error (.misuse .badValue))) := by
  have hs : n.Shaped := Node.built_iff_shaped.1 (h.built n hn)
  simp only [predicate_eq_spelling, ← Node.misfit?_eq_none, ← Node.isWritable_eq_true]
  have hm := spelling_mild ⟨e.idField, .text p⟩ hs
  refine ⟨hs.kept, ⟨fun he => ?_, fun x he => ?_⟩, fun hnamed => ⟨?_, ?_, ?_⟩⟩
  · rcases hm _ he with hf | hf | hf <;> cases hf
  · have hk : x.kind = .unsupportedValue := hm _ he
    rw [hk]
    exact ⟨by decide, by decide⟩
  · exact exists_spelling_iff rfl hs hnamed
  · intro hw use v hv
    have hmisfit : n.misfit? = some (unsupported v use) := by rw [n.misfit?_eq, hv]; rfl
    exact ⟨_, spelling_misfit rfl hs hnamed hw hmisfit, rfl, rfl⟩
  · rintro hf ⟨u, hu, hw⟩
    refine spelling_overlong rfl hs hnamed hf (Bool.eq_false_iff.2 fun hn => ?_)
    rw [Node.isWritable_eq_true.1 hn u hu] at hw
    cases hw

/-- A leaf with a text. -/
def namedLeaf : Node := .criteria .isEqual (.text "name") [.text "Alice"] []

/-- A leaf between a number and a truth value. -/
def sinceLeaf : Node := .criteria .between (.text "since") [.int 5, .bool true] []

/-- In a session that combines two leaves, the truth value is reported. -/
theorem session_predicate_truth :
    ∃ calls built n, Session calls built ∧ n ∈ built ∧ n.nodes.length = 3 ∧
      (∀ m ∈ n.nodes, m.Kept) ∧
      ∃ x, predicate ⟨.text "key", .text "id"⟩ n = .error (.script x) ∧
        x.kind = .unsupportedValue ∧
          x.detail = [("value_type", .text "bool"), ("target", .text "long")] := by
  have h : Session
      ([] ++ [.leaf (.member (.operator .isEqual)) (.text "name") [.text "Alice"]] ++
        [.build (.member (.operator .between)) (.text "since") (.list [.int 5, .bool true])
          .none] ++
        [.combine (.member (.operator .and)) namedLeaf sinceLeaf])
      ([] ++ [namedLeaf] ++ [sinceLeaf] ++ [.criteria .and .null [] [namedLeaf, sinceLeaf]]) := by
    refine .call (.call (.call .start ?_ rfl) ?_ rfl) ?_ rfl
    · intro ns hns m hm
      cases hns
      cases hm
    · intro ns hns m hm
      cases hns
      cases hm
    · intro ns hns m hm _
      cases hns
      exact hm
  have hnamed : (Node.criteria .and .null [] [namedLeaf, sinceLeaf]).Named := by
    intro l hl
    simp only [namedLeaf, sinceLeaf, Node.leaves, Node.leavesAll] at hl
    rcases hl with _ | ⟨_, _ | ⟨_, hl⟩⟩
    · exact ⟨_, rfl⟩
    · exact ⟨_, rfl⟩
    · cases hl
  obtain ⟨hk, -, hw⟩ := @session_predicate _ _ h (.criteria .and .null [] [namedLeaf, sinceLeaf])
    (by simp) ⟨.text "key", .null, .vertex⟩ "id"
  have hshort : ∀ u ∈ Node.wanted (.criteria .and .null [] [namedLeaf, sinceLeaf]),
      u.2.isWritable = true := by
    decide +kernel
  exact ⟨_, _, _, h, by simp, rfl, hk, (hw hnamed).2.1 hshort .long (.bool true) rfl⟩

/-- **A leaf that is to equal an integer is neither written out nor refused for its operand**, if the
integer has too many digits. -/
theorem session_overlong : ∃ calls built n, Session calls built ∧ n ∈ built ∧ n.Named ∧
    (∀ u ∈ n.wanted, u.2.fits u.1 = true) ∧
      (∀ t, predicate ⟨.text "key", .text "id"⟩ n ≠ .ok t) ∧
      ∀ x, x.kind = .unsupportedValue →
        predicate ⟨.text "key", .text "id"⟩ n ≠ .error (.script x) := by
  have h : Session ([] ++ [.leaf (.member (.operator .isEqual)) (.text "a") [.int overlong]])
      ([] ++ [.criteria .isEqual (.text "a") [.int overlong] []]) := by
    refine .call .start ?_ rfl
    intro ns hns m hm
    cases hns
    cases hm
  have hp : predicate ⟨.text "key", .text "id"⟩ (.criteria .isEqual (.text "a") [.int overlong] []) =
      .error (.misuse .badValue) := by
    rw [predicate_eq_spelling]
    refine spelling_overlong rfl (.leaf rfl rfl rfl) ?_ rfl (by decide +kernel)
    intro l hl
    cases List.mem_singleton.1 hl
    exact ⟨_, rfl⟩
  refine ⟨_, _, _, h, List.mem_singleton.2 rfl, ?_, ?_, ?_, ?_⟩
  · intro l hl
    cases List.mem_singleton.1 hl
    exact ⟨_, rfl⟩
  · intro u hu
    cases List.mem_singleton.1 hu
    rfl
  · intro t ht
    rw [hp] at ht
    cases ht
  · intro x _ hx
    rw [hp] at hx
    cases hx

end TraversalScript
