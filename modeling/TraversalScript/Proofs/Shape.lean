import Mathlib.Tactic.SplitIfs
import TraversalScript.Criteria.Node

/-!
# The shape of checked trees

What the checks of a node keep out of a tree, however it was built.

* `Node.Shaped`: combinators have two children and no operands, leaves have a subject, no children
  and as many operands as their operator takes;
* `Node.Built`: the trees that come out of building node after node;
* `Node.ofParts_eq_ok`, `Node.build_eq_ok`: when a node is built, and what it is then;
* **`Node.built_iff_shaped`**: the trees that are built are the ones of the right shape.
-/

namespace TraversalScript.Node

/-- The trees of the right shape. -/
inductive Shaped : Node → Prop
  | pair {o : Operator} {s : Value} {left right : Node} (ho : o.isCombinator = true)
      (hl : Shaped left) (hr : Shaped right) : Shaped (.criteria o s [] [left, right])
  | leaf {o : Operator} {s : Value} {vs : List Value} (ho : o.isCombinator = false)
      (hs : s.truthy = true) (hv : vs.length = o.valueCount) : Shaped (.criteria o s vs [])

/-- The trees that come out of building node after node: what is built over checked children that
were built themselves. -/
inductive Built : Node → Prop
  | build {tag subject operands : Value} {children : Children} {n : Node}
      (hc : ∀ ns, children.toList = .ok ns → ∀ m ∈ ns, m.isCriteria = true → Built m)
      (hn : Node.build tag subject operands children = .ok n) : Built n

theorem Shaped.isCriteria {n : Node} (h : n.Shaped) : n.isCriteria = true := by cases h <;> rfl

/-! ## When a node is built -/

section Parts

variable {o : Operator} {s : Value} {vs : List Value} {ns : List Node}

theorem combinatorFault?_eq_none :
    combinatorFault? vs ns = none ↔ vs = [] ∧ ∃ left right, ns = [left, right] ∧
      left.isCriteria = true ∧ right.isCriteria = true := by
  match ns with
  | [] | [_] | _ :: _ :: _ :: _ => simp [combinatorFault?, combinatorArity]
  | [left, right] => cases vs <;> simp [combinatorFault?, combinatorArity, and_assoc]

theorem leafFault?_eq_none :
    leafFault? o s vs ns = none ↔ s.truthy = true ∧ ns = [] ∧ vs.length = o.valueCount := by
  unfold leafFault?
  split_ifs <;> simp_all

/-- A node of four parts is built unless its shape is faulty, and keeps its parts. -/
theorem ofParts_eq_ok {n : Node} :
    ofParts o s vs ns = .ok n ↔ malformation? o s vs ns = none ∧ n = .criteria o s vs ns := by
  unfold ofParts
  cases malformation? o s vs ns with
  | none => simp [eq_comm]
  | some reason => simp

theorem malformation?_pair (ho : o.isCombinator = true) {left right : Node}
    (hl : left.isCriteria = true) (hr : right.isCriteria = true) :
    malformation? o s [] [left, right] = none := by
  rw [malformation?, if_pos ho, combinatorFault?_eq_none]
  exact ⟨rfl, left, right, rfl, hl, hr⟩

theorem malformation?_leaf (ho : o.isCombinator = false) (hs : s.truthy = true)
    (hv : vs.length = o.valueCount) : malformation? o s vs [] = none := by
  rw [malformation?, if_neg (by simp [ho]), leafFault?_eq_none]
  exact ⟨hs, rfl, hv⟩

/-- What is built over children of the right shape has the right shape. -/
theorem shaped_of_ofParts {n : Node} (hc : ∀ m ∈ ns, m.isCriteria = true → Shaped m)
    (h : ofParts o s vs ns = .ok n) : Shaped n := by
  obtain ⟨hm, rfl⟩ := ofParts_eq_ok.1 h
  unfold malformation? at hm
  split_ifs at hm with ho
  · obtain ⟨rfl, left, right, rfl, hl, hr⟩ := combinatorFault?_eq_none.1 hm
    exact .pair ho (hc left (by simp) hl) (hc right (by simp) hr)
  · obtain ⟨hs, rfl, hv⟩ := leafFault?_eq_none.1 hm
    exact .leaf (by simpa using ho) hs hv

end Parts

/-- A node is built of four parts as they are given when the tag is an operator, the operands and
the children are sequences, and the shape is right. -/
theorem build_eq_ok {tag subject operands : Value} {children : Children} {n : Node} :
    build tag subject operands children = .ok n ↔ ∃ o vs ns, tag = .member (.operator o) ∧
      operands.tuple? = .ok vs ∧ children.toList = .ok ns ∧ ofParts o subject vs ns = .ok n := by
  constructor
  · intro h
    unfold build at h
    split at h
    · next o =>
      split at h
      · cases h
      · cases h
      · next vs ns hv hn =>
        refine ⟨o, vs, ns, rfl, hv, hn, ?_⟩
        cases hp : ofParts o subject vs ns with
        | error e => rw [hp] at h; cases h
        | ok m => rw [hp] at h; cases h; rfl
    · cases h
  · rintro ⟨o, vs, ns, rfl, hv, hn, hp⟩
    simp only [build, hv, hn, hp]
    rfl

/-- **The trees that are built are the ones of the right shape.** -/
theorem built_iff_shaped {n : Node} : n.Built ↔ n.Shaped := by
  constructor
  · intro h
    induction h with
    | build _ hn ih =>
      obtain ⟨o, vs, ns, -, -, hns, hp⟩ := build_eq_ok.1 hn
      exact shaped_of_ofParts (ih ns hns) hp
  · intro h
    induction h with
    | @pair o s left right ho hl hr ihl ihr =>
      refine @Built.build (.member (.operator o)) s (.tuple []) (.nodes [left, right]) _ ?_
        (build_eq_ok.2 ⟨o, [], _, rfl, rfl, rfl, ?_⟩)
      · intro ns hns m hm _
        cases hns
        rw [List.mem_cons, List.mem_singleton] at hm
        rcases hm with rfl | rfl
        · exact ihl
        · exact ihr
      · exact ofParts_eq_ok.2 ⟨malformation?_pair ho hl.isCriteria hr.isCriteria, rfl⟩
    | @leaf o s vs ho hs hv =>
      refine @Built.build (.member (.operator o)) s (.tuple vs) .none _ ?_
        (build_eq_ok.2 ⟨o, vs, _, rfl, ?_, rfl, ?_⟩)
      · intro ns hns m hm
        cases hns
        cases hm
      · cases vs <;> rfl
      · exact ofParts_eq_ok.2 ⟨malformation?_leaf ho hs hv, rfl⟩

end TraversalScript.Node
