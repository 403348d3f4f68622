import TraversalScript.Form.Criteria
import TraversalScript.Proofs.Leaves

/-!
# Trees of forms

Which forms become checked trees, and which node is reported if one does not.

* `CriteriaForm.postorder`: the nodes of a form, children from the left before their parent;
* `CriteriaForm.flaw?`: what keeps a node from the shape that its operator asks for;
* `CriteriaForm.malformed?`: the first flaw of a form;
* `CriteriaForm.build`: the tree built node by node, each from its parts as they were read;
* `build_eq_toNode`: the checked tree of a form is the one that is built;
* **`build_malformed`**: a form without flaws becomes a tree of the right shape, and of any other
  the first flaw is reported.
-/

namespace TraversalScript.CriteriaForm

/-! ## Flaws -/

mutual

/-- The nodes of a form, children from the left before their parent. -/
def postorder : CriteriaForm → List CriteriaForm
  | node o s vs forms => postorderAll forms ++ [node o s vs forms]

/-- The nodes of a list of forms, one form after the other. -/
def postorderAll : List CriteriaForm → List CriteriaForm
  | [] => []
  | form :: forms => form.postorder ++ postorderAll forms

end

/-- What keeps a node from the shape that its operator asks for: two children and no operands, or a
subject, no children and as many operands as the operator takes. -/
def flaw? : CriteriaForm → Option Malformation
  | node o s vs forms =>
    if o.isCombinator then
      if forms.length ≠ 2 then some (.childCount forms.length)
      else if (vs.getD []).length ≠ 0 then some .valuesGiven
      else none
    else if s.getD "" = "" then some .noSubject
    else if forms.length ≠ 0 then some .childrenGiven
    else if (vs.getD []).length ≠ o.valueCount then some (.valueCount (vs.getD []).length)
    else none

/-- The flaw of a node as it is reported. -/
def fault? : CriteriaForm → Option ScriptError
  | form@(node o s _ _) => form.flaw?.map (.malformed o (subjectValue s))

/-- The first flaw of a form as it is reported. -/
def malformed? (form : CriteriaForm) : Option ScriptError := form.postorder.findSome? fault?

/-! ## Building -/

/-- The operands of a node as a value. -/
def operandsValue : Option (List Value) → Value
  | some vs => .list vs
  | none => .null

mutual

/-- The tree built node by node, each from its parts as they were read. -/
def build : CriteriaForm → Except Fault Node
  | node o s vs forms => do
    let ns ← buildAll forms
    Node.build (.member (.operator o)) (subjectValue s) (operandsValue vs) (.nodes ns)

/-- The trees of a list of forms, from the left. -/
def buildAll : List CriteriaForm → Except Fault (List Node)
  | [] => .ok []
  | form :: forms => do
    let n ← form.build
    let ns ← buildAll forms
    return n :: ns

end

theorem tuple?_operandsValue (vs : Option (List Value)) :
    (operandsValue vs).tuple? = .ok (vs.getD []) := by
  cases vs with
  | none => rfl
  | some vs => cases vs <;> rfl

mutual

/-- The checked tree of a form is the one that is built. -/
theorem build_eq_toNode (form : CriteriaForm) : form.build = form.toNode.mapError .script := by
  cases form with
  | node o s vs forms =>
    rw [build, toNode, buildAll_eq_toNodes]
    cases toNodes forms with
    | error e => rfl
    | ok ns =>
      simp only [Except.mapError, bind, Except.bind, Node.build, tuple?_operandsValue,
        Children.toList]

theorem buildAll_eq_toNodes (forms : List CriteriaForm) :
    buildAll forms = (toNodes forms).mapError .script := by
  cases forms with
  | nil => rw [buildAll, toNodes]; rfl
  | cons form forms =>
    rw [buildAll, toNodes, build_eq_toNode, buildAll_eq_toNodes]
    cases toNode form with
    | error e => rfl
    | ok n => cases toNodes forms <;> rfl

end

/-! ## Which forms become trees -/

theorem truthy_subjectValue (s : Option String) :
    (subjectValue s).truthy = !decide (s.getD "" = "") := by
  cases s with
  | none => rfl
  | some s =>
    change (!s.isEmpty) = _
    rw [Option.getD_some, Bool.not_inj_iff, Bool.eq_iff_iff, String.isEmpty_iff, decide_eq_true_iff]

/-- The fault in the shape of a node over checked trees is the flaw of its form. -/
theorem malformation?_eq_flaw? {o : Operator} {s : Option String} {vs : Option (List Value)}
    {forms : List CriteriaForm} {ns : List Node} (hl : ns.length = forms.length)
    (hc : ∀ n ∈ ns, n.isCriteria = true) :
    Node.malformation? o (subjectValue s) (vs.getD []) ns = (node o s vs forms).flaw? := by
  have hf : ns.find? (fun n => !n.isCriteria) = none := by
    rw [List.find?_eq_none]
    intro n hn
    simp [hc n hn]
  have hn : ns.isEmpty = decide (forms.length = 0) := by
    rw [← hl, Bool.eq_iff_iff, List.isEmpty_iff, decide_eq_true_iff, List.length_eq_zero_iff]
  have hv : (vs.getD []).isEmpty = decide ((vs.getD []).length = 0) := by
    rw [Bool.eq_iff_iff, List.isEmpty_iff, decide_eq_true_iff, List.length_eq_zero_iff]
  simp only [Node.malformation?, flaw?, Node.combinatorFault?, Node.leafFault?, combinatorArity,
    truthy_subjectValue, hf, hl, hn, hv]
  simp

/-- A node over checked trees is built unless its form has a flaw. -/
theorem build_node {o : Operator} {s : Option String} {vs : Option (List Value)}
    {forms : List CriteriaForm} {ns : List Node} (hl : ns.length = forms.length)
    (hg : ∀ n ∈ ns, n.Shaped ∧ n.Named) :
    Gives (Node.build (.member (.operator o)) (subjectValue s) (operandsValue vs) (.nodes ns))
      (fun n => n.Shaped ∧ n.Named) ((node o s vs forms).fault?.map .script) := by
  have hm := @malformation?_eq_flaw? o s vs forms ns hl fun n hn => (hg n hn).1.isCriteria
  have hb : Node.build (.member (.operator o)) (subjectValue s) (operandsValue vs) (.nodes ns) =
      (Node.ofParts o (subjectValue s) (vs.getD []) ns).mapError .script := by
    simp only [Node.build, tuple?_operandsValue, Children.toList]
  rw [hb, fault?, ← hm, Node.ofParts]
  cases h : Node.malformation? o (subjectValue s) (vs.getD []) ns with
  | some reason => rfl
  | none =>
    have hs := Node.shaped_of_ofParts (fun n hn _ => (hg n hn).1) (Node.ofParts_eq_ok.2 ⟨h, rfl⟩)
    refine ⟨_, rfl, hs, fun l hm => ?_⟩
    rw [Node.leaves] at hm
    split_ifs at hm with ho
    · obtain ⟨n, hn, hl⟩ := Node.mem_leavesAll.1 hm
      exact (hg n hn).2 l hl
    · rw [List.mem_singleton] at hm
      subst hm
      rw [Node.malformation?, if_neg ho, Node.leafFault?_eq_none] at h
      cases s with
      | none => cases h.1
      | some s => exact ⟨s, rfl⟩

mutual

/-- **A form without flaws becomes a tree of the right shape**, and of any other the first flaw is
reported. -/
theorem build_malformed (form : CriteriaForm) :
    Gives form.build (fun n => n.Shaped ∧ n.Named) (form.malformed?.map .script) := by
  cases form with
  | node o s vs forms =>
    rw [malformed?, postorder, List.findSome?_append, List.findSome?_singleton, Option.map_or, build]
    exact (buildAll_malformed forms).bind fun ns hns => build_node hns.1 hns.2

theorem buildAll_malformed (forms : List CriteriaForm) :
    Gives (buildAll forms) (fun ns => ns.length = forms.length ∧ ∀ n ∈ ns, n.Shaped ∧ n.Named)
      (((postorderAll forms).findSome? fault?).map .script) := by
  cases forms with
  | nil => exact ⟨[], by rw [buildAll], rfl, nofun⟩
  | cons form forms =>
    rw [postorderAll, List.findSome?_append, Option.map_or, buildAll,
      ← @Option.or_none _ (Option.map _ (List.findSome? _ (postorderAll forms)))]
    exact (build_malformed form).bind fun n hn => (buildAll_malformed forms).bind fun ns hns =>
      ⟨n :: ns, rfl, by simp [hns.1], List.forall_mem_cons.2 ⟨hn, hns.2⟩⟩

end

end TraversalScript.CriteriaForm
