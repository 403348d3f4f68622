import TraversalScript.Fault

/-!
# Criteria trees

A criteria tree is built node by node, and a node is checked when it is built.

* `Node`: a checked criteria node, a loose one that nobody checked, or some other value;
* `Holder`: how the children of a loose node are held;
* `Children`: what is given as the children of a node;
* `malformation?`: the first fault in the shape of a node;
* **`Node.build`**: the checked node of its four parts, with `Node.leaf` and `Node.combine`;
* `Node.same`: equality of trees, part by part.
-/

namespace TraversalScript

/-- How the children of a node that nobody checks are held. -/
inductive Holder where
  | list
  | tuple
  /-- Some other value, whose first two items are the children if it has them. -/
  | value (v : Value)

namespace Holder

/-- What goes wrong when a child is wanted that is not there. -/
def lack : Holder → Misuse
  | list | tuple => .outOfRange
  | value v =>
    match v.item 1, v.item 0 with
    | .error m, _ | _, .error m => m
    | .ok _, .ok _ => .outOfRange

/-- Equality of what holds children; the children themselves are compared apart. -/
def same : Holder → Holder → Bool
  | list, list | tuple, tuple => true
  | value v, value w => v.same w
  | _, _ => false

end Holder

/-- What may stand in a criteria tree. A loose node keeps its parts as they are given. -/
inductive Node where
  | criteria (operator : Operator) (subject : Value) (operands : List Value) (children : List Node)
  | loose (tag subject operands : Value) (holder : Holder) (children : List Node)
  | value (v : Value)

/-- What is given as the children of a node: a list of nodes, or some value instead. -/
inductive Children where
  | nodes (ns : List Node)
  | value (v : Value)

namespace Children

/-- No children. -/
def none : Children := nodes []

/-- The children as a list; a value that counts as false has none. -/
def toList : Children → Except Misuse (List Node)
  | nodes ns => .ok ns
  | value v => v.tuple?.map fun vs => vs.map Node.value

/-- The children one by one; a value has to have items. -/
def each : Children → Except Misuse (List Node)
  | nodes ns => .ok ns
  | value v => v.each.map fun vs => vs.map Node.value

/-- The children as a node keeps them that nobody checks. -/
def held : Children → Holder × List Node
  | nodes ns => (.list, ns)
  | value (.list vs) => (.list, vs.map Node.value)
  | value (.tuple vs) => (.tuple, vs.map Node.value)
  | value v =>
    match v.item 1, v.item 0 with
    | .ok second, .ok first => (.value v, [.value first, .value second])
    | _, _ => (.value v, [])

end Children

namespace Node

instance : Inhabited Node := ⟨value .null⟩

/-- The name of the type of a node. -/
def typeName : Node → String
  | criteria .. => "Criteria"
  | loose .. => "SimpleNamespace"
  | value v => v.typeName

/-- Whether a node is a checked one. -/
def isCriteria : Node → Bool
  | criteria .. => true
  | _ => false

/-! ## Shape -/

/-- The first fault in the shape of a combinator: the number of children, values, then the type of
a child. -/
def combinatorFault? (operands : List Value) (children : List Node) : Option Malformation :=
  if children.length ≠ combinatorArity then some (.childCount children.length)
  else if !operands.isEmpty then some .valuesGiven
  else (children.find? fun n => !n.isCriteria).map fun n => .childType n.typeName

/-- The first fault in the shape of a leaf: the subject, children, then the number of values. -/
def leafFault? (o : Operator) (subject : Value) (operands : List Value) (children : List Node) :
    Option Malformation :=
  if !subject.truthy then some .noSubject
  else if !children.isEmpty then some .childrenGiven
  else if operands.length ≠ o.valueCount then some (.valueCount operands.length)
  else none

/-- The first fault in the shape of a node. -/
def malformation? (o : Operator) (subject : Value) (operands : List Value) (children : List Node) :
    Option Malformation :=
  if o.isCombinator then combinatorFault? operands children
  else leafFault? o subject operands children

/-! ## Building -/

/-- The checked node of an operator and its parts. -/
def ofParts (o : Operator) (subject : Value) (operands : List Value) (children : List Node) :
    Except ScriptError Node :=
  match malformation? o subject operands children with
  | some reason => .error (.malformed o subject reason)
  | none => .ok (criteria o subject operands children)

/-- **The checked node of four parts as they are given**: the tag is looked at first, then the
operands, then the children, then the shape. -/
def build (tag subject operands : Value) (children : Children) : Except Fault Node :=
  match tag with
  | .member (.operator o) =>
    match operands.tuple?, children.toList with
    | .error m, _ | _, .error m => .error (.misuse m)
    | .ok vs, .ok ns => (ofParts o subject vs ns).mapError .script
  | _ => .error (.ofTag tag)

/-- A node without children. -/
def leaf (tag subject : Value) (operands : List Value) : Except Fault Node :=
  build tag subject (.tuple operands) .none

/-- A node over two others. -/
def combine (tag : Value) (left right : Node) : Except Fault Node :=
  build tag .null (.tuple []) (.nodes [left, right])

/-- A node over a list of others, which has to hold two. -/
def combineAll (tag : Value) : List Node → Except Fault Node
  | [left, right] => combine tag left right
  | _ => .error (.misuse .wrongType)

/-- A node of parts that nobody checks. -/
def ofLooseParts (tag subject operands : Value) (children : Children) : Node :=
  loose tag subject operands children.held.1 children.held.2

/-- Whether a part of a name can be changed: a checked node refuses, a loose one does not. -/
def assign (name : String) : Node → Except Misuse Unit
  | criteria .. => .error .frozen
  | loose .. => .ok ()
  | value v => v.assign name

/-! ## Equality -/

mutual

/-- Equality of trees. -/
def same : Node → Node → Bool
  | criteria o s vs ns, criteria p t ws ms =>
    o == p && s.same t && Value.sameItems vs ws && sameAll ns ms
  | loose g s v h ns, loose k t w i ms =>
    g.same k && s.same t && v.same w && h.same i && sameAll ns ms
  | value v, value w => v.same w
  | _, _ => false

/-- Equality of lists of trees, place by place. -/
def sameAll : List Node → List Node → Bool
  | [], [] => true
  | n :: ns, m :: ms => same n m && sameAll ns ms
  | _, _ => false

end

/-! ## Size -/

mutual

/-- The number of nodes in a tree. -/
def count : Node → Nat
  | criteria _ _ _ ns => countAll ns + 1
  | loose _ _ _ _ ns => countAll ns + 1
  | value _ => 1

/-- The number of nodes in a list of trees. -/
def countAll : List Node → Nat
  | [] => 0
  | n :: ns => count n + countAll ns

end

theorem count_pos (n : Node) : 0 < n.count := by cases n <;> simp [count]

end Node

end TraversalScript
