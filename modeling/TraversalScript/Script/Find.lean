import TraversalScript.Event
import TraversalScript.Script.Entity
import TraversalScript.Script.Predicate

/-!
# Find scripts

The script that finds the elements of an entity which satisfy a criteria tree.

* `Finder`: the properties that hold ids and labels in the store;
* `Finder.scope`, `Finder.trace`: the steps of a script, in their order;
* **`Finder.generate`**: the scripts for an entity and a tree.
-/

namespace TraversalScript

/-- The tag of a node. -/
def Node.tag : Node → Value
  | criteria o .. => .member (.operator o)
  | loose tag .. => tag
  | value _ => .null

/-- The properties under which the store keeps ids and labels. -/
structure Finder where
  idProperty : Value
  labelProperty : Value

namespace Finder

/-- The property of ids when none is named. -/
def defaultId : Value := .text "id"

/-- The property of labels when none is named. -/
def defaultLabel : Value := .text "label"

/-- The step that takes all elements of a kind. -/
def scope (e : Entity) : Except Fault String :=
  match e.kind with
  | .vertex => .ok "V()"
  | .edge => .ok "E()"
  | .graph => .error (.script (.graphScope e.label))

/-- The step that keeps the elements with the label of an entity. -/
def labelStep (f : Finder) (e : Entity) : Except Fault String := do
  let property ← (quoteValue f.labelProperty).mapError .misuse
  let label ← (quoteValue e.label).mapError .misuse
  return (Template.ofOperator .isEqual).fill [property, label]

/-- Writes the predicate of a tree for an entity. -/
def compile (f : Finder) (n : Node) (e : Entity) : Traced String := do
  let fragment ← Traced.ofExcept (predicate ⟨e.idField, f.idProperty⟩ n)
  Traced.note (.compiled n.tag e.label fragment)
  return fragment

/-- Writes the scripts for a tree and an entity. -/
def trace (f : Finder) (n : Node) (e : Entity) : Traced (List String) := do
  let all ← Traced.ofExcept (scope e)
  let labelled ← Traced.ofExcept (f.labelStep e)
  let fragment ← f.compile n e
  let script := chained ["g", all, labelled, Template.whereStep.fill [fragment]]
  Traced.note (.generated e.label script)
  return [script]

/-- **The scripts for a tree and an entity.** -/
def generate (f : Finder) (n : Node) (e : Entity) : Except Fault (List String) :=
  (f.trace n e).outcome.1

end Finder

end TraversalScript
