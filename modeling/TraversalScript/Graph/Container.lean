import TraversalScript.Fault

/-!
# Containers of graph elements

A graph entity collects the vertices and edges that are read from the store.

* `Element`: an element, an object that nobody checked, or some other value;
* `Container`: the vertices and edges of an entity, in the order in which they came;
* `Container.add`: files an element by its kind;
* `Container.addAll`: files several up to the first that is neither vertex nor edge;
* `Container.size`: the number of elements.
-/

namespace TraversalScript

/-- What may be offered to a container. -/
inductive Element where
  | element (kind id label properties : Value)
  | loose (attributes : List (String × Value))
  | value (v : Value)

namespace Element

/-- A part of an element under its name. -/
def part? : Element → String → Option Value
  | element kind id label properties, name =>
    [("kind", kind), ("id", id), ("label", label), ("properties", properties)].lookup name
  | loose attributes, name => attributes.lookup name
  | value _, _ => none

/-- A part of an element; nothing where there is none. -/
def part (e : Element) (name : String) : Value := (e.part? name).getD .null

/-- The kind of an element. -/
def kind (e : Element) : Value := e.part "kind"

/-- Equality of elements, part by part. -/
def same : Element → Element → Bool
  | element k i l p, element k' i' l' p' => k.same k' && i.same i' && l.same l' && p.same p'
  | loose xs, loose ys =>
    xs.length == ys.length &&
      xs.all fun (name, v) => (ys.lookup name).any fun w => v.same w
  | value v, value w => v.same w
  | _, _ => false

/-- Equality of lists of elements, place by place. -/
def sameAll : List Element → List Element → Bool
  | [], [] => true
  | e :: es, f :: fs => e.same f && sameAll es fs
  | _, _ => false

end Element

/-- The vertices and edges of a graph entity. -/
structure Container where
  idField : Value
  label : Value
  vertices : List Element
  edges : List Element

namespace Container

/-- The container without elements and names. -/
def empty : Container := ⟨.null, .null, [], []⟩

/-- The number of elements. -/
def size (c : Container) : Nat := c.vertices.length + c.edges.length

/-- Files an element under vertices or edges, which its kind has to name. -/
def add (c : Container) (e : Element) : Except ScriptError Container :=
  match e.kind with
  | .member (.elementKind .vertex) => .ok { c with vertices := c.vertices ++ [e] }
  | .member (.elementKind .edge) => .ok { c with edges := c.edges ++ [e] }
  | k => .error (.notAnElement k)

/-- Files elements in order, up to the first that is refused. -/
def addAll (c : Container) : List Element → Container × Option ScriptError
  | [] => (c, none)
  | e :: es =>
    match c.add e with
    | .ok c' => c'.addAll es
    | .error refusal => (c, some refusal)

/-- Files the items of a value, which are no elements. -/
def addItems (c : Container) (v : Value) : Container × Option Fault :=
  match v.items? with
  | none => (c, some (.misuse .wrongType))
  | some items =>
    match c.addAll (items.map .value) with
    | (c', refusal) => (c', refusal.map .script)

/-- Equality of containers, part by part. -/
def same (c d : Container) : Bool :=
  c.idField.same d.idField && c.label.same d.label &&
    Element.sameAll c.vertices d.vertices && Element.sameAll c.edges d.edges

/-- The place in a list that an index stands for; a negative one counts from the end. -/
def placeOf? (count : Nat) (i : Int) : Option Nat :=
  let place := if i < 0 then i + count else i
  if 0 ≤ place ∧ place < count then some place.toNat else none

/-- Equality of two containers of a list; a container equals itself whatever it holds. -/
def sameAt? (cs : List Container) (i j : Nat) : Option Bool :=
  match cs[i]?, cs[j]? with
  | some c, some d => some (i == j || c.same d)
  | _, _ => none

end Container

end TraversalScript
