import TraversalScript.Fault

/-!
# Entities

* `Entity`: what a query targets;
* `Entity.ofParts`: an entity of its three parts, the kind given as a member or as a word.
-/

namespace TraversalScript

/-- What a query targets: the name of its id field, the label of its elements, and its kind. -/
structure Entity where
  idField : Value
  label : Value
  kind : Kind

namespace Entity

/-- The kind that a member or a word stands for. -/
def kindOf? : Value → Option Kind
  | .member (.entityKind k) => some k
  | .text s => Kind.ofWord? s
  | _ => none

/-- The entity of three parts. -/
def ofParts (idField label kind : Value) : Except ScriptError Entity :=
  match kindOf? kind with
  | some k => .ok ⟨idField, label, k⟩
  | none => .error (.unknownKind kind)

/-- Whether the entity is stored as vertices. -/
def isVertex (e : Entity) : Bool := e.kind == .vertex

/-- Whether the entity is stored as edges. -/
def isEdge (e : Entity) : Bool := e.kind == .edge

end Entity

end TraversalScript
