import TraversalScript.Criteria.Node
import TraversalScript.Form.Reading

/-!
# Criteria forms

A criteria tree as it comes in, before its shape is checked.

* `CriteriaForm`: the parts of a node as they were read;
* `CriteriaForm.parse`: reads a form, all issues in the order of the fields;
* `CriteriaForm.withMoments`: the texts among temporal operands read as moments, once a node has no
  issues of its own or below it;
* **`CriteriaForm.toNode`**: the checked tree of a form, children before their parent.
-/

namespace TraversalScript

/-- A node of a criteria tree as it was read. -/
inductive CriteriaForm where
  | node (operator : Operator) (subject : Option String) (operands : Option (List Value))
    (children : List CriteriaForm)

namespace CriteriaForm

instance : Inhabited CriteriaForm := ⟨node .present none none []⟩

/-- The name of the form. -/
def formName : String := "CriteriaModel"

/-- The names of the fields, in their order. -/
def fieldNames : List String := ["type", "subject", "sub_values", "sub_criteria"]

/-! ## Operands -/

/-- An operand of a temporal node: a text is the moment that it spells. -/
def readOperand : Value → Reading Value
  | .text s =>
    match Moment.read s with
    | .ok t => .accepted (.dateTime t)
    | .error fault => .fail (.moment fault) (.text s)
  | v => .accepted v

/-- The operands of a temporal node, up to the first that spells no moment. -/
def readOperands : List Value → Reading (List Value)
  | [] => .accepted []
  | v :: vs => (readOperand v).andThen fun w => (readOperands vs).map (w :: ·)

/-- The node with its temporal operands read. -/
def withMoments : CriteriaForm → Reading CriteriaForm
  | node o subject (some operands) children =>
    if o.isTemporal then
      (readOperands operands).map fun read => node o subject (some read) children
    else .accepted (node o subject (some operands) children)
  | form => .accepted form

/-! ## Reading -/

/-- The operands of a node, or nothing. -/
def operandsOrNull : Json → Reading (Option (List Value))
  | .null => .accepted none
  | j => (fun js => some (Json.toValues js)) <$> Reading.array j

/-- A node of the fields of an object, given what was read of its children. -/
def ofFields (fields : List (String × Json)) (children : Reading (List CriteriaForm)) :
    Reading CriteriaForm :=
  let parts : Reading CriteriaForm := (fun o s vs ns _ => node o s vs ns)
    <$> Reading.required fields "type" (Reading.word (Operator.all.map Operator.name)
      Operator.ofName?)
    <*> Reading.optional fields "subject" none Reading.textOrNull
    <*> Reading.optional fields "sub_values" none operandsOrNull
    <*> children
    <*> Reading.noOthers fieldNames fields
  parts.andThen withMoments

mutual

/-- Reads a node. -/
def parse (origin : Origin) : Json → Reading CriteriaForm
  | .object fields => ofFields fields (parseChildren origin fields)
  | j => .fail (.notForm origin formName) j

/-- Reads the children among the fields of an object. -/
def parseChildren (origin : Origin) : List (String × Json) → Reading (List CriteriaForm)
  | [] => .accepted []
  | (name, j) :: fields =>
    if name = "sub_criteria" then (parseList origin j).under (.field name)
    else parseChildren origin fields

/-- Reads a list of nodes. -/
def parseList (origin : Origin) : Json → Reading (List CriteriaForm)
  | .array items => parseItems origin 0 items
  | j => .fail .notList j

/-- Reads the items of a list as nodes, each at its place. -/
def parseItems (origin : Origin) : Nat → List Json → Reading (List CriteriaForm)
  | _, [] => .accepted []
  | i, j :: js =>
    List.cons <$> (parse origin j).under (.item i) <*> parseItems origin (i + 1) js

end

/-! ## Checked trees -/

/-- The subject of a node as a value. -/
def subjectValue : Option String → Value
  | some s => .text s
  | none => .null

mutual

/-- **The checked tree of a form**; the first faulty node after its children is reported. -/
def toNode : CriteriaForm → Except ScriptError Node
  | node o subject operands children =>
    match toNodes children with
    | .error e => .error e
    | .ok ns => Node.ofParts o (subjectValue subject) (operands.getD []) ns

/-- The checked trees of a list of forms, from the left. -/
def toNodes : List CriteriaForm → Except ScriptError (List Node)
  | [] => .ok []
  | form :: forms =>
    match toNode form with
    | .error e => .error e
    | .ok n =>
      match toNodes forms with
      | .error e => .error e
      | .ok ns => .ok (n :: ns)

end

end CriteriaForm

end TraversalScript
