import TraversalScript.Form.Reading
import TraversalScript.Script.Entity

/-!
# Entity forms

* `EntityForm`: the entity that a request is about, as it was read;
* `EntityForm.parse`: reads a form, all issues in the order of the fields;
* `EntityForm.toEntity`: the entity itself.
-/

namespace TraversalScript

/-- An entity as it was read; the label is not empty. -/
structure EntityForm where
  idField : String
  label : String
  kind : Kind

namespace EntityForm

/-- The name of the form. -/
def formName : String := "EntityMetadataModel"

/-- The names of the fields, in their order. -/
def fieldNames : List String := ["id_field_name", "entity_label", "entity_kind"]

/-- The id field when none is named. -/
def defaultIdField : String := "id"

/-- An entity of the fields of an object. -/
def ofFields (fields : List (String × Json)) : Reading EntityForm :=
  (fun i l k _ => ⟨i, l, k⟩)
    <$> Reading.optional fields "id_field_name" defaultIdField Reading.text
    <*> Reading.required fields "entity_label" Reading.someText
    <*> Reading.required fields "entity_kind" (Reading.word (Kind.all.map Kind.word) Kind.ofWord?)
    <*> Reading.noOthers fieldNames fields

/-- Reads an entity. -/
def parse (origin : Origin) : Json → Reading EntityForm
  | .object fields => ofFields fields
  | j => .fail (.notForm origin formName) j

/-- The entity of a form. -/
def toEntity (form : EntityForm) : Entity := ⟨.text form.idField, .text form.label, form.kind⟩

end EntityForm

end TraversalScript
