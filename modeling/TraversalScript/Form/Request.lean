import TraversalScript.Form.Criteria
import TraversalScript.Form.Entity

/-!
# Request forms

* `RequestForm`: a criteria tree with the entity that it is about;
* **`RequestForm.parse`**: reads a form, all issues in the order of the fields.
-/

namespace TraversalScript

/-- A request for scripts as it was read. -/
structure RequestForm where
  criteria : CriteriaForm
  entity : EntityForm

namespace RequestForm

/-- The name of the form. -/
def formName : String := "FindScriptRequest"

/-- The names of the fields, in their order. -/
def fieldNames : List String := ["criteria", "entity"]

/-- A request of the fields of an object. -/
def ofFields (origin : Origin) (fields : List (String × Json)) : Reading RequestForm :=
  (fun c e _ => ⟨c, e⟩)
    <$> Reading.required fields "criteria" (CriteriaForm.parse origin)
    <*> Reading.required fields "entity" (EntityForm.parse origin)
    <*> Reading.noOthers fieldNames fields

/-- **Reads a request.** -/
def parse (origin : Origin) : Json → Reading RequestForm
  | .object fields => ofFields origin fields
  | j => .fail (.notForm origin formName) j

end RequestForm

end TraversalScript
