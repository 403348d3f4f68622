import TraversalScript.Binary64.Decimal
import TraversalScript.Form.Reading
import TraversalScript.Text.Blank

/-!
# Reply forms

What the service answers, as forms that can be read back.

* `AnswerForm`: the scripts and how long they took;
* `HealthForm`: the state of the service and of its parts;
* `FaultForm`: a fault under its kind, in words;
* `RefusalForm`: a fault, or a list of issues.
-/

namespace TraversalScript

namespace Reading

/-- The double that a text spells: blanks around it do not count, and in a text without them single
underscores may stand between its characters. -/
def doubleOfText? (s : String) : Option Binary64 :=
  match spelled? (trimWhite s.toList) with
  | some x => some x
  | none => (ungrouped? s.toList).bind spelled?
where
  /-- The double that characters spell, the names of infinity and not-a-number included. -/
  spelled? (cs : List Char) : Option Binary64 :=
    let (negative, rest) := spanSign cs
    let word := rest.map Char.toLower
    if word = "inf".toList ∨ word = "infinity".toList then some (.infinity negative)
    else if word = "nan".toList then some .nan
    else (Decimal.magnitude? rest).map (Binary64.ofDecimal negative)

/-- A number as a double. -/
def double : Json → Reading Binary64
  | .bool b => accepted (.ofInt (if b then 1 else 0))
  | .int n => if (Binary64.ofInt n).isFinite then accepted (.ofInt n) else fail .notNumber (.int n)
  | .real x => accepted x
  | .text s =>
    match doubleOfText? s with
    | some x => accepted x
    | none => fail .numberText (.text s)
  | j => fail .notNumber j

/-- The fields of an object, every one a text. -/
def texts : List (String × Json) → Reading (List (String × String))
  | [] => accepted []
  | (name, j) :: fields =>
    (fun s rest => (name, s) :: rest) <$> (text j).under (.field name) <*> texts fields

/-- An object whose fields are texts. -/
def textDict (j : Json) : Reading (List (String × String)) := (dict j).andThen texts

/-- An object, or nothing. -/
def dictOrNull : Json → Reading (Option (List (String × Json)))
  | .null => accepted none
  | j => some <$> dict j

/-- An array, every item read the same way. -/
def list {α : Type} (read : Json → Reading α) (j : Json) : Reading (List α) :=
  (array j).andThen (items read 0)

end Reading

/-! ## Scripts -/

/-- The scripts that were written, and how long it took in milliseconds. -/
structure AnswerForm where
  scripts : List String
  latency : Binary64

/-- Reads an answer; fields that are not known do not count. -/
def AnswerForm.parse : Json → Reading AnswerForm
  | .object fields =>
    AnswerForm.mk
      <$> Reading.required fields "scripts" (Reading.list Reading.text)
      <*> Reading.required fields "latency_ms" Reading.double
  | j => .fail (.notForm .data "FindScriptResponse") j

/-! ## Health -/

/-- The state of the service and of its parts. -/
structure HealthForm where
  status : String
  services : List (String × String)
  version : String

/-- Reads a state. -/
def HealthForm.parse : Json → Reading HealthForm
  | .object fields =>
    (fun s parts v _ => ⟨s, parts, v⟩)
      <$> Reading.required fields "status" Reading.text
      <*> Reading.optional fields "services" [] Reading.textDict
      <*> Reading.required fields "version" Reading.text
      <*> Reading.noOthers ["status", "services", "version"] fields
  | j => .fail (.notForm .data "HealthResponse") j

/-! ## Faults -/

/-- A fault under its kind, in words. -/
structure FaultForm where
  error : String
  message : String
  detail : Option (List (String × Json))

/-- Reads a fault. -/
def FaultForm.parse : Json → Reading FaultForm
  | .object fields =>
    (fun e m d _ => ⟨e, m, d⟩)
      <$> Reading.required fields "error" Reading.text
      <*> Reading.required fields "message" Reading.text
      <*> Reading.optional fields "detail" none Reading.dictOrNull
      <*> Reading.noOthers ["error", "message", "detail"] fields
  | j => .fail (.notForm .data "ErrorResponse") j

/-- Why a request was refused: a fault, or a list of issues. -/
inductive RefusalForm where
  | fault (f : FaultForm)
  | issues (is : List (List (String × Json)))

namespace RefusalForm

/-- Reads what was refused as a fault, else as a list; the issues of both count. -/
def parseDetail (j : Json) : Reading RefusalForm :=
  match FaultForm.parse j, Reading.list Reading.dict j with
  | .accepted f, _ => .accepted (fault f)
  | .refused .., .accepted is => .accepted (issues is)
  | first@(.refused ..), second =>
    (fun f _ => fault f) <$> first.under (.field "ErrorResponse")
      <*> second.under (.field "list[dict[str,any]]")

/-- Reads a refusal; fields that are not known do not count. -/
def parse : Json → Reading RefusalForm
  | .object fields => Reading.required fields "detail" parseDetail
  | j => .fail (.notForm .data "HTTPErrorResponse") j

end RefusalForm

end TraversalScript
