import TraversalScript.Form.Moment
import TraversalScript.Json.Reader
import TraversalScript.Value.Shown

/-!
# Issues

What is wrong with a part of a form, and where the part is.

* `Step`: one step of the way to a part, a field or an item;
* `Cause`: what is wrong, with `kind`, `message` and `context`;
* `Issue`: a cause, the way to the part, and the part itself.
-/

namespace TraversalScript

/-- One step of the way to a part of a form. -/
inductive Step where
  | field (name : String)
  | item (index : Nat)
deriving DecidableEq

/-- What a form is read from. -/
inductive Origin where
  /-- Data handed over by a caller. -/
  | data
  /-- The body of a request. -/
  | body
deriving DecidableEq

/-- What is wrong with a part of a form. -/
inductive Cause where
  | missing
  | extra
  | notAWord (words : List String)
  | notText
  | emptyText
  | notList
  | notDict
  /-- A form is wanted here and the part is no object. -/
  | notForm (origin : Origin) (name : String)
  | notNumber
  | numberText
  | notWhole
  | wholeText
  | fraction
  | tooLarge
  | notFinite
  | notTruth
  | truthText
  | moment (fault : MomentFault)
  /-- The text of the form is not JSON. -/
  | notJson (complaint : Json.Complaint)
deriving DecidableEq

/-- Words between quotes, as a choice. -/
def choice : List String → String
  | [] => ""
  | [w] => "'" ++ w ++ "'"
  | [v, w] => "'" ++ v ++ "' or '" ++ w ++ "'"
  | w :: ws => "'" ++ w ++ "', " ++ choice ws

namespace Cause

/-- The word for a cause. -/
def kind : Cause → String
  | missing => "missing"
  | extra => "extra_forbidden"
  | notAWord _ => "enum"
  | notText => "string_type"
  | emptyText => "string_too_short"
  | notList => "list_type"
  | notDict => "dict_type"
  | notForm .data _ => "model_type"
  | notForm .body _ => "model_attributes_type"
  | notNumber => "float_type"
  | numberText => "float_parsing"
  | notWhole => "int_type"
  | wholeText => "int_parsing"
  | fraction => "int_from_float"
  | tooLarge => "int_parsing_size"
  | notFinite => "finite_number"
  | notTruth => "bool_type"
  | truthText => "bool_parsing"
  | moment .yearZero => "datetime_parsing"
  | moment _ => "datetime_from_date_parsing"
  | notJson _ => "json_invalid"

/-- A cause in words. -/
def message : Cause → String
  | missing => "Field required"
  | extra => "Extra inputs are not permitted"
  | notAWord words => "Input should be " ++ choice words
  | notText => "Input should be a valid string"
  | emptyText => "String should have at least 1 character"
  | notList => "Input should be a valid list"
  | notDict => "Input should be a valid dictionary"
  | notForm .data name => "Input should be a valid dictionary or instance of " ++ name
  | notForm .body _ => "Input should be a valid dictionary or object to extract fields from"
  | notNumber => "Input should be a valid number"
  | numberText => "Input should be a valid number, unable to parse string as a number"
  | notWhole => "Input should be a valid integer"
  | wholeText => "Input should be a valid integer, unable to parse string as an integer"
  | fraction => "Input should be a valid integer, got a number with a fractional part"
  | tooLarge => "Unable to parse input string as an integer, exceeded maximum size"
  | notFinite => "Input should be a finite number"
  | notTruth => "Input should be a valid boolean"
  | truthText => "Input should be a valid boolean, unable to interpret input"
  | moment .yearZero => "Input should be a valid datetime, " ++ MomentFault.yearZero.words
  | moment fault => "Input should be a valid datetime or date, " ++ fault.words
  | notJson _ => "JSON decode error"

/-- What a cause refers to. -/
def context : Cause → List (String × Json)
  | notAWord words => [("expected", .text (choice words))]
  | emptyText => [("min_length", .int 1)]
  | moment fault => [("error", .text fault.words)]
  | notJson complaint => [("error", .text complaint.words)]
  | _ => []

end Cause

/-- A cause, the way to the part that it is about, and that part. -/
structure Issue where
  cause : Cause
  place : List Step
  part : Json

/-- An issue seen from one step further out. -/
def Issue.under (s : Step) (i : Issue) : Issue := { i with place := s :: i.place }

end TraversalScript
