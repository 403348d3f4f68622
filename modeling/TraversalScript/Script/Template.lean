import TraversalScript.Fault

/-!
# Script templates

The steps of a script are templates with slots for texts that are already written.

* `Piece`, `Template`: text and slots;
* `Template.text`: a template with braces for its slots;
* `Template.fill`: a template with texts in its slots, which are copied as they are;
* `Template.ofOperator`, `Template.ofTag`: the template of an operator.
-/

namespace TraversalScript

/-- A piece of a template. -/
inductive Piece where
  | text (s : String)
  | slot
deriving DecidableEq

/-- A step of a script with slots. -/
abbrev Template := List Piece

namespace Template

/-- A template with a pair of braces for each slot. -/
def text : Template → String
  | [] => ""
  | .text s :: pieces => s ++ text pieces
  | .slot :: pieces => "\x7b\x7d" ++ text pieces

/-- A template with texts in its slots, the first one in the first slot. -/
def fill : Template → List String → String
  | [], _ => ""
  | .text s :: pieces, args => s ++ fill pieces args
  | .slot :: pieces, [] => fill pieces []
  | .slot :: pieces, arg :: args => arg ++ fill pieces args

/-- A step with one slot. -/
def step1 (name : String) : Template := [.text (name ++ "("), .slot, .text ")"]

/-- A step with two slots. -/
def step2 (name : String) : Template := [.text (name ++ "("), .slot, .text ", ", .slot, .text ")"]

/-- A template inside a step that takes it alone. -/
def within (name : String) (inner : Template) : Template :=
  .text (name ++ "(") :: inner ++ [.text ")"]

/-- The template of an operator. -/
def ofOperator : Operator → Template
  | .isEqual => step2 "has"
  | .present => step1 "has"
  | .before => within "is" (step1 "lt")
  | .after => within "is" (step1 "gt")
  | .between => within "is" (step2 "between")
  | .and => step2 "and"
  | .or => step2 "or"

/-- The template of a tag, which has to be an operator. -/
def ofTag : Value → Except ScriptError Template
  | .member (.operator o) => .ok (ofOperator o)
  | tag => .error (.unsupportedOperator tag)

/-- The step that takes the values of a property. -/
def valuesOf : Template := step1 "values"

/-- The step that keeps what a predicate holds of. -/
def whereStep : Template := step1 "where"

end Template

/-- Steps joined into a traversal. -/
def chained (steps : List String) : String := ".".intercalate steps

end TraversalScript
