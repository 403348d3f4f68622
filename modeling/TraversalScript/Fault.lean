import TraversalScript.Value.Shown

/-!
# Faults

Why a criteria tree, an entity or an element is refused.

* `ErrorKind`: the kinds of refusal;
* `ScriptError`: the causes, with `kind`, `message` and `detail`;
* `Report`: a kind with a message and a detail, as callers see it;
* `Fault`: a refusal or a misuse of a value;
* `Fault.ofTag`: what becomes of a tag that is no operator.
-/

namespace TraversalScript

/-- The kinds of refusal. -/
inductive ErrorKind where
  | unsupportedOperator
  | unsupportedScope
  | typeMismatch
  | unsupportedValue
  | malformedCriteria
deriving DecidableEq

namespace ErrorKind

/-- Every kind of refusal. -/
def all : List ErrorKind :=
  [unsupportedOperator, unsupportedScope, typeMismatch, unsupportedValue, malformedCriteria]

/-- The word for a kind in data. -/
def word : ErrorKind → String
  | unsupportedOperator => "unsupported_operator"
  | unsupportedScope => "unsupported_scope"
  | typeMismatch => "type_mismatch"
  | unsupportedValue => "unsupported_value"
  | malformedCriteria => "malformed_criteria"

/-- The name of a kind. -/
def name : ErrorKind → String
  | unsupportedOperator => "UNSUPPORTED_OPERATOR"
  | unsupportedScope => "UNSUPPORTED_SCOPE"
  | typeMismatch => "TYPE_MISMATCH"
  | unsupportedValue => "UNSUPPORTED_VALUE"
  | malformedCriteria => "MALFORMED_CRITERIA"

/-- The kind of a name. -/
def ofName? (s : String) : Option ErrorKind := all.find? (·.name == s)

end ErrorKind

/-! ## Reports -/

/-- A refusal as callers see it. -/
structure Report where
  kind : ErrorKind
  message : String
  detail : Value

namespace Report

/-- A report; a detail that counts as false is the empty dictionary. -/
def ofParts (kind : ErrorKind) (message : String) (detail : Value) : Report :=
  ⟨kind, message, if detail.truthy then detail else .dict []⟩

/-- A report as messages show it. -/
def shown (r : Report) : String :=
  "GremlinScriptError(" ++ r.kind.name ++ ", " ++ shownText r.message ++ ")"

end Report

/-! ## Causes -/

/-- What an operand is wanted as. -/
inductive Use where
  | literal
  | time
  | long
deriving DecidableEq

/-- The word for a use. -/
def Use.word : Use → String
  | literal => "literal"
  | time => "time"
  | long => "long"

/-- What keeps a node from the shape that its operator asks for. -/
inductive Malformation where
  | childCount (count : Nat)
  | valuesGiven
  | childType (typeName : String)
  | noSubject
  | childrenGiven
  | valueCount (count : Nat)
deriving DecidableEq

/-- The number of children of a combinator. -/
def combinatorArity : Nat := 2

/-- A fault of shape in words, after the name of the operator. -/
def Malformation.words (o : Operator) : Malformation → String
  | childCount n =>
    "requires exactly " ++ shownInt combinatorArity ++ " sub-criteria, got " ++ shownInt n
  | valuesGiven => "takes no values"
  | childType t => "children must be Criteria, got " ++ t
  | noSubject => "requires a subject"
  | childrenGiven => "takes no sub-criteria"
  | valueCount n => "requires " ++ shownInt o.valueCount ++ " value(s), got " ++ shownInt n

/-- Why a criteria tree, an entity or an element is refused. -/
inductive ScriptError where
  /-- The tag of a node is no operator. -/
  | unsupportedOperator (tag : Value)
  /-- The kind of an entity is none of the kinds. -/
  | unknownKind (kind : Value)
  /-- A script is asked for a whole graph. -/
  | graphScope (label : Value)
  /-- An element is neither a vertex nor an edge. -/
  | notAnElement (kind : Value)
  /-- An operand cannot be written as what it is wanted as. -/
  | unsupportedValue (typeName : String) (use : Use)
  /-- A node has not the shape that its operator asks for. -/
  | malformed (operator : Operator) (subject : Value) (reason : Malformation)

namespace ScriptError

/-- The kind of a refusal. -/
def kind : ScriptError → ErrorKind
  | unsupportedOperator _ => .unsupportedOperator
  | unknownKind _ | graphScope _ => .unsupportedScope
  | notAnElement _ => .typeMismatch
  | unsupportedValue .. => .unsupportedValue
  | malformed .. => .malformedCriteria

/-- A refusal in words. -/
def message : ScriptError → String
  | unsupportedOperator tag => "unsupported Criteria type: " ++ tag.shown
  | unknownKind k => "Unknown entity kind: " ++ k.shown
  | graphScope _ => "Cannot generate script from graph entity"
  | notAnElement _ => "source type can only be Vertex or Edge"
  | unsupportedValue t use => "Unsupported " ++ use.word ++ " value of type " ++ t
  | malformed o _ reason => o.name ++ " " ++ reason.words o

/-- The kind of an element as a mismatch names it: the word of an element kind, else as shown. -/
def elementKindText : Value → String
  | .member (.elementKind k) => k.word
  | v => v.shown

/-- The offending values under their names. -/
def detail : ScriptError → List (String × Value)
  | unsupportedOperator tag => [("type", .text tag.shown)]
  | unknownKind k => [("entity_kind", .text k.shown)]
  | graphScope label => [("entity_kind", .text Kind.graph.word), ("entity_label", label)]
  | notAnElement k => [("kind", .text (elementKindText k))]
  | unsupportedValue t use => [("value_type", .text t), ("target", .text use.word)]
  | malformed o subject _ => [("type", .text o.name), ("subject", subject)]

end ScriptError

/-- A refusal, or a misuse of a value on the way. -/
inductive Fault where
  | script (e : ScriptError)
  | misuse (m : Misuse)

namespace Fault

instance : Inhabited Fault := ⟨misuse .noAttribute⟩

/-- What becomes of a tag that is no operator: it is refused with its text, unless there is none. -/
def ofTag (tag : Value) : Fault :=
  if tag.isShowable then script (.unsupportedOperator tag) else misuse .badValue

end Fault

end TraversalScript
