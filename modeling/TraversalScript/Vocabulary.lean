/-!
# Closed vocabularies

The operators of criteria, and the kinds of graph element.

* `Operator`: the seven operators, with `valueCount`, `isCombinator`, `isTemporal`;
* `Kind`: vertex, edge or whole graph;
* `Member`: a word of one of the three vocabularies, told apart by the vocabulary's name.
-/

namespace TraversalScript

/-- The operators of criteria. -/
inductive Operator where
  | isEqual
  | and
  | or
  | before
  | after
  | between
  | present
deriving DecidableEq

namespace Operator

/-- Every operator, in the order in which they are listed. -/
def all : List Operator := [isEqual, and, or, before, after, between, present]

/-- The name of an operator. -/
def name : Operator → String
  | isEqual => "IS_EQUAL"
  | and => "AND"
  | or => "OR"
  | before => "BEFORE"
  | after => "AFTER"
  | between => "BETWEEN"
  | present => "EXISTS"

/-- The operator of a name. -/
def ofName? (s : String) : Option Operator := all.find? (·.name == s)

/-- The number of values that an operator takes. -/
def valueCount : Operator → Nat
  | present | and | or => 0
  | isEqual | before | after => 1
  | between => 2

/-- Whether an operator combines criteria. -/
def isCombinator : Operator → Bool
  | and | or => true
  | _ => false

/-- Whether the values of an operator are moments. -/
def isTemporal : Operator → Bool
  | before | after | between => true
  | _ => false

theorem ofName?_name (o : Operator) : ofName? o.name = some o := by cases o <;> rfl

end Operator

/-- What a domain entity or an element is: a vertex, an edge or a whole graph. -/
inductive Kind where
  | vertex
  | edge
  | graph
deriving DecidableEq

namespace Kind

/-- Every kind, in the order in which they are listed. -/
def all : List Kind := [vertex, edge, graph]

/-- The word for a kind in data. -/
def word : Kind → String
  | vertex => "vertex"
  | edge => "edge"
  | graph => "graph"

/-- The name of a kind. -/
def name : Kind → String
  | vertex => "VERTEX"
  | edge => "EDGE"
  | graph => "GRAPH"

/-- The kind of a word. -/
def ofWord? (s : String) : Option Kind := all.find? (·.word == s)

/-- The kind of a name. -/
def ofName? (s : String) : Option Kind := all.find? (·.name == s)

theorem ofWord?_word (k : Kind) : ofWord? k.word = some k := by cases k <;> rfl

end Kind

/-- A word of one of the three vocabularies. -/
inductive Member where
  | operator (o : Operator)
  | entityKind (k : Kind)
  | elementKind (k : Kind)
deriving DecidableEq

namespace Member

/-- The name of the vocabulary. -/
def vocabulary : Member → String
  | operator _ => "CriteriaType"
  | entityKind _ => "EntityKind"
  | elementKind _ => "ElementKind"

/-- The name of the word. -/
def name : Member → String
  | operator o => o.name
  | entityKind k | elementKind k => k.name

/-- The word as it stands in data. -/
def word : Member → String
  | operator o => o.name
  | entityKind k | elementKind k => k.word

/-- The vocabulary and the name, joined by a point. -/
def path (m : Member) : String := m.vocabulary ++ "." ++ m.name

/-- Every word of the three vocabularies. -/
def all : List Member :=
  Operator.all.map operator ++ Kind.all.map entityKind ++ Kind.all.map elementKind

/-- The member of a path. -/
def ofPath? (s : String) : Option Member := all.find? (·.path == s)

end Member

end TraversalScript
