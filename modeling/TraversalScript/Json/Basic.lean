import TraversalScript.Value.Shown

/-!
# JSON

* `Json`: what a JSON text stands for, with whole numbers apart from other numbers;
* `Json.insertField`: objects keep one field under a name, in the place of the first;
* `Json.field?`: the field under a name;
* `Json.toValue`: the operand that a JSON value is;
* `Json.ofValue?`: the JSON form of a value, if it has one;
* `Json.isFinite`, `Json.isShort`: whether all numbers are finite, and whether no integer has too
  many digits.
-/

namespace TraversalScript

/-- What a JSON text stands for. -/
inductive Json where
  | null
  | bool (b : Bool)
  | int (n : Int)
  | real (x : Binary64)
  | text (s : String)
  | array (items : List Json)
  | object (fields : List (String × Json))

namespace Json

instance : Inhabited Json := ⟨null⟩

/-- Adds a field: a name that is there already keeps its place and takes the new value. -/
def insertField (fields : List (String × Json)) (name : String) (v : Json) :
    List (String × Json) :=
  if fields.any fun f => f.1 == name then
    fields.map fun f => if f.1 == name then (name, v) else f
  else
    fields ++ [(name, v)]

/-- The field of an object under a name. -/
def field? : Json → String → Option Json
  | object fields, name => fields.lookup name
  | _, _ => none

mutual

/-- The operand that a JSON value is. -/
def toValue : Json → Value
  | null => .null
  | bool b => .bool b
  | int n => .int n
  | real x => .real x
  | text s => .text s
  | array items => .list (toValues items)
  | object fields => .dict (toEntries fields)

/-- The operands that a list of JSON values is. -/
def toValues : List Json → List Value
  | [] => []
  | j :: js => toValue j :: toValues js

/-- The entries of a dictionary that the fields of an object are. -/
def toEntries : List (String × Json) → List (Value × Value)
  | [] => []
  | (name, j) :: fs => (.text name, toValue j) :: toEntries fs

end

mutual

/-- The JSON form of a value; moments, members and foreign values have none. -/
def ofValue? : Value → Option Json
  | .null => some null
  | .bool b => some (bool b)
  | .int n => some (int n)
  | .real x => some (real x)
  | .text s => some (text s)
  | .list items | .tuple items => (ofValues? items).map array
  | .dict entries => (ofEntries? entries).map object
  | _ => none

/-- The JSON forms of a list of values. -/
def ofValues? : List Value → Option (List Json)
  | [] => some []
  | v :: vs => do
    let j ← ofValue? v
    let js ← ofValues? vs
    return j :: js

/-- The fields of an object that the entries of a dictionary are, under texts. -/
def ofEntries? : List (Value × Value) → Option (List (String × Json))
  | [] => some []
  | (.text name, v) :: es => do
    let j ← ofValue? v
    let fs ← ofEntries? es
    return (name, j) :: fs
  | _ => none

end

mutual

/-- Whether every number of a JSON value is finite, so that it can be sent. -/
def isFinite : Json → Bool
  | real x => x.isFinite
  | array items => allFinite items
  | object fields => fieldsFinite fields
  | _ => true

/-- Whether every number of a list of JSON values is finite. -/
def allFinite : List Json → Bool
  | [] => true
  | j :: js => isFinite j && allFinite js

/-- Whether every number of the fields of an object is finite. -/
def fieldsFinite : List (String × Json) → Bool
  | [] => true
  | (_, j) :: fs => isFinite j && fieldsFinite fs

end

mutual

/-- Whether no integer of a JSON value has too many digits. -/
def isShort : Json → Bool
  | int n => isWritable n
  | array items => allShort items
  | object fields => fieldsShort fields
  | _ => true

/-- Whether no integer of a list of JSON values has too many digits. -/
def allShort : List Json → Bool
  | [] => true
  | j :: js => isShort j && allShort js

/-- Whether no integer of the fields of an object has too many digits. -/
def fieldsShort : List (String × Json) → Bool
  | [] => true
  | (_, j) :: fs => isShort j && fieldsShort fs

end

end Json

end TraversalScript
