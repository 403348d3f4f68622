import TraversalScript.Binary64.Shortest
import TraversalScript.Calendar.DateTime
import TraversalScript.Misuse
import TraversalScript.Value.Foreign
import TraversalScript.Vocabulary

/-!
# Values

The values that callers hand over as operands, subjects and labels.

* `Value`: the values, with `typeName` and `truthy`;
* `Foreign`, `Foreign.ofTypeName?`: values of other types, and one for each name of a type;
* `Value.same`: equality, under which numbers agree across types and dictionaries in any order;
* `Value.isKey`, `Value.ofEntries`: dictionaries, whose keys are values that cannot be changed;
* `Value.items?`, `Value.each`: the items of a value that can be run through;
* `Value.tuple?`: the items that a value stands for where a sequence is wanted;
* `Value.item`: the item at a place;
* `Value.assign`: whether a part of a value can be changed.
-/

namespace TraversalScript

/-- A value handed over by a caller. -/
inductive Value where
  | null
  | bool (b : Bool)
  | int (n : Int)
  | real (x : Binary64)
  | text (s : String)
  | list (items : List Value)
  | tuple (items : List Value)
  | dict (entries : List (Value × Value))
  | dateTime (t : DateTime)
  | date (d : Date)
  | member (m : Member)
  | foreign (f : ForeignOf Value)

/-- A value of another type. -/
abbrev Foreign := ForeignOf Value

namespace Foreign

/-- A value of which only the type and its text are known. -/
def plain (typeName shown : String) : Foreign :=
  .other ⟨typeName, some shown, true, none, true, true⟩

/-- A value of each type. -/
def samples : List Foreign :=
  [.codes true [120], .codes false [120], .set false [.int 1], .set true [.int 1], .range 0 3 1,
    .orderedDict, plain "complex" "complex", plain "Decimal" "Decimal",
    plain "Fraction" "Fraction", plain "time" "time", plain "timedelta" "timedelta",
    .other ⟨"object", some "object", true, none, true, false⟩, plain "type" "type",
    plain "ellipsis" "Ellipsis"]

/-- The value that stands for the name of a type. -/
def ofTypeName? (s : String) : Option Foreign := samples.find? (·.typeName == s)

end Foreign

namespace Value

instance : Inhabited Value := ⟨null⟩

/-- The name of the type. -/
def typeName : Value → String
  | null => "NoneType"
  | bool _ => "bool"
  | int _ => "int"
  | real _ => "float"
  | text _ => "str"
  | list _ => "list"
  | tuple _ => "tuple"
  | dict _ => "dict"
  | dateTime _ => "datetime"
  | date _ => "date"
  | member m => m.vocabulary
  | foreign f => f.typeName

/-- The operator that a member or a name stands for. -/
def operator? : Value → Option Operator
  | member (.operator o) => some o
  | text s => Operator.ofName? s
  | _ => none

/-- Whether a value counts as true: nothing, the zeros and the empty collections do not. -/
def truthy : Value → Bool
  | null => false
  | bool b => b
  | int n => n != 0
  | real x => !x.isZero
  | text s => !s.isEmpty
  | list items | tuple items => !items.isEmpty
  | dict entries => !entries.isEmpty
  | foreign f => f.truthy
  | _ => true

/-! ## Equality -/

/-- The integer that a truth value or an integer stands for. -/
def integer? : Value → Option Int
  | bool b => some (if b then 1 else 0)
  | int n => some n
  | _ => none

/-- Equality of numbers across the types of number. -/
def sameNumber : Value → Value → Bool
  | real x, real y => x.same y
  | real x, v | v, real x =>
    match v.integer? with
    | some n => x.sameInt n
    | none => false
  | u, v =>
    match u.integer?, v.integer? with
    | some m, some n => m == n
    | _, _ => false

mutual

/-- Equality of values. -/
def same : Value → Value → Bool
  | null, null => true
  | text s, text t => s == t
  | list xs, list ys => sameItems xs ys
  | tuple xs, tuple ys => sameItems xs ys
  | dict xs, dict ys => xs.length == ys.length && sameEntries xs ys
  | dict xs, foreign (.entries ys) => xs.length == ys.length && sameEntries xs ys
  | foreign (.entries xs), dict ys => xs.length == ys.length && sameEntries xs ys
  | foreign (.entries xs), foreign (.entries ys) => samePairs xs ys
  | foreign (.set _ xs), foreign (.set _ ys) => xs.length == ys.length && sameMembers xs ys
  | dateTime s, dateTime t => s.same t
  | date d, date e => d == e
  | member m, member n => m == n
  | foreign (.codes _ xs), foreign (.codes _ ys) => xs == ys
  | foreign (.range a b c), foreign (.range d e f) => rangeItems a b c == rangeItems d e f
  | foreign (.other o), foreign (.other p) =>
    o.byText && p.byText && o.typeName == p.typeName && o.shown? == p.shown?
  | u, v => sameNumber u v
termination_by structural u => u

/-- Equality of lists of values, place by place. -/
def sameItems : List Value → List Value → Bool
  | [], [] => true
  | x :: xs, y :: ys => same x y && sameItems xs ys
  | _, _ => false
termination_by structural u => u

/-- Whether every entry on the left has an equal one on the right. -/
def sameEntries : List (Value × Value) → List (Value × Value) → Bool
  | [], _ => true
  | (k, v) :: xs, ys => ys.any (fun e => same k e.1 && same v e.2) && sameEntries xs ys
termination_by structural u => u

/-- Equality of lists of entries, place by place. -/
def samePairs : List (Value × Value) → List (Value × Value) → Bool
  | [], [] => true
  | (k, v) :: xs, (l, w) :: ys => same k l && same v w && samePairs xs ys
  | _, _ => false
termination_by structural u => u

/-- Whether every value on the left has an equal one on the right. -/
def sameMembers : List Value → List Value → Bool
  | [], _ => true
  | x :: xs, ys => ys.any (fun y => same x y) && sameMembers xs ys
termination_by structural u => u

end

/-- Adds an entry: a key that is there already keeps its place and takes the new value. -/
def insertEntry (entries : List (Value × Value)) (key value : Value) : List (Value × Value) :=
  if entries.any fun e => key.same e.1 then
    entries.map fun e => if key.same e.1 then (e.1, value) else e
  else
    entries ++ [(key, value)]

mutual

/-- Whether a value can be the key of an entry: what can be changed cannot. -/
def isKey : Value → Bool
  | list _ | dict _ => false
  | tuple items => areKeys items
  | foreign f => f.isFixed
  | _ => true

/-- Whether each value of a list can be the key of an entry. -/
def areKeys : List Value → Bool
  | [] => true
  | v :: vs => isKey v && areKeys vs

end

/-- The dictionary of a list of entries, later ones replacing earlier ones under equal keys. -/
def ofEntries (entries : List (Value × Value)) : Except Misuse Value :=
  if entries.all fun e => e.1.isKey then
    .ok (dict (entries.foldl (fun d e => insertEntry d e.1 e.2) []))
  else .error .wrongType

/-! ## Items -/

/-- The items of a value that can be run through. -/
def items? : Value → Option (List Value)
  | text s => some (s.toList.map fun c => text (String.singleton c))
  | list items | tuple items => some items
  | dict entries => some (entries.map (·.1))
  | foreign (.codes _ cs) => some (cs.map fun c => int c.val)
  | foreign (.set _ items) => some items
  | foreign (.range start stop step) => some ((rangeItems start stop step).map int)
  | foreign (.entries es) => some (es.map (·.1))
  | foreign (.other o) => o.items?
  | _ => none

/-- The items of a value one by one, which it has to have. -/
def each (v : Value) : Except Misuse (List Value) :=
  match v.items? with
  | some items => .ok items
  | none => .error .wrongType

/-- The items of a value where a sequence is wanted; a value that counts as false has none. -/
def tuple? (v : Value) : Except Misuse (List Value) :=
  if v.truthy then v.each else .ok []

/-- The item of a list at a place. -/
def itemOf (items : List Value) (i : Nat) : Except Misuse Value :=
  match items[i]? with
  | some v => .ok v
  | none => .error .outOfRange

/-- The item of a value at a place; dictionaries look the number up as a key. -/
def item (v : Value) (i : Nat) : Except Misuse Value :=
  match v with
  | dict entries | foreign (.entries entries) =>
    match entries.find? fun e => (int i).same e.1 with
    | some e => .ok e.2
    | none => .error .noKey
  | foreign (.set ..) | foreign (.other _) => .error .wrongType
  | _ =>
    match v.items? with
    | some items => itemOf items i
    | none => .error .wrongType

/-- Whether a part of a name can be changed: ordered dictionaries take new parts, and so do members
but for their name and word; a class is the wrong type for it. -/
def assign (name : String) : Value → Except Misuse Unit
  | foreign (.entries _) => .ok ()
  | foreign (.other o) => .error (if o.typeName = "type" then .wrongType else .noAttribute)
  | member _ => if name = "name" ∨ name = "value" then .error .noAttribute else .ok ()
  | _ => .error .noAttribute

end Value

end TraversalScript
