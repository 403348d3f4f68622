/-!
# Values of other types

Values that no operator takes, by what they show of themselves.

* `OtherOf`: a value by its type, its text in messages and its items;
* `ForeignOf`: codes, sets, ranges, ordered dictionaries, and all other values;
* `ForeignOf.typeName`, `ForeignOf.truthy`, `ForeignOf.isFixed`: what is asked of each of them;
* `rangeItems`: the integers of a range.
-/

namespace TraversalScript

/-- A value of some type, which may be run through for values of `α`. -/
structure OtherOf (α : Type) where
  typeName : String
  /-- Its text in messages, unless it cannot be shown. -/
  shown? : Option String
  truthy : Bool
  /-- Its items, if it can be run through. -/
  items? : Option (List α)
  /-- Whether it can be the key of an entry. -/
  isFixed : Bool
  /-- Whether it is equal to what has its type and its text; otherwise it is equal to nothing. -/
  byText : Bool

/-- A value of another type, over the values of `α` that it may hold. -/
inductive ForeignOf (α : Type) where
  /-- Codes of a byte each. -/
  | codes (fixed : Bool) (cs : List (Fin 256))
  /-- Different values, in the order in which they are run through. -/
  | set (fixed : Bool) (items : List α)
  /-- The integers from a first one on, at a distance, up to one that is left out. -/
  | range (start stop step : Int)
  /-- Entries that keep their order when they are compared. -/
  | entries (es : List (α × α))
  | other (o : OtherOf α)

/-- The number of integers in a range. -/
def rangeCount (start stop step : Int) : Nat :=
  if 0 < step then ((stop - start + step - 1) / step).toNat
  else if step < 0 then ((start - stop - step - 1) / (-step)).toNat
  else 0

/-- The integers of a range. -/
def rangeItems (start stop step : Int) : List Int :=
  (List.range (rangeCount start stop step)).map fun i : Nat => start + i * step

namespace ForeignOf

variable {α : Type}

/-- The empty dictionary that keeps its order when it is compared. -/
@[match_pattern]
abbrev orderedDict : ForeignOf α := entries []

/-- The name of the type. -/
def typeName : ForeignOf α → String
  | codes true _ => "bytes"
  | codes false _ => "bytearray"
  | set false _ => "set"
  | set true _ => "frozenset"
  | range .. => "range"
  | entries _ => "OrderedDict"
  | other o => o.typeName

/-- Whether a foreign value counts as true: what holds nothing does not. -/
def truthy : ForeignOf α → Bool
  | codes _ cs => !cs.isEmpty
  | set _ items => !items.isEmpty
  | range start stop step => rangeCount start stop step != 0
  | entries es => !es.isEmpty
  | other o => o.truthy

/-- Whether a foreign value stays as it is, so that it can be the key of an entry. -/
def isFixed : ForeignOf α → Bool
  | codes fixed _ | set fixed _ => fixed
  | range .. => true
  | entries _ => false
  | other o => o.isFixed

end ForeignOf

end TraversalScript
