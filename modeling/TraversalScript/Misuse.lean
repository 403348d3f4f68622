/-!
# Misuse of values

* `Misuse`: the ways in which a value is asked for something that it does not have.
-/

namespace TraversalScript

/-- What goes wrong when a value is asked for something that it does not have. -/
inductive Misuse where
  /-- The value has no such part or operation. -/
  | noAttribute
  /-- The operation is not meant for values of this type, or is given the wrong arguments. -/
  | wrongType
  /-- There is no item at this place. -/
  | outOfRange
  /-- There is no entry under this key. -/
  | noKey
  /-- The type is right and the value is not. -/
  | badValue
  /-- The number is too large. -/
  | tooLarge
  /-- The value cannot be changed. -/
  | frozen
deriving DecidableEq

end TraversalScript
