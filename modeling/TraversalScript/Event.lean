import TraversalScript.Fault

/-!
# Events

* `Event`: what is worth a line in the log while a request is served;
* `Traced`: steps that note events and may be refused, with `Traced.outcome`.
-/

namespace TraversalScript

/-- What is worth a line in the log while a request is served. -/
inductive Event where
  /-- A predicate was written. -/
  | compiled (tag label : Value) (fragment : String)
  /-- A script was written. -/
  | generated (label : Value) (script : String)
  /-- A request was answered, in so many milliseconds. -/
  | answered (count : Nat) (label : Value) (took : Binary64)
  /-- A request was refused. -/
  | failed (kind : ErrorKind) (message : String)

/-- Steps that note events, and keep them when they are refused. -/
abbrev Traced := ExceptT Fault (StateM (List Event))

namespace Traced

/-- Notes an event. -/
def note (e : Event) : Traced Unit := modify (· ++ [e])

/-- A step without events. -/
def ofExcept {α : Type} (x : Except Fault α) : Traced α := ExceptT.mk (pure x)

/-- What comes of the steps, and the events on the way. -/
def outcome {α : Type} (x : Traced α) : Except Fault α × List Event := StateT.run (ExceptT.run x) []

end Traced

end TraversalScript
