/-!
# Runs

A step takes a state and an input to the next state and an output; a run takes a list of inputs.

* `runSteps`: the state after a list of inputs, and the outputs on the way;
* `runSteps_append`, `runSteps_output`: what a part of a run does does not depend on what follows;
* **`runSteps_invariant`**: what one step preserves holds after every run.
-/

namespace TraversalScript

section

variable {σ α β : Type} (step : σ → α → σ × β)

/-- The state after a list of inputs, and the outputs on the way. -/
def runSteps (s : σ) : List α → σ × List β
  | [] => (s, [])
  | x :: xs => ((runSteps (step s x).1 xs).1, (step s x).2 :: (runSteps (step s x).1 xs).2)

theorem runSteps_append (s : σ) (xs ys : List α) :
    runSteps step s (xs ++ ys) =
      ((runSteps step (runSteps step s xs).1 ys).1,
        (runSteps step s xs).2 ++ (runSteps step (runSteps step s xs).1 ys).2) := by
  induction xs generalizing s with
  | nil => rfl
  | cons x xs ih => simp only [List.cons_append, runSteps, ih]

theorem runSteps_length (s : σ) (xs : List α) : (runSteps step s xs).2.length = xs.length := by
  induction xs generalizing s with
  | nil => rfl
  | cons x xs ih => simp only [runSteps, List.length_cons, ih]

theorem runSteps_concat (s : σ) (xs : List α) (x : α) :
    (runSteps step s (xs ++ [x])).1 = (step (runSteps step s xs).1 x).1 := by
  rw [runSteps_append]
  rfl

/-- The output for an input is that of one step from the state before it, whatever follows. -/
theorem runSteps_output (s : σ) (before after : List α) (x : α) :
    (runSteps step s (before ++ x :: after)).2[before.length]? =
      some (step (runSteps step s before).1 x).2 := by
  have hlength := runSteps_length step s before
  rw [runSteps_append, List.getElem?_append_right (Nat.le_of_eq hlength), hlength, Nat.sub_self]
  rfl

/-- **What one step preserves holds after every run.** -/
theorem runSteps_invariant {P : σ → Prop} (hstep : ∀ s x, P s → P (step s x).1) {s : σ} (hs : P s)
    (xs : List α) : P (runSteps step s xs).1 := by
  induction xs generalizing s with
  | nil => exact hs
  | cons x xs ih => exact ih (hstep s x hs)

end

end TraversalScript
