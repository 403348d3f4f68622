import TraversalScript.Criteria.Node
import TraversalScript.Script.Literal
import TraversalScript.Script.Template

/-!
# Predicates

A criteria tree is written as one predicate of a traversal.

* `Renaming`: the id field of an entity goes under the id property of the store;
* `leafText`: a leaf, its operands written in order and its subject after them;
* `translate`: the predicate of a tree by recursion on the tree;
* `Task`, `run`: the same by a list of tasks and a stack of finished texts, for trees of any depth;
* `predicate`: the predicate of a tree, by the tasks;
* **`predicate_eq_translate`**: the tasks come out as the recursion does, at every tree.
-/

namespace TraversalScript

/-- The id field of an entity, and the property that holds ids in the store. -/
structure Renaming where
  idField : Value
  idProperty : Value

/-- A subject as the store names it. -/
def Renaming.apply (r : Renaming) (subject : Value) : Value :=
  if subject.same r.idField then r.idProperty else subject

/-! ## Leaves -/

/-- A subject as a literal. -/
def subjectText (r : Renaming) (subject : Value) : Except Fault String :=
  (quoteValue (r.apply subject)).mapError .misuse

/-- What an operand is read as for its use. -/
def operandAs {α : Type} (operand : Nat → Except Misuse Value) (read : Value → Except ScriptError α)
    (i : Nat) : Except Fault α := do
  let v ← (operand i).mapError .misuse
  (read v).mapError .script

/-- The text of a literal in a leaf. -/
def literalText (l : Literal) : Except Fault String := l.print.mapError .misuse

/-- The text of a number of milliseconds in a leaf. -/
def countText (n : Int) : Except Fault String := literalText (.count n)

/-- A test on the values of a property. -/
def onValues (o : Operator) (subject : String) (operands : List String) : String :=
  chained [Template.valuesOf.fill [subject], (Template.ofOperator o).fill operands]

/-- The predicate of a leaf. All operands are read before the first of them is written. -/
def leafText (r : Renaming) (o : Operator) (subject : Value)
    (operand : Nat → Except Misuse Value) : Except Fault String :=
  match o with
  | .isEqual => do
    let l ← operandAs operand Literal.ofValue 0
    let v ← literalText l
    let s ← subjectText r subject
    return (Template.ofOperator o).fill [s, v]
  | .before | .after => do
    let m ← operandAs operand toMilliseconds 0
    let v ← countText m
    let s ← subjectText r subject
    return onValues o s [v]
  | .between => do
    let m ← operandAs operand toLong 0
    let n ← operandAs operand toLong 1
    let v ← countText m
    let w ← countText n
    let s ← subjectText r subject
    return onValues o s [v, w]
  | .present | .and | .or => do
    let s ← subjectText r subject
    return (Template.ofOperator o).fill [s]

/-! ## By recursion on the tree -/

mutual

/-- The predicate of a tree. -/
def translate (r : Renaming) : Node → Except Fault String
  | .criteria o s vs ns =>
    if o.isCombinator then translatePair r o ns .outOfRange
    else leafText r o s (Value.itemOf vs)
  | .loose tag s v h ns =>
    match tag with
    | .member (.operator o) =>
      if o.isCombinator then translatePair r o ns h.lack else leafText r o s v.item
    | _ => .error (.ofTag tag)
  | .value _ => .error (.misuse .noAttribute)

/-- The predicate of a combinator over the first two of its children. -/
def translatePair (r : Renaming) (o : Operator) : List Node → Misuse → Except Fault String
  | left :: right :: _, _ => do
    let a ← translate r left
    let b ← translate r right
    return (Template.ofOperator o).fill [a, b]
  | _, lack => .error (.misuse lack)

end

/-! ## By tasks -/

/-- What is still to be done. -/
inductive Task where
  /-- Write the predicate of a tree. -/
  | visit (n : Node)
  /-- Combine the two texts that were finished last. -/
  | join (o : Operator)

/-- What a node comes to: a finished text, or two trees to write and combine. -/
inductive Turn where
  | text (s : String)
  | pair (o : Operator) (left right : Node)

/-- The first two children of a combinator. -/
def pairTurn (o : Operator) : List Node → Misuse → Except Fault Turn
  | left :: right :: _, _ => .ok (.pair o left right)
  | _, lack => .error (.misuse lack)

/-- What a node comes to. -/
def turn (r : Renaming) : Node → Except Fault Turn
  | .criteria o s vs ns =>
    if o.isCombinator then pairTurn o ns .outOfRange
    else (leafText r o s (Value.itemOf vs)).map .text
  | .loose tag s v h ns =>
    match tag with
    | .member (.operator o) =>
      if o.isCombinator then pairTurn o ns h.lack else (leafText r o s v.item).map .text
    | _ => .error (.ofTag tag)
  | .value _ => .error (.misuse .noAttribute)

theorem pairTurn_count {o p : Operator} {ns : List Node} {lack : Misuse} {a b : Node}
    (h : pairTurn o ns lack = .ok (.pair p a b)) : a.count + b.count ≤ Node.countAll ns := by
  match ns, h with
  | left :: right :: more, h =>
    simp only [pairTurn, Except.ok.injEq, Turn.pair.injEq] at h
    obtain ⟨-, rfl, rfl⟩ := h
    simp only [Node.countAll]
    omega
  | [_], h | [], h => simp [pairTurn] at h

theorem map_text_ne_pair {e : Except Fault String} {o : Operator} {a b : Node} :
    e.map Turn.text ≠ .ok (.pair o a b) := by
  cases e <;> simp [Except.map]

/-- The two trees that a node comes to are smaller than it, taken together. -/
theorem turn_count {r : Renaming} {n a b : Node} {o : Operator}
    (h : turn r n = .ok (.pair o a b)) : a.count + b.count < n.count := by
  cases n with
  | criteria p s vs ns =>
    simp only [turn] at h
    split at h
    · have := pairTurn_count h
      simp only [Node.count]
      omega
    · exact absurd h map_text_ne_pair
  | loose tag s v holder ns =>
    simp only [turn] at h
    split at h
    · split at h
      · have := pairTurn_count h
        simp only [Node.count]
        omega
      · exact absurd h map_text_ne_pair
    · simp at h
  | value v => simp [turn] at h

/-- How much work a task is at most. -/
def Task.work : Task → Nat
  | visit n => 2 * n.count
  | join _ => 1

/-- How much work a list of tasks is at most. -/
def workLeft : List Task → Nat
  | [] => 0
  | task :: todo => task.work + workLeft todo

/-- How the tasks come out. -/
inductive Outcome where
  /-- All tasks are done and leave these texts, the last finished first. -/
  | finished (texts : List String)
  /-- A node was refused. -/
  | refused (f : Fault)
  /-- Two texts were to be combined and were not there. -/
  | starved

/-- Does the tasks in order, with the texts finished so far. -/
def run (r : Renaming) (tasks : List Task) (done : List String) : Outcome :=
  match tasks, done with
  | [], done => .finished done
  | .visit n :: todo, done =>
    match _h : turn r n with
    | .error f => .refused f
    | .ok (.text s) => run r todo (s :: done)
    | .ok (.pair o a b) => run r (.visit a :: .visit b :: .join o :: todo) done
  | .join o :: todo, right :: left :: done =>
    run r todo ((Template.ofOperator o).fill [left, right] :: done)
  | .join _ :: _, _ => .starved
termination_by workLeft tasks
decreasing_by
  · have := n.count_pos
    simp only [workLeft, Task.work]
    omega
  · have := turn_count _h
    simp only [workLeft, Task.work]
    omega
  · simp only [workLeft, Task.work]
    omega

/-- The predicate of a tree, by its tasks. -/
def predicate (r : Renaming) (n : Node) : Except Fault String :=
  match run r [.visit n] [] with
  | .finished (s :: _) => .ok s
  | .refused f => .error f
  | .finished [] | .starved => .error (.misuse .outOfRange)

/-! ## The tasks follow the recursion -/

theorem translatePair_eq (r : Renaming) (o : Operator) (ns : List Node) (lack : Misuse) :
    translatePair r o ns lack = match pairTurn o ns lack with
      | .error f => .error f
      | .ok (.text s) => .ok s
      | .ok (.pair o a b) => do
        let x ← translate r a
        let y ← translate r b
        return (Template.ofOperator o).fill [x, y] := by
  match ns with
  | [] | [_] => rfl
  | _ :: _ :: _ => rfl

theorem translate_eq (r : Renaming) (n : Node) :
    translate r n = match turn r n with
      | .error f => .error f
      | .ok (.text s) => .ok s
      | .ok (.pair o a b) => do
        let x ← translate r a
        let y ← translate r b
        return (Template.ofOperator o).fill [x, y] := by
  cases n with
  | criteria o s vs ns =>
    simp only [translate, turn]
    split
    · exact translatePair_eq r o ns _
    · cases leafText r o s (Value.itemOf vs) <;> rfl
  | loose tag s v h ns =>
    simp only [translate, turn]
    split
    · split
      · exact translatePair_eq r _ ns _
      · next o _ => cases leafText r o s v.item <;> rfl
    · rfl
  | value v => rfl

/-- A task that visits a tree finishes the text of the tree, or is refused as the tree is. -/
theorem run_visit (r : Renaming) (n : Node) (todo : List Task) (done : List String) :
    run r (.visit n :: todo) done = match translate r n with
      | .ok s => run r todo (s :: done)
      | .error f => .refused f := by
  rw [translate_eq, run]
  split
  · next h => rw [h]
  · next h => rw [h]
  · next o a b h =>
    have hc := turn_count h
    have ha := a.count_pos
    have hb := b.count_pos
    simp only [h, run_visit r a]
    cases translate r a with
    | error f => rfl
    | ok x =>
      simp only [run_visit r b]
      cases translate r b with
      | error f => rfl
      | ok y => simp [run, bind, Except.bind, pure, Except.pure]
termination_by n.count

/-- **The tasks come out as the recursion does.** -/
theorem predicate_eq_translate (r : Renaming) (n : Node) : predicate r n = translate r n := by
  rw [predicate, run_visit]
  cases translate r n with
  | error f => rfl
  | ok s => simp [run]

end TraversalScript
