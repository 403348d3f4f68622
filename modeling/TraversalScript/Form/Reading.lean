import TraversalScript.Form.Issue

/-!
# Readings

Reading a form goes on after an issue, so that all issues are found.

* `Reading`: what was read, or the issues found, of which there is at least one;
* `Reading.issues`: the issues, none if something was read;
* `Applicative`: parts are read side by side, and their issues come one after the other;
* `Reading.under`, `Reading.issues_under`: a reading seen from one step further out;
* `Reading.andThen`: a step that is taken only if there is no issue before it.
-/

namespace TraversalScript

/-- What was read, or the issues found. -/
inductive Reading (α : Type) where
  | accepted (a : α)
  | refused (first : Issue) (others : List Issue)

namespace Reading

variable {α β : Type}

/-- The issues found. -/
def issues : Reading α → List Issue
  | accepted _ => []
  | refused i is => i :: is

/-- A part that stands for a value unless there are issues. -/
def ofIssues (a : α) : List Issue → Reading α
  | [] => accepted a
  | i :: is => refused i is

/-- A reading with one issue, about a part. -/
def fail (cause : Cause) (part : Json) : Reading α := refused ⟨cause, [], part⟩ []

/-- What was read, changed. -/
def map (f : α → β) : Reading α → Reading β
  | accepted a => accepted (f a)
  | refused i is => refused i is

/-- Two parts side by side. -/
def seq (f : Reading (α → β)) (x : Unit → Reading α) : Reading β :=
  match f with
  | accepted g => (x ()).map g
  | refused i is => refused i (is ++ (x ()).issues)

instance : Applicative Reading where
  pure := accepted
  map := map
  seq := seq

/-- A reading seen from one step further out. -/
def under (s : Step) : Reading α → Reading α
  | accepted a => accepted a
  | refused i is => refused (i.under s) (is.map (Issue.under s))

/-- A step that is taken only if there is no issue before it. -/
def andThen (x : Reading α) (f : α → Reading β) : Reading β :=
  match x with
  | accepted a => f a
  | refused i is => refused i is

/-- What was read, or the list of issues. -/
def toExcept : Reading α → Except (List Issue) α
  | accepted a => .ok a
  | refused i is => .error (i :: is)

@[simp] theorem issues_pure (a : α) : (pure a : Reading α).issues = [] := rfl

@[simp] theorem issues_map (f : α → β) (x : Reading α) : (f <$> x).issues = x.issues := by
  cases x <;> rfl

@[simp] theorem issues_seq (f : Reading (α → β)) (x : Reading α) :
    (f <*> x).issues = f.issues ++ x.issues := by
  cases f <;> cases x <;> rfl

@[simp] theorem issues_under (s : Step) (x : Reading α) :
    (x.under s).issues = x.issues.map (Issue.under s) := by
  cases x <;> rfl

/-- There are no issues exactly when something was read. -/
theorem issues_eq_nil {x : Reading α} : x.issues = [] ↔ ∃ a, x = accepted a := by
  cases x <;> simp [issues]

/-! ## Plain parts -/

/-- A text. -/
def text : Json → Reading String
  | .text s => accepted s
  | j => fail .notText j

/-- A text or nothing. -/
def textOrNull : Json → Reading (Option String)
  | .null => accepted none
  | j => some <$> text j

/-- A text of at least one character. -/
def someText : Json → Reading String
  | .text s => if s.isEmpty then fail .emptyText (.text s) else accepted s
  | j => fail .notText j

/-- A word of a vocabulary. -/
def word (words : List String) (find : String → Option α) (j : Json) : Reading α :=
  match j with
  | .text s =>
    match find s with
    | some a => accepted a
    | none => fail (.notAWord words) j
  | _ => fail (.notAWord words) j

/-- An array whose items are read as they are. -/
def array : Json → Reading (List Json)
  | .array items => accepted items
  | j => fail .notList j

/-- An object whose fields are read as they are. -/
def dict : Json → Reading (List (String × Json))
  | .object fields => accepted fields
  | j => fail .notDict j

/-- The items of a list, each at its place. -/
def items (read : Json → Reading α) : Nat → List Json → Reading (List α)
  | _, [] => accepted []
  | i, j :: js => List.cons <$> (read j).under (.item i) <*> items read (i + 1) js

/-! ## Fields -/

/-- A field that has to be there; if it is not, the issue is about the whole object. -/
def required (fields : List (String × Json)) (name : String) (read : Json → Reading α) :
    Reading α :=
  match fields.lookup name with
  | some j => (read j).under (.field name)
  | none => (fail .missing (.object fields)).under (.field name)

/-- A field that may be absent. -/
def optional (fields : List (String × Json)) (name : String) (default : α)
    (read : Json → Reading α) : Reading α :=
  match fields.lookup name with
  | some j => (read j).under (.field name)
  | none => accepted default

/-- The fields besides those that are known, one issue each. -/
def noOthers (known : List String) (fields : List (String × Json)) : Reading Unit :=
  ofIssues () ((fields.filter fun f => !known.contains f.1).map fun f =>
    ⟨.extra, [.field f.1], f.2⟩)

end Reading

end TraversalScript
