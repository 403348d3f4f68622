import TraversalScript.Script.Find

/-!
# Scripts written out

Predicates and scripts without templates: every text of them stands where it is written.

* `Operator.joiner?`: the opening of the step that joins two predicates;
* `leafSpelling`: the predicate of a leaf, its operands first and its subject after them;
* `spelling`: the predicate of a tree by recursion on the tree;
* `fill_step1`, `fill_step2`, `fill_within`: filled templates as text;
* **`predicate_eq_spelling`**: the predicate of a tree is the one written out;
* `findSpelling`, **`generate_eq`**: the script around a predicate, and what can go wrong before it.
-/

namespace TraversalScript

/-- The opening of the step that joins two predicates. -/
def Operator.joiner? : Operator → Option String
  | .and => some "and("
  | .or => some "or("
  | _ => none

theorem Operator.isSome_joiner? (o : Operator) : o.joiner?.isSome = o.isCombinator := by
  cases o <;> rfl

/-! ## The text of a tree -/

/-- A test on the values of a property. -/
def valuesSpelling (subject test : String) : String := "values(" ++ subject ++ ").is(" ++ test ++ ")"

/-- The predicate of a leaf. -/
def leafSpelling (r : Renaming) (o : Operator) (subject : Value)
    (operand : Nat → Except Misuse Value) : Except Fault String :=
  match o with
  | .present | .and | .or => do
    let s ← subjectText r subject
    return "has(" ++ s ++ ")"
  | .isEqual => do
    let l ← operandAs operand Literal.ofValue 0
    let v ← literalText l
    let s ← subjectText r subject
    return "has(" ++ s ++ ", " ++ v ++ ")"
  | .before => do
    let m ← operandAs operand toMilliseconds 0
    let v ← countText m
    let s ← subjectText r subject
    return valuesSpelling s ("lt(" ++ v ++ ")")
  | .after => do
    let m ← operandAs operand toMilliseconds 0
    let v ← countText m
    let s ← subjectText r subject
    return valuesSpelling s ("gt(" ++ v ++ ")")
  | .between => do
    let low ← operandAs operand toLong 0
    let high ← operandAs operand toLong 1
    let v ← countText low
    let w ← countText high
    let s ← subjectText r subject
    return valuesSpelling s ("between(" ++ v ++ ", " ++ w ++ ")")

mutual

/-- The predicate of a tree. -/
def spelling (r : Renaming) : Node → Except Fault String
  | .criteria o s vs ns =>
    match o.joiner? with
    | some opening => pairSpelling r opening ns .outOfRange
    | none => leafSpelling r o s (Value.itemOf vs)
  | .loose (.member (.operator o)) s v h ns =>
    match o.joiner? with
    | some opening => pairSpelling r opening ns h.lack
    | none => leafSpelling r o s v.item
  | .loose tag _ _ _ _ => .error (.ofTag tag)
  | .value _ => .error (.misuse .noAttribute)

/-- The predicates of the first two trees of a list, joined; with fewer trees none is looked at. -/
def pairSpelling (r : Renaming) (opening : String) : List Node → Misuse → Except Fault String
  | left :: right :: _, _ =>
    match spelling r left with
    | .error f => .error f
    | .ok a =>
      match spelling r right with
      | .error f => .error f
      | .ok b => .ok (opening ++ a ++ ", " ++ b ++ ")")
  | _, lack => .error (.misuse lack)

end

/-! ## Filled templates -/

section Templates

variable (name a b : String)

theorem fill_step1 : (Template.step1 name).fill [a] = name ++ "(" ++ a ++ ")" := by
  simp [Template.step1, Template.fill, String.append_assoc]

theorem fill_step2 : (Template.step2 name).fill [a, b] = name ++ "(" ++ a ++ ", " ++ b ++ ")" := by
  simp [Template.step2, Template.fill, String.append_assoc]

theorem fill_append_text (pieces : Template) (args : List String) :
    Template.fill (pieces ++ [.text b]) args = pieces.fill args ++ b := by
  induction pieces generalizing args with
  | nil => simp [Template.fill]
  | cons piece pieces ih =>
    cases piece with
    | text s => simp [Template.fill, ih, String.append_assoc]
    | slot => cases args <;> simp [Template.fill, ih, String.append_assoc]

theorem fill_within (inner : Template) (args : List String) :
    (Template.within name inner).fill args = name ++ "(" ++ inner.fill args ++ ")" := by
  rw [Template.within, fill_append_text]
  simp [Template.fill, String.append_assoc]

theorem onValues_eq {o : Operator} {operands : List String} {test : String}
    (h : (Template.ofOperator o).fill operands = "is(" ++ test ++ ")") :
    onValues o a operands = valuesSpelling a test := by
  have hp : ")." ++ "is(" = ").is(" := rfl
  rw [onValues, h, Template.valuesOf, fill_step1, chained]
  simp only [String.intercalate_cons_cons, String.intercalate_singleton, valuesSpelling, ← hp,
    String.append_assoc]
  rfl

theorem onValues_comparison (m : String) :
    onValues .before a [m] = valuesSpelling a ("lt(" ++ m ++ ")") ∧
      onValues .after a [m] = valuesSpelling a ("gt(" ++ m ++ ")") := by
  constructor <;> refine onValues_eq a ?_ <;>
    · rw [Template.ofOperator, fill_within, fill_step1]
      rfl

theorem onValues_between (low high : String) :
    onValues .between a [low, high] = valuesSpelling a ("between(" ++ low ++ ", " ++ high ++ ")") := by
  refine onValues_eq a ?_
  rw [Template.ofOperator, fill_within, fill_step2]
  rfl

end Templates

/-! ## The two texts agree -/

theorem leafText_eq_spelling (r : Renaming) {o : Operator} (ho : o.joiner? = none)
    (subject : Value) (operand : Nat → Except Misuse Value) :
    leafText r o subject operand = leafSpelling r o subject operand := by
  cases o with
  | and | or => cases ho
  | isEqual | present =>
    simp only [leafText, leafSpelling, Template.ofOperator, fill_step1, fill_step2]
    rfl
  | before | after => simp only [leafText, leafSpelling, onValues_comparison]
  | between => simp only [leafText, leafSpelling, onValues_between]

theorem fill_joiner {o : Operator} {opening : String} (ho : o.joiner? = some opening)
    (a b : String) : (Template.ofOperator o).fill [a, b] = opening ++ a ++ ", " ++ b ++ ")" := by
  cases o with
  | and | or =>
    cases ho
    rw [Template.ofOperator, fill_step2]
    rfl
  | _ => cases ho

mutual

theorem translate_eq_spelling (r : Renaming) (n : Node) : translate r n = spelling r n := by
  cases n with
  | criteria o s vs ns =>
    rw [translate, spelling]
    rw [← o.isSome_joiner?]
    cases ho : o.joiner? with
    | none => exact leafText_eq_spelling r ho s _
    | some opening => exact translatePair_eq_spelling r ho ns _
  | loose tag s v h ns =>
    by_cases ht : ∃ o, tag = .member (.operator o)
    · obtain ⟨o, rfl⟩ := ht
      rw [translate, spelling, ← o.isSome_joiner?]
      cases ho : o.joiner? with
      | none => exact leafText_eq_spelling r ho s _
      | some opening => exact translatePair_eq_spelling r ho ns _
    · rw [translate, spelling]
      all_goals exact fun o h => ht ⟨o, h⟩
  | value v => rw [translate, spelling]

theorem translatePair_eq_spelling (r : Renaming) {o : Operator} {opening : String}
    (ho : o.joiner? = some opening) (ns : List Node) (lack : Misuse) :
    translatePair r o ns lack = pairSpelling r opening ns lack := by
  match ns with
  | [] | [_] => rfl
  | left :: right :: more =>
    simp only [translatePair, pairSpelling, translate_eq_spelling r left,
      translate_eq_spelling r right, fill_joiner ho]
    cases spelling r left with
    | error f => rfl
    | ok a => cases spelling r right <;> rfl

end

/-- **The predicate of a tree is the one written out.** -/
theorem predicate_eq_spelling (r : Renaming) (n : Node) : predicate r n = spelling r n := by
  rw [predicate_eq_translate, translate_eq_spelling]

/-! ## Find scripts -/

/-- The script of a scope, a label under its property, and a predicate. -/
def findSpelling (scope property label fragment : String) : String :=
  "g." ++ scope ++ ".has(" ++ property ++ ", " ++ label ++ ").where(" ++ fragment ++ ")"

theorem chained_eq_findSpelling (scope property label fragment : String) :
    chained ["g", scope, (Template.ofOperator .isEqual).fill [property, label],
      Template.whereStep.fill [fragment]] = findSpelling scope property label fragment := by
  rw [Template.ofOperator, fill_step2, Template.whereStep, fill_step1, ← String.toList_inj]
  simp [chained, findSpelling]

/-- **The scripts for a tree and an entity**: the scope is looked at first, then the property of
labels, the label, and the tree. -/
theorem Finder.generate_eq (f : Finder) (n : Node) (e : Entity) :
    f.generate n e = do
      let scope ← scope e
      let property ← (quoteValue f.labelProperty).mapError .misuse
      let label ← (quoteValue e.label).mapError .misuse
      let fragment ← spelling ⟨e.idField, f.idProperty⟩ n
      return [findSpelling scope property label fragment] := by
  simp only [generate, trace, compile, labelStep, predicate_eq_spelling, ← chained_eq_findSpelling]
  cases scope e with
  | error x => rfl
  | ok scope =>
    cases quoteValue f.labelProperty with
    | error x => rfl
    | ok property =>
      cases quoteValue e.label with
      | error x => rfl
      | ok label => cases spelling ⟨e.idField, f.idProperty⟩ n <;> rfl

end TraversalScript
