import TraversalScript.Proofs.Spelling

/-!
# How scripts are put together

A script is a scope, a test on the label and a predicate, and the first of these that cannot be
written is what the script is refused for.

* `Kind.scope?`: the step that takes all elements of a kind;
* `Finder.afterScope`: what follows the scope, which the kind of the entity has no part in;
* `Finder.Outcome`: what comes of a tree and an entity, one case for each way in which it can end;
* **`script_assembly`**: scripts are put together so, whatever the tree, and the kind of the entity
  shows in the scope alone.
-/

namespace TraversalScript

/-- The step that takes all elements of a kind; a whole graph has none. -/
def Kind.scope? : Kind → Option String
  | .vertex => some "V()"
  | .edge => some "E()"
  | .graph => none

namespace Finder

variable (f : Finder) (n : Node) (e : Entity)

/-- A script after its scope: the property of labels is looked at first, then the label, and then
the tree. -/
def afterScope : Except Fault String := do
  let property ← (quoteValue f.labelProperty).mapError .misuse
  let label ← (quoteValue e.label).mapError .misuse
  let fragment ← (f.compile n e).outcome.1
  return ".has(" ++ property ++ ", " ++ label ++ ").where(" ++ fragment ++ ")"

/-- What comes of a tree and an entity. -/
inductive Outcome : Except Fault (List String) → Prop
  /-- A whole graph has no scope. -/
  | graph (kind : e.kind = .graph) : Outcome (.error (.script (.graphScope e.label)))
  /-- The property of labels is no text. -/
  | property {scope : String} {m : Misuse} (kind : e.kind.scope? = some scope)
      (property : quoteValue f.labelProperty = .error m) : Outcome (.error (.misuse m))
  /-- The label is no text. -/
  | label {scope p : String} {m : Misuse} (kind : e.kind.scope? = some scope)
      (property : quoteValue f.labelProperty = .ok p) (label : quoteValue e.label = .error m) :
      Outcome (.error (.misuse m))
  /-- The tree is refused. -/
  | tree {scope p l : String} {x : Fault} (kind : e.kind.scope? = some scope)
      (property : quoteValue f.labelProperty = .ok p) (label : quoteValue e.label = .ok l)
      (fragment : (f.compile n e).outcome.1 = .error x) : Outcome (.error x)
  /-- Everything is written, and the predicate is copied as it is. -/
  | script {scope p l t : String} (kind : e.kind.scope? = some scope)
      (property : quoteValue f.labelProperty = .ok p) (label : quoteValue e.label = .ok l)
      (fragment : (f.compile n e).outcome.1 = .ok t) :
      Outcome (.ok ["g." ++ scope ++ ".has(" ++ p ++ ", " ++ l ++ ").where(" ++ t ++ ")"])

/-! ## Scope and rest -/

theorem append_afterScope (s p l t : String) :
    "g." ++ s ++ (".has(" ++ p ++ ", " ++ l ++ ").where(" ++ t ++ ")") =
      "g." ++ s ++ ".has(" ++ p ++ ", " ++ l ++ ").where(" ++ t ++ ")" := by
  simp only [String.append_assoc]

theorem compile_outcome : (f.compile n e).outcome.1 = predicate ⟨e.idField, f.idProperty⟩ n := by
  rw [compile]
  cases predicate ⟨e.idField, f.idProperty⟩ n <;> rfl

theorem scope_eq : scope e = match e.kind.scope? with
    | some s => .ok s
    | none => .error (.script (.graphScope e.label)) := by
  rw [scope]
  cases e.kind <;> rfl

/-- A script is its scope and what follows it. -/
theorem generate_eq_scope : f.generate n e = match e.kind.scope? with
    | some s => (f.afterScope n e).map fun rest => ["g." ++ s ++ rest]
    | none => .error (.script (.graphScope e.label)) := by
  rw [generate_eq, scope_eq, afterScope, compile_outcome, predicate_eq_spelling]
  cases e.kind.scope? with
  | none => rfl
  | some s =>
    cases (quoteValue f.labelProperty).mapError Fault.misuse with
    | error x => rfl
    | ok p =>
      cases (quoteValue e.label).mapError Fault.misuse with
      | error x => rfl
      | ok l =>
        cases spelling ⟨e.idField, f.idProperty⟩ n with
        | error x => rfl
        | ok t => exact congrArg (fun script => Except.ok [script]) (append_afterScope s p l t).symm

/-- What follows the scope is the same for all kinds. -/
theorem afterScope_kind (k : Kind) : f.afterScope n { e with kind := k } = f.afterScope n e := by
  simp only [afterScope, compile_outcome]

/-! ## Outcomes -/

variable {f n e}

/-- What is generated is an outcome. -/
theorem outcome_generate : f.Outcome n e (f.generate n e) := by
  rw [generate_eq_scope]
  cases hk : e.kind.scope? with
  | none =>
    refine .graph ?_
    cases h : e.kind <;> simp [h, Kind.scope?] at hk ⊢
  | some s =>
    cases hp : quoteValue f.labelProperty with
    | error m =>
      rw [afterScope, hp]
      exact .property hk hp
    | ok p =>
      cases hl : quoteValue e.label with
      | error m =>
        rw [afterScope, hp, hl]
        exact .label hk hp hl
      | ok l =>
        cases ht : (f.compile n e).outcome.1 with
        | error x =>
          rw [afterScope, hp, hl, ht]
          exact .tree hk hp hl ht
        | ok t =>
          rw [afterScope, hp, hl, ht]
          have := Outcome.script hk hp hl ht
          rw [← append_afterScope] at this
          exact this

/-- An outcome is what is generated. -/
theorem Outcome.generate_eq {x : Except Fault (List String)} (h : f.Outcome n e x) :
    f.generate n e = x := by
  rw [generate_eq_scope]
  cases h with
  | graph kind => rw [kind]; rfl
  | property kind property => rw [kind, afterScope, property]; rfl
  | label kind property label => rw [kind, afterScope, property, label]; rfl
  | tree kind property label fragment => rw [kind, afterScope, property, label, fragment]; rfl
  | script kind property label fragment =>
    rw [kind, afterScope, property, label, fragment, ← append_afterScope]
    rfl

end Finder

/-- **Scripts are put together from a scope, a test on the label and a predicate**, and refused for
the first of these that cannot be written; a whole graph is refused before anything else is looked
at, and vertices and edges differ in the scope alone. -/
theorem script_assembly (f : Finder) (n : Node) (e : Entity) :
    (∀ x, f.generate n e = x ↔ f.Outcome n e x) ∧
      (e.kind = .graph → ∃ err : ScriptError, f.generate n e = .error (.script err) ∧
        err.kind = .unsupportedScope ∧ err.message = "Cannot generate script from graph entity" ∧
        err.detail = [("entity_kind", .text "graph"), ("entity_label", e.label)]) ∧
      ∃ rest : Except Fault String,
        f.generate n { e with kind := .vertex } = rest.map (fun t => ["g.V()" ++ t]) ∧
        f.generate n { e with kind := .edge } = rest.map fun t => ["g.E()" ++ t] := by
  refine ⟨fun x => ⟨?_, fun h => h.generate_eq⟩, fun hk => ?_, f.afterScope n e, ?_, ?_⟩
  · rintro rfl
    exact Finder.outcome_generate
  · exact ⟨.graphScope e.label, (Finder.Outcome.graph hk).generate_eq, rfl, rfl, rfl⟩
  · rw [Finder.generate_eq_scope, Finder.afterScope_kind]
    rfl
  · rw [Finder.generate_eq_scope, Finder.afterScope_kind]
    rfl

/-- A tree of one leaf that nobody checked, with braces and a point in its subject. -/
def bracedLeaf : Node := .loose (.member (.operator .present)) (.text "a.\x7b0\x7d") .null .list []

theorem script_bracedLeaf :
    Finder.generate ⟨.text "id", .text "\x7b\x7d"⟩ bracedLeaf ⟨.text "id", .text "x.y", .edge⟩ =
        .ok ["g.E().has('\x7b\x7d', 'x.y').where(has('a.\x7b0\x7d'))"] ∧
      ∃ err : ScriptError,
        Finder.generate ⟨.null, .int 1⟩ (.value .null) ⟨.null, .null, .graph⟩ =
          .error (.script err) ∧ err.kind = .unsupportedScope := by
  constructor
  · refine ((script_assembly _ _ _).1 _).2 (@Finder.Outcome.script _ _ _ "E()"
      "'\x7b\x7d'" "'x.y'" "has('a.\x7b0\x7d')" rfl rfl rfl ?_)
    rw [Finder.compile_outcome, predicate_eq_translate]
    rfl
  · obtain ⟨err, h, hk, -⟩ := (script_assembly ⟨.null, .int 1⟩ (.value .null)
      ⟨.null, .null, .graph⟩).2.1 rfl
    exact ⟨err, h, hk⟩

end TraversalScript
