import TraversalScript.Proofs.Faces

/-!
# Subjects

The id field of an entity goes under the id property of the store, among the subjects of leaves and
nowhere else.

* `Node.subjects`: the subjects of the leaves that a tree is written from;
* `Node.withSubjects`, `Node.renamed`: a tree with the subjects of its leaves changed, and with one
  of them under another name;
* `spelling_withSubjects`: renamings that agree on the subjects of a tree spell it alike;
* `Query.subjects`, `Query.withSubjects`: the subjects of a predicate, and a predicate with others;
* `query?_withSubjects`: what a tree asks for under a renaming;
* **`ids_renamed`**: the predicate of a tree is that of the renamed tree, and its steps are about
  the renamed subjects.
-/

namespace TraversalScript

/-! ## Subjects of trees -/

/-- Whether the nodes of a tag combine others. -/
def Value.combines : Value → Bool
  | member (.operator o) => o.isCombinator
  | _ => false

/-- A value, or a name in its place if it is a certain one. -/
def Value.renamed (name other : String) : Value → Value
  | text s => text (if s = name then other else s)
  | v => v

namespace Node

mutual

/-- The subjects of the leaves that a tree is written from, from left to right. -/
def subjects : Node → List Value
  | criteria o s _ ns => if o.isCombinator then pairSubjects ns else [s]
  | loose (.member (.operator o)) s _ _ ns => if o.isCombinator then pairSubjects ns else [s]
  | _ => []

/-- The subjects of the first two trees of a list. -/
def pairSubjects : List Node → List Value
  | left :: right :: _ => left.subjects ++ right.subjects
  | _ => []

end

mutual

/-- A tree with the subjects of all its leaves changed; those of combinators stay. -/
def withSubjects (f : Value → Value) : Node → Node
  | criteria o s vs ns => criteria o (if o.isCombinator then s else f s) vs (allWithSubjects f ns)
  | loose tag s v h ns => loose tag (if tag.combines then s else f s) v h (allWithSubjects f ns)
  | value v => value v

/-- Trees with the subjects of all their leaves changed. -/
def allWithSubjects (f : Value → Value) : List Node → List Node
  | [] => []
  | n :: ns => n.withSubjects f :: allWithSubjects f ns

end

/-- A tree whose leaves about a certain subject are about another one. -/
def renamed (name other : String) (n : Node) : Node := n.withSubjects (Value.renamed name other)

/-- **The subjects of a tree** are those of its face. -/
theorem subjects_face (n : Node) : n.subjects = match n.face with
    | .pair _ left right => left.subjects ++ right.subjects
    | .leaf _ s _ => [s]
    | .refused _ => [] := by
  have hpair (j : Joint) (ns : List Node) (lack : Misuse) :
      pairSubjects ns = match pairFace j ns lack with
        | .pair _ left right => left.subjects ++ right.subjects
        | .leaf _ s _ => [s]
        | .refused _ => [] := by
    rcases ns with _ | ⟨left, _ | ⟨right, more⟩⟩ <;> rfl
  cases n with
  | criteria o s vs ns =>
    rw [subjects, face, o.isCombinator_eq]
    cases o.joint? with
    | some j => exact hpair j ns _
    | none => rfl
  | loose tag s v h ns =>
    by_cases ht : ∃ o, tag = .member (.operator o)
    · obtain ⟨o, rfl⟩ := ht
      rw [subjects, face, o.isCombinator_eq]
      cases o.joint? with
      | some j => exact hpair j ns _
      | none => rfl
    · rw [face_loose (not_exists.1 ht), subjects]
      · rintro _ _ _ _ ⟨⟩
      · rintro o s v h ns ⟨⟩
        exact ht ⟨o, rfl⟩
  | value v => rfl

/-- **The face of a tree with other subjects** has other subjects. -/
theorem face_withSubjects (f : Value → Value) (n : Node) :
    (n.withSubjects f).face = match n.face with
      | .pair j left right => .pair j (left.withSubjects f) (right.withSubjects f)
      | .leaf o s operand => .leaf o (f s) operand
      | .refused fault => .refused fault := by
  have hpair (j : Joint) (ns : List Node) (lack : Misuse) :
      pairFace j (allWithSubjects f ns) lack = match pairFace j ns lack with
        | .pair j left right => .pair j (left.withSubjects f) (right.withSubjects f)
        | .leaf o s operand => .leaf o (f s) operand
        | .refused fault => .refused fault := by
    rcases ns with _ | ⟨left, _ | ⟨right, more⟩⟩ <;> rfl
  cases n with
  | criteria o s vs ns =>
    rw [withSubjects, face, face, o.isCombinator_eq]
    cases o.joint? with
    | some j => exact hpair j ns _
    | none => rfl
  | loose tag s v h ns =>
    rw [withSubjects]
    by_cases ht : ∃ o, tag = .member (.operator o)
    · obtain ⟨o, rfl⟩ := ht
      rw [Value.combines, face, face, o.isCombinator_eq]
      cases o.joint? with
      | some j => exact hpair j ns _
      | none => rfl
    · rw [face_loose (not_exists.1 ht), face_loose (not_exists.1 ht)]
  | value v => rfl

theorem subjects_withSubjects (f : Value → Value) (n : Node) :
    (n.withSubjects f).subjects = n.subjects.map f := by
  induction n using face_induction with
  | pair n j left right hn ihl ihr =>
    rw [subjects_face, face_withSubjects, subjects_face n, hn]
    simp only [ihl, ihr, List.map_append]
  | leaf n o s operand hn =>
    rw [subjects_face, face_withSubjects, subjects_face n, hn]
    rfl
  | refused n fault hn =>
    rw [subjects_face, face_withSubjects, subjects_face n, hn]
    rfl

end Node

/-! ## Predicates of trees with other subjects -/

section Spelling

variable {r r' : Renaming} {f : Value → Value}

theorem leafSpelling_congr {s s' : Value} (h : r.apply s = r'.apply s') (o : Operator)
    (operand : Nat → Except Misuse Value) :
    leafSpelling r o s operand = leafSpelling r' o s' operand := by
  have ht : subjectText r s = subjectText r' s' := by rw [subjectText, subjectText, h]
  cases o <;> simp only [leafSpelling, ht]

/-- **Renamings that agree on the subjects of a tree spell it alike**, the one as it is and the
other with its subjects changed. -/
theorem spelling_withSubjects (n : Node) (h : ∀ s ∈ n.subjects, r.apply s = r'.apply (f s)) :
    spelling r n = spelling r' (n.withSubjects f) := by
  induction n using Node.face_induction with
  | pair n j left right hn ihl ihr =>
    rw [Node.subjects_face, hn, List.forall_mem_append] at h
    rw [spelling_face, spelling_face, Node.face_withSubjects, hn]
    simp only [ihl h.1, ihr h.2]
  | leaf n o s operand hn =>
    rw [Node.subjects_face, hn] at h
    rw [spelling_face, spelling_face, Node.face_withSubjects, hn]
    exact leafSpelling_congr (h s (List.mem_singleton_self s)) o operand
  | refused n fault hn => rw [spelling_face, spelling_face, Node.face_withSubjects, hn]

end Spelling

/-! ## Subjects of predicates -/

namespace Query

/-- The subjects of the steps of a predicate, from left to right. -/
def subjects : Query → List String
  | present s | equal s _ | before s _ | after s _ | between s _ _ => [s]
  | both left right | either left right => left.subjects ++ right.subjects

/-- A predicate with the subjects of its steps changed. -/
def withSubjects (f : String → String) : Query → Query
  | present s => present (f s)
  | equal s o => equal (f s) o
  | before s m => before (f s) m
  | after s m => after (f s) m
  | between s low high => between (f s) low high
  | both left right => both (left.withSubjects f) (right.withSubjects f)
  | either left right => either (left.withSubjects f) (right.withSubjects f)

/-- A predicate whose steps about a certain subject are about another one. -/
def renamed (name other : String) (q : Query) : Query :=
  q.withSubjects fun s => if s = name then other else s

theorem subjects_withSubjects (f : String → String) (q : Query) :
    (q.withSubjects f).subjects = q.subjects.map f := by
  induction q with
  | both left right ihl ihr | either left right ihl ihr =>
    rw [withSubjects, subjects, subjects, ihl, ihr, List.map_append]
  | _ => rfl

theorem legible_withSubjects {f : String → String} {q : Query} :
    (q.withSubjects f).Legible ↔ q.Legible := by
  induction q with
  | both left right ihl ihr | either left right ihl ihr =>
    simp only [withSubjects, Legible, ihl, ihr]
  | _ => rfl

end Query

section Asked

variable {r r' : Renaming} {f : String → String}

theorem leafQuery?_withSubjects {s : Value} (h : (r.apply s).text? = (r'.apply s).text?.map f)
    (o : Operator) (operand : Nat → Except Misuse Value) :
    leafQuery? r o s operand = (leafQuery? r' o s operand).map (Query.withSubjects f) := by
  unfold leafQuery?
  rw [h]
  cases (r'.apply s).text? with
  | none => rfl
  | some s =>
    cases o with
    | present | and | or => rfl
    | isEqual | before | after | between =>
      simp [Option.map_bind, Function.comp_def, Query.withSubjects]

theorem Joint.combine_withSubjects (j : Joint) (a b : Query) :
    (j.combine a b).withSubjects f = j.combine (a.withSubjects f) (b.withSubjects f) := by
  cases j <;> rfl

/-- **What a tree asks for under a renaming** is what it asks for under another one, with its
subjects changed as they differ. -/
theorem query?_withSubjects (n : Node)
    (h : ∀ s ∈ n.subjects, (r.apply s).text? = (r'.apply s).text?.map f) :
    n.query? r = (n.query? r').map (Query.withSubjects f) := by
  induction n using Node.face_induction with
  | pair n j left right hn ihl ihr =>
    rw [Node.subjects_face, hn, List.forall_mem_append] at h
    rw [query?_face, query?_face, hn]
    simp only [ihl h.1, ihr h.2]
    cases left.query? r' with
    | none => rfl
    | some a =>
      cases right.query? r' with
      | none => rfl
      | some b => simp [j.combine_withSubjects]
  | leaf n o s operand hn =>
    rw [Node.subjects_face, hn] at h
    rw [query?_face, query?_face, hn]
    exact leafQuery?_withSubjects (h s (List.mem_singleton_self s)) o operand
  | refused n fault hn =>
    rw [query?_face, query?_face, hn]
    rfl

end Asked

/-! ## The id field -/

theorem same_text {v : Value} {s : String} : v.same (.text s) = true ↔ v = .text s := by
  cases v with
  | text t => simp [Value.same]
  | foreign f => cases f <;> exact ⟨nofun, nofun⟩
  | _ => exact ⟨nofun, nofun⟩

/-- Subjects go by the id property if they are the id field, and by their own names otherwise. -/
theorem apply_eq_renamed (idField idProperty : String) (v : Value) :
    Renaming.apply ⟨.text idField, .text idProperty⟩ v = v.renamed idField idProperty := by
  rw [Renaming.apply]
  by_cases h : v = .text idField
  · subst h
    simp [Value.renamed, same_text]
  · rw [if_neg (fun hs => h (same_text.1 hs))]
    cases v with
    | text s =>
      have hs : s ≠ idField := fun hs => h (congrArg Value.text hs)
      rw [Value.renamed, if_neg hs]
    | _ => rfl

/-- Subjects that are not the id field go by their own names. -/
theorem apply_eq_self {idField : String} {v : Value} (h : v ≠ .text idField) (idProperty : Value) :
    Renaming.apply ⟨.text idField, idProperty⟩ v = v := by
  rw [Renaming.apply, if_neg (fun hs => h (same_text.1 hs))]

theorem text?_renamed (name other : String) (v : Value) :
    (v.renamed name other).text? = v.text?.map fun s => if s = name then other else s := by
  cases v <;> rfl

section Renamed

variable {idField idProperty : String}

/-- The renamed tree says under any unused name of the id field what the tree says under its own. -/
theorem spelling_renamed {unused : String} (other : Value) {n : Node}
    (h : .text unused ∉ (n.renamed idField idProperty).subjects) :
    spelling ⟨.text idField, .text idProperty⟩ n =
      spelling ⟨.text unused, other⟩ (n.renamed idField idProperty) := by
  refine spelling_withSubjects n fun s hs => ?_
  rw [Node.renamed, Node.subjects_withSubjects] at h
  have hne : s.renamed idField idProperty ≠ .text unused :=
    fun he => h (he ▸ List.mem_map_of_mem hs)
  rw [apply_eq_renamed, apply_eq_self hne]

/-- What a tree asks for is what it asks for with nothing renamed, but for the subjects. -/
theorem query?_renamed {n : Node} {plain : Renaming} (h : ∀ s ∈ n.subjects, plain.apply s = s) :
    n.query? ⟨.text idField, .text idProperty⟩ =
      (n.query? plain).map (Query.renamed idField idProperty) :=
  query?_withSubjects n fun s hs => by rw [apply_eq_renamed, h s hs, text?_renamed]

/-- No step of a predicate is about the id field, unless that is the id property too. -/
theorem not_mem_subjects (h : idField ≠ idProperty) {n : Node} {q : Query}
    (hq : n.query? ⟨.text idField, .text idProperty⟩ = some q) : idField ∉ q.subjects := by
  -- under an id property that is the id field itself, nothing is renamed
  have hplain (v : Value) : Renaming.apply ⟨.text idField, .text idField⟩ v = v := by
    rw [apply_eq_renamed]
    cases v with
    | text s => by_cases hs : s = idField <;> simp [Value.renamed, hs]
    | _ => rfl
  rw [query?_renamed fun s _ => hplain s, Option.map_eq_some_iff] at hq
  obtain ⟨p, -, rfl⟩ := hq
  rw [Query.renamed, Query.subjects_withSubjects, List.mem_map]
  rintro ⟨s, -, hs⟩
  split_ifs at hs with he
  · exact h hs.symm
  · exact he hs

end Renamed

/-- **The id field is renamed among the subjects of leaves, once, and nowhere else.** The predicate
of a tree is that of the tree with the renamed leaves, under any id field that is not the subject of
a leaf; it is what the tree says with nothing renamed, but for the subjects of its steps; no step is
about the id field, unless that is the id property too; and a script has the label of the entity
and the property of labels as they are. -/
theorem ids_renamed (idField idProperty : String) (n : Node) :
    (∀ unused other : String, .text unused ∉ (n.renamed idField idProperty).subjects →
      predicate ⟨.text idField, .text idProperty⟩ n =
        predicate ⟨.text unused, .text other⟩ (n.renamed idField idProperty)) ∧
    (∀ unused other : String, .text unused ∉ n.subjects → ∀ t,
      predicate ⟨.text idField, .text idProperty⟩ n = .ok t ↔
        ∃ q : Query, q.Legible ∧ predicate ⟨.text unused, .text other⟩ n = .ok q.text ∧
          t = (q.renamed idField idProperty).text) ∧
    (idField ≠ idProperty → ∀ q : Query, q.Legible →
      predicate ⟨.text idField, .text idProperty⟩ n = .ok q.text → idField ∉ q.subjects) ∧
    ∀ (labelProperty label : String) (kind : Kind), kind ≠ .graph →
      Finder.generate ⟨.text idProperty, .text labelProperty⟩ n
          ⟨.text idField, .text label, kind⟩ =
        (predicate ⟨.text idField, .text idProperty⟩ n).map fun t =>
          [findSpelling (if kind = .edge then "E()" else "V()") (Quoted.literal labelProperty)
            (Quoted.literal label) t] := by
  simp only [predicate_eq_spelling]
  refine ⟨fun unused other h => spelling_renamed _ h, fun unused other h t => ?_,
    fun h q hl hq => ?_, fun labelProperty label kind hk => ?_⟩
  · have hplain (s : Value) (hs : s ∈ n.subjects) :
        Renaming.apply ⟨.text unused, .text other⟩ s = s := apply_eq_self (fun he => h (he ▸ hs)) _
    rw [spelling_eq_ok, query?_renamed hplain]
    constructor
    · rintro ⟨_, hmap, hl, rfl⟩
      obtain ⟨q, hq, rfl⟩ := Option.map_eq_some_iff.1 hmap
      have hlq : q.Legible := Query.legible_withSubjects.1 hl
      exact ⟨q, hlq, spelling_eq_ok.2 ⟨q, hq, hlq, rfl⟩, rfl⟩
    · rintro ⟨q, hl, hs, rfl⟩
      obtain ⟨p, hp, hlp, ht⟩ := spelling_eq_ok.1 hs
      obtain rfl := Query.text_injective hl hlp ht
      exact ⟨_, by rw [hp]; rfl, Query.legible_withSubjects.2 hl, rfl⟩
  · obtain ⟨p, hp, hlp, ht⟩ := spelling_eq_ok.1 hq
    obtain rfl := Query.text_injective hl hlp ht
    exact not_mem_subjects h hp
  · rw [Finder.generate_eq]
    cases kind with
    | graph => exact absurd rfl hk
    | vertex | edge => cases spelling ⟨.text idField, .text idProperty⟩ n <;> rfl

/-- A tree in which the id field is the subject of a leaf and of a combinator, an operand, and a
part of another subject. -/
def keyedTree : Node :=
  .criteria .and (.text "key") [] [.criteria .isEqual (.text "key") [.text "key"] [],
    .criteria .or .null [] [.criteria .present (.text "keys") [] [],
      .criteria .before (.text "KEY") [.int 5] []]]

/-- One subject of five places is renamed, and the label stays. -/
theorem ids_renamed_keyedTree :
    .text "none" ∉ (keyedTree.renamed "key" "id").subjects ∧
    predicate ⟨.text "none", .text "id"⟩ (keyedTree.renamed "key" "id") =
      .ok "and(has('id', 'key'), or(has('keys'), values('KEY').is(lt(5))))" ∧
    Finder.generate ⟨.text "id", .text "key"⟩ keyedTree ⟨.text "key", .text "key", .edge⟩ =
      .ok ["g.E().has('key', 'key').where(" ++
        "and(has('id', 'key'), or(has('keys'), values('KEY').is(lt(5)))))"] := by
  have hu : .text "none" ∉ (keyedTree.renamed "key" "id").subjects := by
    rw [Node.renamed, Node.subjects_withSubjects]
    simp [keyedTree, Node.subjects, Node.pairSubjects, Operator.isCombinator, Value.renamed]
  have hp : predicate ⟨.text "key", .text "id"⟩ keyedTree =
      .ok "and(has('id', 'key'), or(has('keys'), values('KEY').is(lt(5))))" := by
    rw [predicate_eq_spelling]
    rfl
  obtain ⟨hrenamed, -, -, hscript⟩ := ids_renamed "key" "id" keyedTree
  refine ⟨hu, ?_, ?_⟩
  · rw [← hrenamed "none" "id" hu, hp]
  · rw [hscript "key" "key" .edge (by decide), hp]
    rfl

end TraversalScript
