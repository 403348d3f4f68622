import TraversalScript.Proofs.Settled

/-!
# Reports of issues

The issues of a criteria tree come from its nodes, and each node reports as it does alone.

* `Issue.inside`, `Issue.below`: an issue seen from further out, and the issues below a place;
* `CriteriaForm.childIssues`, `CriteriaForm.fieldReport`: the issues of the children of a node, and
  all issues of its fields, in their order;
* `CriteriaForm.OwnIssue`: the first text among temporal operands that spells no moment;
* `issues_of_report`, `issues_own`: a node reports its fields, or else an issue of its own;
* `below_childPlace`, `issues_below_at`: what is reported below a child, or any node, is what it
  reports alone;
* **`reports_compose`**: how the report of a node is made.
-/

namespace TraversalScript

/-! ## Places -/

namespace Issue

/-- An issue seen from so many steps further out. -/
def inside (p : List Step) (x : Issue) : Issue := { x with place := p ++ x.place }

/-- The issues at a place or further in. -/
def below (p : List Step) (xs : List Issue) : List Issue := xs.filter fun x => p <+: x.place

variable {p q : List Step} {xs ys : List Issue}

theorem below_append : below p (xs ++ ys) = below p xs ++ below p ys := List.filter_append ..

theorem below_eq_nil : below p xs = [] ↔ ∀ x ∈ xs, ¬p <+: x.place := by
  simp [below, List.filter_eq_nil_iff]

/-- What is below a place inside of another is below it there. -/
theorem below_append_map_inside :
    below (q ++ p) (xs.map (inside q)) = (below p xs).map (inside q) := by
  rw [below, below, List.filter_map]
  congr 2
  funext x
  simp [inside, List.prefix_append_right_inj]

theorem below_nil : below [] xs = xs := by simp [below]

theorem below_map_inside : below p (xs.map (inside p)) = xs.map (inside p) := by
  have := @below_append_map_inside [] p xs
  rwa [List.append_nil, below_nil] at this

/-- Further in is below both. -/
theorem below_below (h : q <+: p) : below p (below q xs) = below p xs := by
  rw [below, below, List.filter_filter]
  congr 1
  funext x
  rw [← Bool.decide_and, decide_eq_decide]
  exact and_iff_left_of_imp h.trans

end Issue

namespace Reading

variable {α β : Type}

theorem issues_ofIssues (a : α) (is : List Issue) : (ofIssues a is).issues = is := by
  cases is <;> rfl

/-- A step after issues is not taken. -/
theorem issues_andThen {x : Reading α} {is : List Issue} (f : α → Reading β) (h : x.issues = is)
    (hne : is ≠ []) : (x.andThen f).issues = is := by
  cases x with
  | accepted a => exact absurd h.symm hne
  | refused i is => exact h

/-- What is read of a field has its issues at the field. -/
theorem place_required {fields : List (String × Json)} {name : String} {read : Json → Reading α}
    {x : Issue} (h : x ∈ (required fields name read).issues) : [.field name] <+: x.place := by
  rw [required] at h
  split at h <;>
    · rw [issues_under, List.mem_map] at h
      obtain ⟨y, -, rfl⟩ := h
      exact List.prefix_append ..

theorem place_optional {fields : List (String × Json)} {name : String} {default : α}
    {read : Json → Reading α} {x : Issue} (h : x ∈ (optional fields name default read).issues) :
    [.field name] <+: x.place := by
  rw [optional] at h
  split at h
  · rw [issues_under, List.mem_map] at h
    obtain ⟨y, -, rfl⟩ := h
    exact List.prefix_append ..
  · cases h

end Reading

namespace CriteriaForm

/-! ## The parts of a report -/

section Parts

variable (origin : Origin) (fields : List (String × Json)) (js : List Json)

/-- The issues of the operator of a node. -/
def typeIssues : List Issue :=
  (Reading.required fields "type"
    (Reading.word (Operator.all.map Operator.name) Operator.ofName?)).issues

/-- The issues of the subject of a node. -/
def subjectIssues : List Issue :=
  (Reading.optional fields "subject" none Reading.textOrNull).issues

/-- The issues of the operands of a node, before they are read as moments. -/
def operandIssues : List Issue :=
  (Reading.optional fields "sub_values" none operandsOrNull).issues

/-- The place of a child. -/
def childPlace (i : Nat) : List Step := [.field "sub_criteria", .item i]

/-- The issues of the children, each as it is read alone and at its place. -/
def childIssues : List Issue :=
  js.zipIdx.flatMap fun c => (parse origin c.1).issues.map (Issue.inside (childPlace c.2))

/-- The issues of the fields that a node does not have, in the order in which they stand. -/
def extraIssues : List Issue :=
  (fields.filter fun f => !fieldNames.contains f.1).map fun f => ⟨.extra, [.field f.1], f.2⟩

/-- All issues of the fields of a node. -/
def fieldReport : List Issue :=
  typeIssues fields ++ subjectIssues fields ++ operandIssues fields ++ childIssues origin js ++
    extraIssues fields

/-- The issue that a node has of its own: the first text among temporal operands that spells no
moment. -/
inductive OwnIssue : Issue → Prop
  | moment {o : Operator} {before after : List Json} {s : String} {fault : MomentFault}
      (temporal : o.isTemporal = true) (type : fields.lookup "type" = some (.text o.name))
      (operands : fields.lookup "sub_values" = some (.array (before ++ .text s :: after)))
      (first : ∀ t, .text t ∈ before → ∃ m, Moment.read t = .ok m)
      (spells : Moment.read s = .error fault) : OwnIssue ⟨.moment fault, [], .text s⟩

end Parts

variable {origin : Origin} {fields : List (String × Json)} {js : List Json}

theorem issues_parseItems (k : Nat) : (parseItems origin k js).issues =
    (js.zipIdx k).flatMap fun c => (parse origin c.1).issues.map (Issue.under (.item c.2)) := by
  induction js generalizing k with
  | nil => rfl
  | cons j js ih =>
    rw [parseItems, Reading.issues_seq, Reading.issues_map, Reading.issues_under, ih,
      List.zipIdx_cons, List.flatMap_cons]

theorem issues_parseChildren (h : fields.lookup "sub_criteria" = some (.array js)) :
    (parseChildren origin fields).issues = childIssues origin js := by
  rw [parseChildren_eq, Reading.optional, h, Reading.issues_under, parseList, issues_parseItems,
    List.map_flatMap, childIssues]
  simp only [List.map_map]
  rfl

/-! ## Places of the parts -/

theorem place_extraIssues {x : Issue} (h : x ∈ extraIssues fields) :
    ∃ name ∉ fieldNames, x.place = [.field name] := by
  rw [extraIssues, List.mem_map] at h
  obtain ⟨f, hf, rfl⟩ := h
  rw [List.mem_filter] at hf
  exact ⟨f.1, by simpa using hf.2, rfl⟩

theorem place_childIssues {x : Issue} (h : x ∈ childIssues origin js) :
    ∃ i, childPlace i <+: x.place := by
  rw [childIssues, List.mem_flatMap] at h
  obtain ⟨c, -, h⟩ := h
  rw [List.mem_map] at h
  obtain ⟨y, -, rfl⟩ := h
  exact ⟨c.2, List.prefix_append ..⟩

/-- All issues of the fields are further in. -/
theorem place_fieldReport {x : Issue} (h : x ∈ fieldReport origin fields js) : x.place ≠ [] := by
  have hne {s : Step} {p : List Step} (hp : s :: p <+: x.place) : x.place ≠ [] := by
    intro he
    rw [he] at hp
    exact List.cons_ne_nil _ _ (List.prefix_nil.1 hp)
  rw [fieldReport, List.mem_append, List.mem_append, List.mem_append, List.mem_append] at h
  rcases h with (((h | h) | h) | h) | h
  · exact hne (Reading.place_required h)
  · exact hne (Reading.place_optional h)
  · exact hne (Reading.place_optional h)
  · obtain ⟨i, hi⟩ := place_childIssues h
    exact hne hi
  · obtain ⟨name, -, hx⟩ := place_extraIssues h
    rw [hx]
    exact List.cons_ne_nil _ _

/-! ## The report of a node -/

theorem issues_of_report (h : fields.lookup "sub_criteria" = some (.array js))
    (hr : fieldReport origin fields js ≠ []) :
    (parse origin (.object fields)).issues = fieldReport origin fields js := by
  rw [parse, ofFields]
  refine Reading.issues_andThen withMoments ?_ hr
  simp only [Reading.issues_seq, Reading.issues_map, issues_parseChildren h, Reading.noOthers,
    Reading.issues_ofIssues]
  rfl

/-! ## Issues of a node of its own -/

/-- The issue of a text that spells no moment. -/
def momentIssue? : Json → Option Issue
  | .text s =>
    match Moment.read s with
    | .ok _ => none
    | .error fault => some ⟨.moment fault, [], .text s⟩
  | _ => none

theorem momentIssue?_eq_none {j : Json} :
    momentIssue? j = none ↔ ∀ s, j = .text s → ∃ m, Moment.read s = .ok m := by
  cases j with
  | text s =>
    rw [momentIssue?]
    cases h : Moment.read s <;> simp [h]
  | _ => simp [momentIssue?]

theorem momentIssue?_eq_some {j : Json} {x : Issue} : momentIssue? j = some x ↔
    ∃ s fault, j = .text s ∧ Moment.read s = .error fault ∧ x = ⟨.moment fault, [], .text s⟩ := by
  cases j with
  | text s =>
    rw [momentIssue?]
    cases h : Moment.read s <;> simp [h, eq_comm]
  | _ => simp [momentIssue?]

theorem issues_readOperands (js : List Json) :
    (readOperands (Json.toValues js)).issues = (js.findSome? momentIssue?).toList := by
  induction js with
  | nil => rfl
  | cons j js ih =>
    rw [Json.toValues, readOperands, List.findSome?_cons]
    cases hm : momentIssue? j with
    | none =>
      rw [momentIssue?_eq_none] at hm
      obtain ⟨w, hw⟩ : ∃ w, readOperand j.toValue = .accepted w := by
        by_cases hs : ∃ s, j = .text s
        · obtain ⟨s, rfl⟩ := hs
          obtain ⟨m, hm⟩ := hm s rfl
          exact ⟨_, readOperand_text_eq_accepted.2 ⟨m, hm, rfl⟩⟩
        · exact ⟨_, readOperand_of_ne fun s he => hs ⟨s, Json.toValue_eq_text.1 he⟩⟩
      rw [hw]
      exact (Reading.issues_map _ _).trans ih
    | some x =>
      obtain ⟨s, fault, rfl, hf, rfl⟩ := momentIssue?_eq_some.1 hm
      rw [Json.toValue, readOperand, hf]
      rfl

/-- The issue that a node has of its own, if it has one. -/
def ownIssue? (fields : List (String × Json)) : Option Issue :=
  match fields.lookup "type", fields.lookup "sub_values" with
  | some (.text name), some (.array us) =>
    (Operator.ofName? name).bind fun o =>
      if o.isTemporal then us.findSome? momentIssue? else none
  | _, _ => none

theorem ownIssue?_of_lookup {o : Operator} {us : List Json}
    (type : fields.lookup "type" = some (.text o.name))
    (operands : fields.lookup "sub_values" = some (.array us)) :
    ownIssue? fields = if o.isTemporal then us.findSome? momentIssue? else none := by
  rw [ownIssue?, type, operands]
  simp only [Operator.ofName?_name, Option.bind_some]

theorem ownIssue?_eq_some {x : Issue} : ownIssue? fields = some x ↔ OwnIssue fields x := by
  constructor
  · intro h
    rw [ownIssue?] at h
    split at h
    · next name us htype hvalues =>
      rw [Option.bind_eq_some_iff] at h
      obtain ⟨o, ho, h⟩ := h
      obtain rfl := Operator.ofName?_eq_some.1 ho
      split_ifs at h with ht
      obtain ⟨before, j, after, rfl, hj, hb⟩ := List.findSome?_eq_some_iff.1 h
      obtain ⟨s, fault, rfl, hs, rfl⟩ := momentIssue?_eq_some.1 hj
      exact .moment ht htype hvalues
        (fun t hm => momentIssue?_eq_none.1 (hb _ hm) t rfl) hs
    · cases h
  · rintro ⟨temporal, type, operands, first, spells⟩
    rw [ownIssue?_of_lookup type operands, if_pos temporal, List.findSome?_eq_some_iff]
    refine ⟨_, _, _, rfl, momentIssue?_eq_some.2 ⟨_, _, rfl, spells, rfl⟩, fun j hj => ?_⟩
    rw [momentIssue?_eq_none]
    rintro t rfl
    exact first t hj

theorem ownIssue?_eq_none (h : ∀ us, fields.lookup "sub_values" ≠ some (.array us)) :
    ownIssue? fields = none := by
  rw [ownIssue?]
  split
  · next heq => exact absurd heq (h _)
  · rfl

/-- What becomes of a node when its operands are read. -/
theorem issues_withMoments {o : Operator} {s : Option String} {vs : Option (List Value)}
    {forms : List CriteriaForm} (type : fields.lookup "type" = some (.text o.name))
    (operands : Reading.optional fields "sub_values" none operandsOrNull = .accepted vs) :
    (withMoments (node o s vs forms)).issues = (ownIssue? fields).toList := by
  rcases Reading.optional_eq_accepted.1 operands with ⟨hl, rfl⟩ | ⟨j, hl, hv⟩
  · rw [ownIssue?_eq_none (by simp [hl])]
    rfl
  · rcases operandsOrNull_eq_accepted.1 hv with ⟨rfl, rfl⟩ | ⟨us, rfl, rfl⟩
    · rw [ownIssue?_eq_none (by simp [hl])]
      rfl
    · rw [ownIssue?_of_lookup type hl, withMoments]
      split_ifs
      · exact (Reading.issues_map _ _).trans (issues_readOperands us)
      · rfl

/-- A node whose fields are without issues reports the issue of its own, if it has one. -/
theorem issues_own (h : fields.lookup "sub_criteria" = some (.array js))
    (hr : fieldReport origin fields js = []) :
    (parse origin (.object fields)).issues = (ownIssue? fields).toList := by
  simp only [fieldReport, List.append_eq_nil_iff] at hr
  obtain ⟨⟨⟨⟨ht, hs⟩, hv⟩, hc⟩, he⟩ := hr
  obtain ⟨o, ho⟩ := Reading.issues_eq_nil.1 ht
  obtain ⟨s, hs⟩ := Reading.issues_eq_nil.1 hs
  obtain ⟨vs, hv⟩ := Reading.issues_eq_nil.1 hv
  rw [← issues_parseChildren h] at hc
  obtain ⟨forms, hforms⟩ := Reading.issues_eq_nil.1 hc
  have known : ∀ f ∈ fields, f.1 ∈ fieldNames := by
    rw [extraIssues, List.map_eq_nil_iff, List.filter_eq_nil_iff] at he
    simpa using he
  rw [parse, ofFields_of_parts _ (type_iff.1 ho) hs hv known, hforms]
  exact issues_withMoments (type_iff.1 ho) hv

/-! ## Reports of children -/

section Below

variable {i k : Nat} {x : Issue}

theorem not_childPlace {name : String} (hn : name ≠ "sub_criteria")
    (hp : [.field name] <+: x.place) : ¬childPlace i <+: x.place := by
  intro h
  have hle := List.prefix_of_prefix_length_le hp h (by simp [childPlace])
  rw [childPlace, List.cons_prefix_cons] at hle
  exact hn (Step.field.inj hle.1)

theorem childPlace_inj (hi : childPlace i <+: x.place) (hk : childPlace k <+: x.place) : i = k := by
  have hle := List.prefix_of_prefix_length_le hi hk le_rfl
  simp only [childPlace, List.cons_prefix_cons] at hle
  exact Step.item.inj hle.2.1

theorem below_other_child (h : i ≠ k) (xs : List Issue) :
    Issue.below (childPlace i) (xs.map (Issue.inside (childPlace k))) = [] := by
  rw [Issue.below_eq_nil]
  intro x hx hi
  obtain ⟨y, -, rfl⟩ := List.mem_map.1 hx
  exact h (childPlace_inj hi (List.prefix_append ..))

/-- What is below one of the children, the first of which has a number. -/
theorem below_children (js : List Json) (i k : Nat) :
    Issue.below (childPlace (k + i)) ((js.zipIdx k).flatMap fun c =>
        (parse origin c.1).issues.map (Issue.inside (childPlace c.2))) =
      js[i]?.elim [] fun c => (parse origin c).issues.map (Issue.inside (childPlace (k + i))) := by
  induction js generalizing i k with
  | nil => rfl
  | cons c cs ih =>
    rw [List.zipIdx_cons, List.flatMap_cons, Issue.below_append]
    cases i with
    | zero =>
      -- the children after this one have larger numbers
      have hrest : Issue.below (childPlace k) ((cs.zipIdx (k + 1)).flatMap fun c =>
          (parse origin c.1).issues.map (Issue.inside (childPlace c.2))) = [] := by
        rw [Issue.below_eq_nil]
        intro x hx hk
        obtain ⟨d, hd, hx⟩ := List.mem_flatMap.1 hx
        obtain ⟨y, -, rfl⟩ := List.mem_map.1 hx
        have hle := List.le_snd_of_mem_zipIdx hd
        have := childPlace_inj hk (List.prefix_append ..)
        omega
      rw [Nat.add_zero, hrest, Issue.below_map_inside, List.append_nil]
      rfl
    | succ i =>
      have := ih i (k + 1)
      rw [Nat.add_right_comm] at this
      rw [below_other_child (by omega), List.nil_append, List.getElem?_cons_succ]
      exact this

theorem below_fieldReport (i : Nat) :
    Issue.below (childPlace i) (fieldReport origin fields js) =
      js[i]?.elim [] fun c => (parse origin c).issues.map (Issue.inside (childPlace i)) := by
  have htype : Issue.below (childPlace i) (typeIssues fields) = [] :=
    Issue.below_eq_nil.2 fun x hx => not_childPlace (by decide) (Reading.place_required hx)
  have hsubject : Issue.below (childPlace i) (subjectIssues fields) = [] :=
    Issue.below_eq_nil.2 fun x hx => not_childPlace (by decide) (Reading.place_optional hx)
  have hoperands : Issue.below (childPlace i) (operandIssues fields) = [] :=
    Issue.below_eq_nil.2 fun x hx => not_childPlace (by decide) (Reading.place_optional hx)
  have hextra : Issue.below (childPlace i) (extraIssues fields) = [] := by
    refine Issue.below_eq_nil.2 fun x hx => ?_
    obtain ⟨name, hname, hx⟩ := place_extraIssues hx
    have hp : [.field name] <+: x.place := hx ▸ List.prefix_rfl
    refine not_childPlace ?_ hp
    rintro rfl
    exact hname (by decide)
  have hchildren := @below_children origin js i 0
  rw [Nat.zero_add] at hchildren
  simp only [fieldReport, Issue.below_append, htype, hsubject, hoperands, hextra, List.nil_append,
    List.append_nil]
  exact hchildren

/-- **What is reported below a child is what the child reports alone.** -/
theorem below_childPlace (h : fields.lookup "sub_criteria" = some (.array js)) (i : Nat) :
    Issue.below (childPlace i) (parse origin (.object fields)).issues =
      js[i]?.elim [] fun c => (parse origin c).issues.map (Issue.inside (childPlace i)) := by
  rw [← @below_fieldReport origin fields js i]
  by_cases hr : fieldReport origin fields js = []
  · -- the issue that the node has of its own is at the node
    rw [issues_own h hr, hr]
    refine Issue.below_eq_nil.2 fun x hx hi => ?_
    rw [Option.mem_toList, ownIssue?_eq_some] at hx
    cases hx
    cases List.prefix_nil.1 hi
  · rw [issues_of_report h hr]

/-- A node of a tree and the way to it. -/
inductive At (d : Json) : List Step → Json → Prop
  | root : At d [] d
  | child {c : Json} {fields : List (String × Json)} {js : List Json} {i : Nat} {p : List Step}
      (list : fields.lookup "sub_criteria" = some (.array js)) (item : js[i]? = some c)
      (at_child : At d p c) : At d (childPlace i ++ p) (.object fields)

/-- **What is reported below a node is what the node reports alone**, at any depth of a tree. -/
theorem issues_below_at {d j : Json} {p : List Step} (h : At d p j) :
    Issue.below p (parse origin j).issues = (parse origin d).issues.map (Issue.inside p) := by
  induction h with
  | root =>
    rw [Issue.below_nil]
    exact (List.map_id _).symm
  | @child c fields js i p list item _ ih =>
    rw [← Issue.below_below (List.prefix_append (childPlace i) p), below_childPlace list, item,
      Option.elim_some, Issue.below_append_map_inside, ih, List.map_map]
    rfl

end Below

/-! ## Issues at the node -/

theorem OwnIssue.place_eq {x : Issue} (h : OwnIssue fields x) : x.place = [] := by
  cases h
  rfl

/-- A node has an issue of its own exactly if one of its temporal operands is a text that spells no
moment. -/
theorem exists_ownIssue_iff : (∃ x, OwnIssue fields x) ↔
    ∃ (o : Operator) (us : List Json) (s : String), o.isTemporal = true ∧
      fields.lookup "type" = some (.text o.name) ∧ fields.lookup "sub_values" = some (.array us) ∧
      .text s ∈ us ∧ ∀ m, Moment.read s ≠ .ok m := by
  constructor
  · rintro ⟨-, temporal, type, operands, -, spells⟩
    refine ⟨_, _, _, temporal, type, operands, List.mem_append_right _ List.mem_cons_self,
      fun m hm => ?_⟩
    rw [spells] at hm
    cases hm
  · rintro ⟨o, us, s, temporal, type, operands, hs, hbad⟩
    have hown := ownIssue?_of_lookup type operands
    rw [if_pos temporal] at hown
    cases hx : ownIssue? fields with
    | some x => exact ⟨x, ownIssue?_eq_some.1 hx⟩
    | none =>
      rw [hx, eq_comm, List.findSome?_eq_none_iff] at hown
      obtain ⟨m, hm⟩ := momentIssue?_eq_none.1 (hown _ hs) s rfl
      exact absurd hm (hbad m)

/-- **The issues at the node** are the one of its own, if nothing else is wrong with it. -/
theorem issue_at_node_iff (h : fields.lookup "sub_criteria" = some (.array js)) {x : Issue} :
    x ∈ (parse origin (.object fields)).issues ∧ x.place = [] ↔
      fieldReport origin fields js = [] ∧ OwnIssue fields x := by
  by_cases hr : fieldReport origin fields js = []
  · rw [issues_own h hr, Option.mem_toList, ownIssue?_eq_some, and_iff_right hr]
    exact and_iff_left_of_imp OwnIssue.place_eq
  · rw [issues_of_report h hr, iff_false_intro hr, false_and, iff_false]
    exact fun hx => place_fieldReport hx.1 hx.2

end CriteriaForm

open CriteriaForm in
/-- **Reports compose along a tree.** What is reported below a child is what the child reports
alone. A node reports its fields, the known ones first and in their order; if there is nothing to
report of them or of anything below, it reports the first of its temporal operands that is a text and
spells no moment; and it is accepted if there is nothing to report. -/
theorem reports_compose (origin : Origin) {fields : List (String × Json)} {js : List Json}
    (h : fields.lookup "sub_criteria" = some (.array js)) :
    (∀ i, Issue.below (childPlace i) (parse origin (.object fields)).issues =
      js[i]?.elim [] fun c => (parse origin c).issues.map (Issue.inside (childPlace i))) ∧
      (fieldReport origin fields js ≠ [] →
        (parse origin (.object fields)).issues = fieldReport origin fields js) ∧
      ((∀ x ∈ typeIssues fields, [.field "type"] <+: x.place) ∧
        (∀ x ∈ subjectIssues fields, [.field "subject"] <+: x.place) ∧
        ∀ x ∈ operandIssues fields, [.field "sub_values"] <+: x.place) ∧
      (fieldReport origin fields js = [] → ∃ own : Option Issue,
        (parse origin (.object fields)).issues = own.toList ∧
          ∀ x, own = some x ↔ OwnIssue fields x) ∧
      ((∃ x ∈ (parse origin (.object fields)).issues, x.place = []) ↔
        fieldReport origin fields js = [] ∧
          ∃ (o : Operator) (us : List Json) (s : String), o.isTemporal = true ∧
            fields.lookup "type" = some (.text o.name) ∧
            fields.lookup "sub_values" = some (.array us) ∧ .text s ∈ us ∧
            ∀ m, Moment.read s ≠ .ok m) ∧
      ((parse origin (.object fields)).issues = [] ↔
        ∃ form, parse origin (.object fields) = .accepted form) := by
  refine ⟨below_childPlace h, issues_of_report h, ⟨fun x => Reading.place_required,
    fun x => Reading.place_optional, fun x => Reading.place_optional⟩, fun hr => ?_, ?_,
    Reading.issues_eq_nil⟩
  · exact ⟨ownIssue? fields, issues_own h hr, fun x => ownIssue?_eq_some⟩
  · rw [← exists_ownIssue_iff, ← exists_and_left]
    exact exists_congr fun x => issue_at_node_iff h

/-- A range over a text that spells no moment, whose first child has an issue of its own too and
whose second has a field too many. -/
def faultyFields : List (String × Json) :=
  [("type", .text "BETWEEN"), ("sub_values", .array [.text "soon", .int 5]),
    ("sub_criteria", .array [
      .object [("type", .text "BEFORE"),
        ("sub_values", .array [.int 1, .text "late", .text "now"])],
      .object [("note", .null), ("type", .text "EXISTS")]])]

open CriteriaForm in
theorem faultyFields_report : ∃ js, faultyFields.lookup "sub_criteria" = some (.array js) ∧
    Issue.below (childPlace 0) (parse .body (.object faultyFields)).issues =
      [⟨.moment .tooShort, childPlace 0, .text "late"⟩] ∧
    ¬∃ x ∈ (parse .body (.object faultyFields)).issues, x.place = [] := by
  have h := reports_compose .body (show faultyFields.lookup "sub_criteria" = _ from rfl)
  refine ⟨_, rfl, h.1 0, fun hx => ?_⟩
  have hr := (h.2.2.2.2.1.1 hx).1
  cases hr

end TraversalScript
