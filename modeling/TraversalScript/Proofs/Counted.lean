import TraversalScript.Proofs.Bounds

/-!
# Times as counts

A time that is sent as a text of digits is a count of seconds if it is small, and a time that is
sent as a number is always a count of milliseconds.

* `CriteriaForm.scripts`, **`scripts_eq_ok`**: the scripts for a form, and those of a temporal node;
* `scripts_alike`, `milliseconds_of_scripts`: what the scripts keep of the operands;
* **`scripts_count_text`**: a text of digits is worth one number of milliseconds, and no other;
* **`count_text_scripts`**: which texts of digits are worth the number that they spell;
* `beforeFields`, `exists_before_scripts`: a node before a time, and its scripts;
* `small_count_text`: texts that are worth another number, the smaller one the later time.
-/

namespace TraversalScript

open Moment

namespace CriteriaForm

/-- The scripts for a form and an entity. -/
def scripts (f : Finder) (e : Entity) (form : CriteriaForm) : Except Fault (List String) :=
  form.build >>= fun n => f.generate n e

section Scripts

variable {f : Finder} {e : Entity} {o : Operator} {subject : Option String} {vs ws : List Value}
  {forms : List CriteriaForm} {found : List String}

/-- A temporal node with a tree is a leaf with a subject and the operands of its operator. -/
theorem build_temporal_eq_ok (ho : o.isTemporal = true) {n : Node} :
    (node o subject (some vs) forms).build = .ok n ↔
      (forms = [] ∧ (subjectValue subject).truthy = true ∧ vs.length = o.valueCount) ∧
        n = .criteria o (subjectValue subject) vs [] := by
  have hc := Operator.isCombinator_of_isTemporal ho
  rw [build, bind_eq_ok]
  constructor
  · rintro ⟨ns, hns, hn⟩
    obtain ⟨p, us, ms, ⟨⟩, hus, ⟨⟩, hn⟩ := Node.build_eq_ok.1 hn
    cases (tuple?_operandsValue (some vs)).symm.trans hus
    obtain ⟨hm, rfl⟩ := Node.ofParts_eq_ok.1 hn
    rw [Node.malformation?, if_neg (by simp [hc]), Node.leafFault?_eq_none] at hm
    obtain ⟨hs, rfl, hl⟩ := hm
    cases forms with
    | nil => exact ⟨⟨rfl, hs, hl⟩, rfl⟩
    | cons form forms =>
      rw [buildAll, bind_eq_ok] at hns
      obtain ⟨m, -, hns⟩ := hns
      obtain ⟨ms, -, hns⟩ := bind_eq_ok.1 hns
      cases hns
  · rintro ⟨⟨rfl, hs, hl⟩, rfl⟩
    exact ⟨[], by rw [buildAll], Node.build_eq_ok.2 ⟨o, vs, [], rfl,
      tuple?_operandsValue (some vs), rfl,
      Node.ofParts_eq_ok.2 ⟨Node.malformation?_leaf hc hs hl, rfl⟩⟩⟩

/-- The scripts of a temporal node are written with the milliseconds of its operands, if all of them
can be written. -/
theorem scripts_eq_ok (ho : o.isTemporal = true) :
    (node o subject (some vs) forms).scripts f e = .ok found ↔
      (forms = [] ∧ (subjectValue subject).truthy = true ∧ vs.length = o.valueCount) ∧
        ∃ scope property label p counts, Finder.scope e = .ok scope ∧
          (quoteValue f.labelProperty).mapError Fault.misuse = .ok property ∧
          (quoteValue e.label).mapError Fault.misuse = .ok label ∧
          subjectText ⟨e.idField, f.idProperty⟩ (subjectValue subject) = .ok p ∧
          vs.map milliseconds? = counts.map some ∧ (∀ n ∈ counts, isWritable n = true) ∧
          found = [findSpelling scope property label
            (valuesSpelling p (boundsSpelling o counts))] := by
  simp only [scripts, bind_eq_ok, build_temporal_eq_ok ho, Finder.generate_eq]
  constructor
  · rintro ⟨_, ⟨hb, rfl⟩, scope, hscope, property, hproperty, label, hlabel, t, ht, ⟨⟩⟩
    rw [spelling_temporal ho] at ht
    obtain ⟨counts, p, hcounts, hw, hp, rfl⟩ := (leafSpelling_eq_ok ho hb.2.2).1 ht
    exact ⟨hb, scope, property, label, p, counts, hscope, hproperty, hlabel, hp, hcounts, hw, rfl⟩
  · rintro ⟨hb, scope, property, label, p, counts, hscope, hproperty, hlabel, hp, hcounts, hw, rfl⟩
    refine ⟨_, ⟨hb, rfl⟩, scope, hscope, property, hproperty, label, hlabel, _, ?_, rfl⟩
    rw [spelling_temporal ho]
    exact (leafSpelling_eq_ok ho hb.2.2).2 ⟨counts, p, hcounts, hw, hp, rfl⟩

/-- Operands for the same time give the same scripts, also where there are none. -/
theorem scripts_alike (ho : o.isTemporal = true) (h : List.Forall₂ Alike vs ws) :
    (node o subject (some vs) forms).scripts f e =
      (node o subject (some ws) forms).scripts f e := by
  unfold scripts
  rw [build, build]
  cases buildAll forms with
  | error x => rfl
  | ok ns =>
    exact build_alike ho h (tuple?_operandsValue (some vs)) (tuple?_operandsValue (some ws))
      (subjectValue subject) (.nodes ns) fun n m hn => by
        rw [Finder.generate_eq, Finder.generate_eq, hn]

theorem findSpelling_injective {scope property label s t : String}
    (h : findSpelling scope property label s = findSpelling scope property label t) : s = t := by
  rw [← String.toList_inj] at h ⊢
  simpa [findSpelling] using h

/-- Operands with the same scripts stand for the same times. -/
theorem milliseconds_of_scripts (ho : o.isTemporal = true)
    (hv : (node o subject (some vs) forms).scripts f e = .ok found)
    (hw : (node o subject (some ws) forms).scripts f e = .ok found) :
    vs.map milliseconds? = ws.map milliseconds? := by
  obtain ⟨⟨-, -, hl⟩, scope, property, label, p, ms, hscope, hproperty, hlabel, hp, hms, -, rfl⟩ :=
    (scripts_eq_ok ho).1 hv
  obtain ⟨⟨-, -, hl'⟩, scope', property', label', p', ns, hscope', hproperty', hlabel', hp', hns,
    -, heq⟩ := (scripts_eq_ok ho).1 hw
  cases hscope.symm.trans hscope'
  cases hproperty.symm.trans hproperty'
  cases hlabel.symm.trans hlabel'
  cases hp.symm.trans hp'
  have hm : ms.length = o.valueCount := by
    simpa [hl] using (congrArg List.length hms).symm
  have hn : ns.length = o.valueCount := by
    simpa [hl'] using (congrArg List.length hns).symm
  rw [hms, hns, boundsSpelling_injective ho hm hn (valuesSpelling_injective
    (findSpelling_injective (List.cons.inj heq).1))]

end Scripts

end CriteriaForm

/-! ## Texts of digits -/

theorem forall₂_append_cons {α β : Type} {R : α → β → Prop} {before after : List α} {x : α}
    {zs : List β} : List.Forall₂ R (before ++ x :: after) zs ↔
      ∃ us z ws, zs = us ++ z :: ws ∧ List.Forall₂ R before us ∧ R x z ∧
        List.Forall₂ R after ws := by
  induction before generalizing zs with
  | nil =>
    simp only [List.nil_append, List.forall₂_cons_left_iff]
    constructor
    · rintro ⟨z, ws, hz, hws, rfl⟩
      exact ⟨[], z, ws, rfl, .nil, hz, hws⟩
    · rintro ⟨us, z, ws, rfl, hus, hz, hws⟩
      cases hus
      exact ⟨z, ws, hz, hws, rfl⟩
  | cons y ys ih =>
    simp only [List.cons_append, List.forall₂_cons_left_iff, ih]
    constructor
    · rintro ⟨u, _, hu, ⟨us, z, ws, rfl, hus, hz, hws⟩, rfl⟩
      exact ⟨u :: us, z, ws, rfl, ⟨u, us, hu, hus, rfl⟩, hz, hws⟩
    · rintro ⟨_, z, ws, rfl, ⟨u, us, hu, hus, rfl⟩, hz, hws⟩
      exact ⟨u, _, hu, ⟨us, z, ws, rfl, hus, hz, hws⟩, rfl⟩

section Texts

variable {texts numbers : List (String × Json)} {o : Operator} {subject : Option String}
  {before after children : List Json} {c : CountText} {n : Int} {origin : Origin}
  {form : CriteriaForm}

open CriteriaForm

/-- **A text of digits is worth one number of milliseconds, and no other.** -/
theorem scripts_count_text (ho : o.isTemporal = true)
    (ht : NodeFields texts o subject (before ++ .text c.text :: after) children)
    (hn : NodeFields numbers o subject (before ++ .int n :: after) children)
    (h : parse origin (.object texts) = .accepted form) (f : Finder) (e : Entity) :
    ∃ other, parse origin (.object numbers) = .accepted other ∧
      (n = millisOfCount c.value → form.scripts f e = other.scripts f e) ∧
      ∀ found, form.scripts f e = .ok found →
        (other.scripts f e = .ok found ↔ n = millisOfCount c.value) := by
  obtain ⟨_, forms, hvs, hforms, rfl⟩ := (parse_eq_accepted ht ho).1 h
  obtain ⟨us, v, ws, rfl, hus, hv, hws⟩ := forall₂_append_cons.1 hvs
  obtain ⟨t, hread, rfl⟩ := readOperand_text_eq_accepted.1 hv
  have hm : milliseconds? (.dateTime t) = some (millisOfCount c.value) :=
    congrArg some (milliseconds_of_ofCount (ofCount_of_read hread))
  -- the operands around the text are sent as they are both times
  have hsame : n = millisOfCount c.value →
      (node o subject (some (us ++ .dateTime t :: ws)) forms).scripts f e =
        (node o subject (some (us ++ .int n :: ws)) forms).scripts f e := by
    rintro rfl
    refine scripts_alike ho (forall₂_append_cons.2 ⟨us, _, ws, rfl, ?_, .inr ⟨_, hm, rfl⟩, ?_⟩) <;>
      exact List.forall₂_same.2 fun _ _ => .inl rfl
  refine ⟨node o subject (some (us ++ .int n :: ws)) forms, (parse_eq_accepted hn ho).2
    ⟨_, forms, forall₂_append_cons.2 ⟨us, _, ws, rfl, hus, rfl, hws⟩, hforms, rfl⟩, hsame, ?_⟩
  intro found hf
  constructor
  · intro hg
    have := milliseconds_of_scripts ho hf hg
    rw [List.map_append, List.map_append, List.append_cancel_left_eq, List.map_cons, List.map_cons,
      hm] at this
    exact (Option.some.inj (List.cons.inj this).1).symm
  · intro he
    rw [← hsame he, hf]

/-- **A text of digits gives the scripts of the number that it spells** only if that is zero, or too
large for a count of seconds. -/
theorem count_text_scripts (ho : o.isTemporal = true)
    (ht : NodeFields texts o subject (before ++ .text c.text :: after) children)
    (hn : NodeFields numbers o subject (before ++ .int c.value :: after) children)
    (h : parse origin (.object texts) = .accepted form) (f : Finder) (e : Entity) :
    ∃ other, parse origin (.object numbers) = .accepted other ∧
      (c.value = 0 ∨ watershed < c.value.natAbs → form.scripts f e = other.scripts f e) ∧
      ∀ found, form.scripts f e = .ok found →
        (other.scripts f e = .ok found ↔ c.value = 0 ∨ watershed < c.value.natAbs) := by
  have hworth : c.value = millisOfCount c.value ↔ c.value = 0 ∨ watershed < c.value.natAbs := by
    unfold millisOfCount watershed
    split_ifs <;> omega
  simpa only [hworth] using scripts_count_text ho ht hn h f e

end Texts

/-! ## A node before a time -/

/-- The fields of a node before a time. -/
def beforeFields (time : Json) : List (String × Json) :=
  [("type", .text "BEFORE"), ("subject", .text "t"), ("sub_values", .array [time])]

theorem nodeFields_before (time : Json) :
    NodeFields (beforeFields time) .before (some "t") ([] ++ time :: []) [] where
  known := by simp [beforeFields]
  type := rfl
  subject := rfl
  operands := rfl
  children := rfl

/-- The properties of ids and labels when none are named. -/
def usualFinder : Finder := ⟨Finder.defaultId, Finder.defaultLabel⟩

/-- A label of vertices. -/
def usualEntity : Entity := ⟨.text "id", .text "A", .vertex⟩

/-- The script for the vertices before so many milliseconds. -/
def beforeScript (n : Int) : String :=
  findSpelling "V()" "'label'" "'A'" (valuesSpelling "'t'" (boundsSpelling .before [n]))

/-- What a time is read as decides on the scripts before it. -/
theorem exists_before_scripts {time : Json} {v : Value} {n : Int}
    (hv : CriteriaForm.readOperand time.toValue = .accepted v) (hn : milliseconds? v = some n)
    (hw : isWritable n = true) :
    ∃ form, CriteriaForm.parse .body (.object (beforeFields time)) = .accepted form ∧
      form.scripts usualFinder usualEntity = .ok [beforeScript n] := by
  have hlabel : Quoted.literal "label" = "'label'" := by decide +kernel
  have ha : Quoted.literal "A" = "'A'" := by decide +kernel
  have hsubject : subjectText ⟨usualEntity.idField, usualFinder.idProperty⟩ (.text "t") =
      .ok "'t'" :=
    (subjectText_text "id" "id" "t").trans (congrArg Except.ok (by decide +kernel))
  have htruthy : (CriteriaForm.subjectValue (some "t")).truthy = true := by decide +kernel
  have hp : CriteriaForm.parse .body (.object (beforeFields time)) =
      .accepted (.node .before (some "t") (some [v]) []) :=
    (CriteriaForm.parse_eq_accepted (nodeFields_before time) rfl).2
      ⟨[v], [], .cons hv .nil, .nil, rfl⟩
  refine ⟨_, hp, (CriteriaForm.scripts_eq_ok rfl).2 ⟨⟨rfl, htruthy, rfl⟩, "V()",
    Quoted.literal "label", Quoted.literal "A", _, [n], rfl, rfl, rfl, hsubject,
    by rw [List.map_cons, hn]; rfl, by simpa using hw, ?_⟩⟩
  rw [beforeScript, hlabel, ha]

/-- The script before a text of digits is that before the milliseconds that it is worth. -/
theorem exists_count_scripts (c : CountText)
    (h : -62135596800000 ≤ c.value ∧ c.value ≤ 253402300799999) :
    ∃ form, CriteriaForm.parse .body (.object (beforeFields (.text c.text))) = .accepted form ∧
      form.scripts usualFinder usualEntity = .ok [beforeScript (millisOfCount c.value)] := by
  obtain ⟨t, ht⟩ := exists_ofCount_iff.2 h
  have hr : Moment.read c.text = .ok t := by rw [read_of_isWord (isWord_of_exists ⟨t, ht⟩), ht]
  exact exists_before_scripts (CriteriaForm.readOperand_text_eq_accepted.2 ⟨t, hr, rfl⟩)
    (congrArg some (milliseconds_of_ofCount ht))
    (milliseconds_of_ofCount ht ▸ t.isWritable_milliseconds)

/-- A count without a sign. -/
def plainCount (digits : String) (hne : digits.toList ≠ [])
    (hd : digits.toList.all Char.isDigit = true) : CountText :=
  ⟨[], digits.toList, .inl rfl, hne, List.all_eq_true.1 hd⟩

theorem text_plainCount (digits : String) (hne : digits.toList ≠ [])
    (hd : digits.toList.all Char.isDigit = true) : (plainCount digits hne hd).text = digits :=
  String.ofList_toList

/-- The first count of digits that is one of milliseconds. -/
def watershedCount : CountText := plainCount "20000000001" (by decide) (by decide)

/-- A text of digits that is too large for a count of seconds gives the script of its number. -/
theorem count_text_scripts_large :
    Operator.before.isTemporal = true ∧ watershedCount.text = "20000000001" ∧
      NodeFields (beforeFields (.text watershedCount.text)) .before (some "t")
        ([] ++ .text watershedCount.text :: []) [] ∧
      NodeFields (beforeFields (.int watershedCount.value)) .before (some "t")
        ([] ++ .int watershedCount.value :: []) [] ∧
      ∃ form other,
        CriteriaForm.parse .body (.object (beforeFields (.text watershedCount.text))) =
          .accepted form ∧
        CriteriaForm.parse .body (.object (beforeFields (.int watershedCount.value))) =
          .accepted other ∧
        form.scripts usualFinder usualEntity =
          .ok ["g.V().has('label', 'A').where(values('t').is(lt(20000000001)))"] ∧
        other.scripts usualFinder usualEntity =
          .ok ["g.V().has('label', 'A').where(values('t').is(lt(20000000001)))"] := by
  have hvalue : watershedCount.value = 20000000001 := by decide +kernel
  obtain ⟨form, hform, hscripts⟩ := exists_count_scripts watershedCount (by omega)
  obtain ⟨other, hother, -, hiff⟩ := count_text_scripts rfl (nodeFields_before _)
    (nodeFields_before _) hform usualFinder usualEntity
  have hscript : beforeScript (millisOfCount watershedCount.value) =
      "g.V().has('label', 'A').where(values('t').is(lt(20000000001)))" := by decide +kernel
  rw [hscript] at hscripts
  exact ⟨rfl, text_plainCount .., nodeFields_before _, nodeFields_before _, form, other, hform,
    hother, hscripts, (hiff _ hscripts).2 (.inr (by rw [hvalue]; decide))⟩

/-- **Small texts of digits are worth another number**: one thousand is read as a million, and of
two texts the one of the smaller number is the later time. -/
theorem small_count_text :
    ∃ second number latest next,
      CriteriaForm.parse .body (.object (beforeFields (.text "1000"))) = .accepted second ∧
      CriteriaForm.parse .body (.object (beforeFields (.int 1000))) = .accepted number ∧
      CriteriaForm.parse .body (.object (beforeFields (.text "20000000000"))) = .accepted latest ∧
      CriteriaForm.parse .body (.object (beforeFields (.text "20000000001"))) = .accepted next ∧
      second.scripts usualFinder usualEntity =
        .ok ["g.V().has('label', 'A').where(values('t').is(lt(1000000)))"] ∧
      number.scripts usualFinder usualEntity =
        .ok ["g.V().has('label', 'A').where(values('t').is(lt(1000)))"] ∧
      latest.scripts usualFinder usualEntity =
        .ok ["g.V().has('label', 'A').where(values('t').is(lt(20000000000000)))"] ∧
      next.scripts usualFinder usualEntity =
        .ok ["g.V().has('label', 'A').where(values('t').is(lt(20000000001)))"] := by
  obtain ⟨second, hsecond, h1⟩ := exists_count_scripts
    (plainCount "1000" (by decide) (by decide)) (by decide +kernel)
  obtain ⟨number, hnumber, h2⟩ := @exists_before_scripts (.int 1000) _ _ rfl rfl
    (by decide +kernel)
  obtain ⟨latest, hlatest, h3⟩ := exists_count_scripts
    (plainCount "20000000000" (by decide) (by decide)) (by decide +kernel)
  obtain ⟨next, hnext, h4⟩ := exists_count_scripts
    (plainCount "20000000001" (by decide) (by decide)) (by decide +kernel)
  rw [text_plainCount] at hsecond hlatest hnext
  exact ⟨second, number, latest, next, hsecond, hnumber, hlatest, hnext,
    h1.trans (congrArg Except.ok (by decide +kernel)),
    h2.trans (congrArg Except.ok (by decide +kernel)),
    h3.trans (congrArg Except.ok (by decide +kernel)),
    h4.trans (congrArg Except.ok (by decide +kernel))⟩

end TraversalScript
