import TraversalScript.Proofs.Settled
import TraversalScript.Service.Exchange

/-!
# Integers in requests

What is read of the body of a request holds no integer of too many digits, so all of its operands
can be written.

* `isShort_of_lookup`, `isShort_of_mem`: the parts of a short JSON value are short;
* `CriteriaForm.ReadAs.short`: what is read of a short JSON value is read of short operands;
* `CriteriaForm.Short`, `isWritable_mirror`: forms without such integers, and their trees;
* `Request.form?_eq_accepted`: the form of a request is read of a short JSON value;
* **`short_of_form?`**: it has no such integer.
-/

namespace TraversalScript

/-! ## Parts of JSON values -/

theorem isShort_of_lookup {fields : List (String × Json)} {name : String} {j : Json}
    (h : Json.fieldsShort fields = true) (hl : fields.lookup name = some j) : j.isShort = true := by
  induction fields with
  | nil => cases hl
  | cons f fields ih =>
    obtain ⟨other, k⟩ := f
    rw [Json.fieldsShort, Bool.and_eq_true] at h
    rw [List.lookup_cons] at hl
    split at hl
    · cases hl
      exact h.1
    · exact ih h.2 hl

theorem isShort_of_mem {js : List Json} {j : Json} (h : Json.allShort js = true) (hj : j ∈ js) :
    j.isShort = true := by
  induction js with
  | nil => cases hj
  | cons k js ih =>
    rw [Json.allShort, Bool.and_eq_true] at h
    rcases List.mem_cons.1 hj with rfl | hj
    · exact h.1
    · exact ih h.2 hj

/-- What the operand of a short JSON value is read as can be written. -/
theorem OperandRead.isWritable {o : Operator} {j : Json} {v : Value} (h : OperandRead o j v)
    (hj : j.isShort = true) : v.isWritable = true := by
  cases h with
  | moment => rfl
  | same =>
    cases j with
    | int n =>
      rw [Json.toValue]
      exact hj
    | _ => rw [Json.toValue]; rfl

namespace CriteriaForm

/-! ## Forms -/

/-- A form without operands that are integers of too many digits. -/
def Short (form : CriteriaForm) : Prop :=
  ∀ g ∈ form.postorder, g.Each fun _ v => v.isWritable = true

theorem OperandsAs.short {R : Json → Value → Prop} {j : Json} {vs : Option (List Value)}
    (h : OperandsAs R j vs) (hj : j.isShort = true) :
    OperandsAs (fun k v => R k v ∧ k.isShort = true) j vs := by
  cases h with
  | null => exact .null
  | @list js vs each =>
    rw [List.forall₂_iff_zip] at each
    refine .list (List.forall₂_iff_zip.2 ⟨each.1, fun hm => ⟨each.2 hm, ?_⟩⟩)
    exact isShort_of_mem hj (List.of_mem_zip hm).1

/-- **What is read of a short JSON value is read of short operands**, at every node. -/
theorem ReadAs.short {R : Operator → Json → Value → Prop} {j : Json} {form : CriteriaForm}
    (h : ReadAs R j form) (hj : j.isShort = true) :
    ReadAs (fun o k v => R o k v ∧ k.isShort = true) j form := by
  induction h with
  | @node fields o s vs children forms known type subject operands list length _ ih =>
    have hpart {name : String} {default : Json} (hd : default.isShort = true) :
        ((fields.lookup name).getD default).isShort = true := by
      cases hl : fields.lookup name with
      | none => exact hd
      | some k => exact isShort_of_lookup hj hl
    have hchildren : Json.allShort children = true := by
      have := @hpart "sub_criteria" (.array []) rfl
      rwa [list] at this
    exact .node known type subject (operands.short (hpart rfl)) list length fun hm =>
      ih hm (isShort_of_mem hchildren (List.of_mem_zip hm).1)

mutual

/-- The tree of a short form has no integer of too many digits. -/
theorem isWritable_mirror (form : CriteriaForm) (h : form.Short) :
    form.mirror.isWritable = true := by
  cases form with
  | node o s vs forms =>
    rw [Short, postorder, List.forall_mem_append, List.forall_mem_singleton] at h
    rw [mirror, Node.isWritable, Node.leaves]
    split_ifs
    · exact isWritable_mirrorAll forms h.1
    · rw [List.all_cons, List.all_nil, Bool.and_true, Leaf.isWritable, List.all_eq_true]
      cases vs with
      | none => exact nofun
      | some vs => exact h.2 vs rfl

theorem isWritable_mirrorAll (forms : List CriteriaForm)
    (h : ∀ g ∈ postorderAll forms, g.Each fun _ v => v.isWritable = true) :
    (Node.leavesAll (mirrorAll forms)).all Leaf.isWritable = true := by
  cases forms with
  | nil => rfl
  | cons form forms =>
    rw [postorderAll, List.forall_mem_append] at h
    rw [mirrorAll, Node.leavesAll, List.all_append, Bool.and_eq_true]
    exact ⟨isWritable_mirror form h.1, isWritable_mirrorAll forms h.2⟩

end

/-- What is read of a short JSON value is short. -/
theorem short_of_parse {origin : Origin} {j : Json} {form : CriteriaForm}
    (h : parse origin j = .accepted form) (hj : j.isShort = true) : form.Short :=
  ((readAs_of_parse h).short hj).each fun hr => hr.1.isWritable hr.2

end CriteriaForm

/-! ## Requests -/

theorem RequestForm.exists_criteria {origin : Origin} {j : Json} {form : RequestForm}
    (h : parse origin j = .accepted form) : ∃ fields k, j = .object fields ∧
      fields.lookup "criteria" = some k ∧ CriteriaForm.parse origin k = .accepted form.criteria := by
  cases j with
  | object fields =>
    simp only [parse, ofFields, Reading.seq_eq_accepted, Reading.map_eq_accepted,
      Reading.required_eq_accepted, Reading.noOthers_eq_accepted] at h
    obtain ⟨_, _, ⟨_, e, ⟨c, ⟨k, hk, hc⟩, rfl⟩, -, rfl⟩, -, rfl⟩ := h
    exact ⟨fields, k, rfl, hk, hc⟩
  | _ => cases h

/-- The form of a request is read of a short JSON value. -/
theorem Request.form?_eq_accepted {r : Request} {form : RequestForm}
    (h : r.form? = some (.accepted form)) :
    ∃ j, j.isShort = true ∧ RequestForm.parse .body j = .accepted form := by
  unfold form? at h
  split at h
  · cases h
  · split_ifs at h
    · cases h
    · cases h
    · obtain ⟨t, -, ht⟩ := Option.bind_eq_some_iff.1 h
      split at ht
      · cases ht
      · next j _ =>
        split_ifs at ht with hj
        exact ⟨j, hj, Reading.under_eq_accepted.1 (Option.some.inj ht)⟩

/-- **The form of a request has no integer of too many digits.** -/
theorem short_of_form? {r : Request} {form : RequestForm} (h : r.form? = some (.accepted form)) :
    form.criteria.Short := by
  obtain ⟨j, hj, hp⟩ := Request.form?_eq_accepted h
  obtain ⟨fields, k, rfl, hk, hc⟩ := RequestForm.exists_criteria hp
  exact CriteriaForm.short_of_parse hc (isShort_of_lookup hj hk)

end TraversalScript
