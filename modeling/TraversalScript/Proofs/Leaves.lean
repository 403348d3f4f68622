import TraversalScript.Proofs.Shape
import TraversalScript.Proofs.Spelling
import TraversalScript.Proofs.Writable

/-!
# The operands of a tree

Which operands can be written, and what becomes of a tree with one that cannot.

* `Gives`, `Gives.bind`: steps that are refused for the first reason there is;
* `Value.fits`: whether a value can be read as what it is wanted as;
* `Leaf`, `Node.leaves`: the leaves of a tree from left to right;
* `Leaf.misfit?`, `Node.misfit?`: the refusal of the first operand that cannot be read;
* `Leaf.fault?`, `Node.fault?`: the fault of the first leaf that cannot be written, because of such
  an operand or because of a number of too many digits;
* `Node.fault?_eq`, `Node.fault?_of_fits`: where all numbers can be written the fault is that refusal,
  and where all operands can be read it is a number;
* `leafSpelling_eq_script`: a leaf is refused for one of its operands;
* **`spelling_writes`**: a tree of the right shape is written out unless a leaf cannot be.
-/

namespace TraversalScript

/-! ## Refusals -/

/-- What comes of a step: something good, unless there is a reason to refuse it. -/
def Gives {α : Type} (x : Except Fault α) (good : α → Prop) : Option Fault → Prop
  | some f => x = .error f
  | none => ∃ a, x = .ok a ∧ good a

/-- One step after the other: the first reason to refuse one counts. -/
theorem Gives.bind {α β : Type} {x : Except Fault α} {f : α → Except Fault β} {good : α → Prop}
    {better : β → Prop} {bad worse : Option Fault} (hx : Gives x good bad)
    (hf : ∀ a, good a → Gives (f a) better worse) : Gives (x >>= f) better (bad.or worse) := by
  cases bad with
  | some e =>
    rw [hx]
    rfl
  | none =>
    obtain ⟨a, rfl, ha⟩ := hx
    exact hf a ha

/-- A step that is refused for a reason or else gives a text. -/
abbrev Writes (x : Except Fault String) : Option Fault → Prop := Gives x fun _ => True

/-! ## Single operands -/

/-- Whether a value can be read as what it is wanted as. -/
def Value.fits : Use → Value → Bool
  | _, int _ | _, dateTime _ | _, date _ => true
  | .literal, bool _ | .literal, text _ => true
  | .literal, real x => x.isFinite
  | .time, real x | .long, real x => x.whole?.isSome
  | _, _ => false

/-- What the operands of an operator are wanted as. -/
def Operator.use : Operator → Use
  | before | after => .time
  | between => .long
  | isEqual | present | and | or => .literal

/-- The refusal of a value that cannot be read as what it is wanted as. -/
def Value.misfit? (use : Use) (v : Value) : Option ScriptError :=
  if v.fits use then none else some (unsupported v use)

/-- What stands for milliseconds fits where a time or a bound is wanted. -/
theorem fits_eq_isSome (v : Value) {use : Use} (h : use ≠ .literal) :
    v.fits use = (milliseconds? v).isSome := by
  cases use with
  | literal => exact absurd rfl h
  | time | long => cases v <;> rfl

/-- How values are read as what they are wanted as: all that fit, and no others. -/
def Reads {α : Type} (read : Value → Except ScriptError α) (use : Use) : Prop :=
  ∀ v, (v.fits use = true → ∃ a, read v = .ok a) ∧
    (v.fits use = false → read v = .error (unsupported v use))

theorem reads_literal : Reads Literal.ofValue .literal := by
  intro v
  cases v with
  | real x => cases x <;> first | exact ⟨fun _ => ⟨_, rfl⟩, nofun⟩ | exact ⟨nofun, fun _ => rfl⟩
  | null | list | tuple | dict | member | foreign => exact ⟨nofun, fun _ => rfl⟩
  | _ => exact ⟨fun _ => ⟨_, rfl⟩, nofun⟩

theorem reads_time : Reads toMilliseconds .time := by
  intro v
  rw [fits_eq_isSome v (by decide), toMilliseconds]
  cases milliseconds? v <;> simp

theorem reads_long : Reads toLong .long := by
  intro v
  rw [fits_eq_isSome v (by decide), toLong, isBound_eq, toMilliseconds]
  cases milliseconds? v <;> simp

/-- The fault of a value that is an integer of too many digits. -/
def Value.overlong? (v : Value) : Option Fault :=
  if v.isWritable then none else some (.misuse .badValue)

/-! ## Leaves -/

/-- A leaf of a tree. -/
structure Leaf where
  operator : Operator
  subject : Value
  operands : List Value

/-- The refusal of the first operand of a leaf that cannot be read. -/
def Leaf.misfit? (l : Leaf) : Option ScriptError :=
  l.operands.findSome? (Value.misfit? l.operator.use)

/-- The fault of a leaf: the refusal of the first operand that cannot be read, or else that a number
cannot be written. -/
def Leaf.fault? (l : Leaf) : Option Fault :=
  (l.misfit?.map .script).or (l.operands.findSome? Value.overlong?)

theorem findSome?_overlong? (vs : List Value) : vs.findSome? Value.overlong? =
    if vs.all Value.isWritable then none else some (.misuse .badValue) := by
  induction vs with
  | nil => rfl
  | cons v vs ih =>
    rw [List.findSome?_cons, List.all_cons, Value.overlong?, ih]
    cases v.isWritable <;> rfl

namespace Leaf

/-- Whether no operand of a leaf is an integer of too many digits. -/
def isWritable (l : Leaf) : Bool := l.operands.all Value.isWritable

variable {l : Leaf}

theorem fault?_singleton {o : Operator} {s v : Value} :
    fault? ⟨o, s, [v]⟩ = ((v.misfit? o.use).map .script).or (v.overlong?.or none) := by
  simp only [fault?, misfit?, List.findSome?_singleton, Option.or_none]

theorem fault?_eq (h : l.isWritable = true) : l.fault? = l.misfit?.map .script := by
  rw [fault?, findSome?_overlong?, ← isWritable, if_pos h, Option.or_none]

theorem fault?_of_fits (h : l.misfit? = none) :
    l.fault? = if l.isWritable then none else some (.misuse .badValue) := by
  rw [fault?, h, findSome?_overlong?]
  rfl

end Leaf

namespace Node

mutual

/-- The leaves of a checked tree, from left to right. -/
def leaves : Node → List Leaf
  | criteria o s vs ns => if o.isCombinator then leavesAll ns else [⟨o, s, vs⟩]
  | _ => []

/-- The leaves of a list of trees, from left to right. -/
def leavesAll : List Node → List Leaf
  | [] => []
  | n :: ns => n.leaves ++ leavesAll ns

end

/-- The refusal of the first operand of a tree that cannot be read. -/
def misfit? (n : Node) : Option ScriptError := n.leaves.findSome? Leaf.misfit?

/-- The fault of the first leaf of a tree that cannot be written. -/
def fault? (n : Node) : Option Fault := n.leaves.findSome? Leaf.fault?

/-- Whether the subjects of the leaves are texts. -/
def Named (n : Node) : Prop := ∀ l ∈ n.leaves, ∃ s, l.subject = .text s

/-- Whether no operand is an integer of too many digits. -/
def isWritable (n : Node) : Bool := n.leaves.all Leaf.isWritable

theorem mem_leavesAll {l : Leaf} {ns : List Node} :
    l ∈ leavesAll ns ↔ ∃ n ∈ ns, l ∈ n.leaves := by
  induction ns with
  | nil => simp [leavesAll]
  | cons n ns ih => simp [leavesAll, ih]

theorem leaves_pair {o : Operator} (ho : o.isCombinator = true) (s : Value) (left right : Node) :
    (criteria o s [] [left, right]).leaves = left.leaves ++ right.leaves := by
  simp [leaves, leavesAll, ho]

theorem leaves_leaf {o : Operator} (ho : o.isCombinator = false) (s : Value) (vs : List Value) :
    (criteria o s vs []).leaves = [⟨o, s, vs⟩] := by
  simp [leaves, ho]

/-- Where all numbers can be written a tree has no fault but a refusal. -/
theorem fault?_eq {n : Node} (h : n.isWritable = true) : n.fault? = n.misfit?.map .script := by
  unfold isWritable at h
  unfold fault? misfit?
  generalize n.leaves = ls at h
  induction ls with
  | nil => rfl
  | cons l ls ih =>
    rw [List.all_cons, Bool.and_eq_true] at h
    rw [List.findSome?_cons, List.findSome?_cons, Leaf.fault?_eq h.1, ih h.2]
    cases l.misfit? <;> rfl

/-- Where all operands can be read a tree has a fault exactly if a number cannot be written. -/
theorem fault?_of_fits {n : Node} (h : n.misfit? = none) :
    n.fault? = if n.isWritable then none else some (.misuse .badValue) := by
  unfold misfit? at h
  unfold fault? isWritable
  generalize n.leaves = ls at h
  induction ls with
  | nil => rfl
  | cons l ls ih =>
    rw [List.findSome?_cons] at h
    split at h
    · cases h
    · next hl =>
      rw [List.findSome?_cons, List.all_cons, Leaf.fault?_of_fits hl, ih h]
      cases l.isWritable <;> rfl

/-- A tree has no fault exactly if all operands can be read and all numbers can be written. -/
theorem fault?_eq_none {n : Node} :
    n.fault? = none ↔ n.misfit? = none ∧ n.isWritable = true := by
  constructor
  · intro h
    have hm : n.misfit? = none := by
      rw [fault?, List.findSome?_eq_none_iff] at h
      refine List.findSome?_eq_none_iff.2 fun l hl => ?_
      exact Option.map_eq_none_iff.1 (Option.or_eq_none_iff.1 (h l hl)).1
    rw [fault?_of_fits hm] at h
    exact ⟨hm, by simpa using h⟩
  · rintro ⟨hm, hw⟩
    rw [fault?_of_fits hm, if_pos hw]

end Node

/-! ## What comes of leaves and trees -/

section Leaf

variable {r : Renaming} {vs : List Value} {i : Nat} {v : Value} {use : Use}

theorem operandAs_gives {α : Type} {read : Value → Except ScriptError α} (hr : Reads read use)
    (hv : Value.itemOf vs i = .ok v) : Gives (operandAs (Value.itemOf vs) read i)
      (fun a => read v = .ok a) ((v.misfit? use).map .script) := by
  cases h : v.fits use with
  | true =>
    obtain ⟨a, ha⟩ := (hr v).1 h
    rw [Value.misfit?, if_pos h]
    exact ⟨a, operandAs_eq_ok.2 ⟨v, hv, ha⟩, ha⟩
  | false =>
    rw [Value.misfit?, if_neg (by simp [h]), operandAs, hv]
    change (read v).mapError Fault.script = _
    rw [(hr v).2 h]
    rfl

/-- The literal of a value is written, unless the value is an integer of too many digits. -/
theorem literalText_writes {l : Literal} (h : v.isWritable = l.isWritable) :
    Writes (literalText l) v.overlong? := by
  rw [Value.overlong?, h]
  cases hl : l.isWritable with
  | true => exact ⟨_, literalText_eq_ok.2 ⟨hl, rfl⟩, trivial⟩
  | false =>
    rw [literalText, Literal.print_eq_error.2 ⟨hl, rfl⟩]
    rfl

theorem countText_writes {n : Int} (h : milliseconds? v = some n) :
    Writes (countText n) v.overlong? :=
  literalText_writes (isWritable_of_milliseconds? h)

/-- A subject that is a text is written, under the name that the store has for it. -/
theorem subjectText_writes {p : String} (hp : r.idProperty = .text p) (s : String) :
    Writes (subjectText r (.text s)) none := by
  by_cases h : (Value.text s).same r.idField
  · exact ⟨_, subjectText_eq_ok.2 ⟨p, by simp [Renaming.apply, h, hp, Value.text?], rfl⟩, trivial⟩
  · exact ⟨_, subjectText_eq_ok.2 ⟨s, by simp [Renaming.apply, h, Value.text?], rfl⟩, trivial⟩

/-- A leaf with as many operands as its operator takes is written, unless it has a fault. -/
theorem leafSpelling_writes {p s : String} {o : Operator} (hp : r.idProperty = .text p)
    (hv : vs.length = o.valueCount) :
    Writes (leafSpelling r o (.text s) (Value.itemOf vs)) (Leaf.fault? ⟨o, .text s, vs⟩) := by
  have finish (wrap : String → String) :
      Writes (do let t ← subjectText r (.text s); return wrap t) none :=
    (subjectText_writes hp s).bind fun t _ => ⟨wrap t, rfl, trivial⟩
  cases o with
  | present | and | or =>
    obtain rfl := List.length_eq_zero_iff.1 hv
    exact finish _
  | isEqual =>
    obtain ⟨v, rfl⟩ := List.length_eq_one_iff.1 hv
    rw [Leaf.fault?_singleton]
    exact (operandAs_gives reads_literal rfl).bind fun _ hl =>
      (literalText_writes (isWritable_of_ofValue hl)).bind fun _ _ => finish _
  | before | after =>
    obtain ⟨v, rfl⟩ := List.length_eq_one_iff.1 hv
    rw [Leaf.fault?_singleton]
    exact (operandAs_gives reads_time rfl).bind fun _ hm =>
      (countText_writes (toMilliseconds_eq_ok.1 hm)).bind fun _ _ => finish _
  | between =>
    obtain ⟨v, w, rfl⟩ := List.length_eq_two.1 hv
    have hfault : Leaf.fault? ⟨.between, .text s, [v, w]⟩ =
        ((v.misfit? .long).map .script).or (((w.misfit? .long).map .script).or
          (v.overlong?.or (w.overlong?.or none))) := by
      simp only [Leaf.fault?, Leaf.misfit?, Operator.use, List.findSome?_cons, List.findSome?_nil]
      cases v.misfit? .long <;> cases w.misfit? .long <;> cases v.overlong? <;>
        cases w.overlong? <;> rfl
    rw [hfault]
    exact (operandAs_gives reads_long rfl).bind fun _ hm =>
      (operandAs_gives reads_long rfl).bind fun _ hn =>
        (countText_writes (toLong_eq_ok.1 hm)).bind fun _ _ =>
          (countText_writes (toLong_eq_ok.1 hn)).bind fun _ _ => finish _

end Leaf

/-! ### Why leaves are refused -/

section Refused

variable {r : Renaming} {o : Operator} {subject : Value} {operand : Nat → Except Misuse Value}
  {e : ScriptError}

theorem subjectText_ne_script (e : ScriptError) : subjectText r subject ≠ .error (.script e) := by
  rw [subjectText]
  cases quoteValue (r.apply subject) <;> exact nofun

/-- An operand is refused if it is there and cannot be read. -/
theorem operandAs_eq_script {α : Type} {read : Value → Except ScriptError α} {use : Use} {i : Nat}
    (hr : Reads read use) (h : operandAs operand read i = .error (.script e)) :
    ∃ v, operand i = .ok v ∧ v.fits use = false ∧ e = unsupported v use := by
  rw [operandAs] at h
  cases hv : operand i with
  | error m =>
    rw [hv] at h
    cases h
  | ok v =>
    rw [hv] at h
    change (read v).mapError Fault.script = _ at h
    cases hf : v.fits use with
    | true =>
      obtain ⟨a, ha⟩ := (hr v).1 hf
      rw [ha] at h
      cases h
    | false =>
      rw [(hr v).2 hf] at h
      cases h
      exact ⟨v, rfl, hf, rfl⟩

theorem literalText_ne_script (l : Literal) (e : ScriptError) :
    literalText l ≠ .error (.script e) := by
  intro h
  rw [literalText] at h
  cases hp : l.print with
  | error m =>
    rw [hp] at h
    cases h
  | ok t =>
    rw [hp] at h
    cases h

/-- A leaf is refused for an operand of it that cannot be read as its operator wants. -/
theorem leafSpelling_eq_script (h : leafSpelling r o subject operand = .error (.script e)) :
    ∃ i v, operand i = .ok v ∧ v.fits o.use = false ∧ e = unsupported v o.use := by
  have last {wrap : String → String} :
      (do let t ← subjectText r subject; return wrap t) ≠ .error (.script e) := by
    intro h
    rcases bind_eq_error.1 h with h | ⟨t, -, h⟩
    · exact subjectText_ne_script e h
    · cases h
  have printed {l : Literal} {f : String → Except Fault String}
      (h : literalText l >>= f = .error (.script e)) : ∃ t, f t = .error (.script e) := by
    rcases bind_eq_error.1 h with h | ⟨t, -, h⟩
    · exact absurd h (literalText_ne_script l e)
    · exact ⟨t, h⟩
  cases o with
  | present | and | or => exact absurd h last
  | isEqual | before | after =>
    rcases bind_eq_error.1 h with h | ⟨a, -, h⟩
    · exact ⟨0, operandAs_eq_script (by first | exact reads_literal | exact reads_time) h⟩
    · obtain ⟨t, h⟩ := printed h
      exact absurd h last
  | between =>
    rcases bind_eq_error.1 h with h | ⟨a, -, h⟩
    · exact ⟨0, operandAs_eq_script reads_long h⟩
    · rcases bind_eq_error.1 h with h | ⟨b, -, h⟩
      · exact ⟨1, operandAs_eq_script reads_long h⟩
      · obtain ⟨t, h⟩ := printed h
        obtain ⟨u, h⟩ := printed h
        exact absurd h last

end Refused

/-- The predicates of two trees, joined. -/
theorem pairSpelling_pair (r : Renaming) (opening : String) (left right : Node) (lack : Misuse) :
    pairSpelling r opening [left, right] lack = do
      let a ← spelling r left
      let b ← spelling r right
      return opening ++ a ++ ", " ++ b ++ ")" := by
  rw [pairSpelling]
  cases spelling r left with
  | error f => rfl
  | ok a => cases spelling r right <;> rfl

/-- **A tree of the right shape is written out**, unless a leaf of it has a fault; then the first such
leaf from the left is reported. -/
theorem spelling_writes {r : Renaming} {p : String} (hp : r.idProperty = .text p) {n : Node}
    (hs : n.Shaped) (hn : n.Named) : Writes (spelling r n) n.fault? := by
  induction hs with
  | @pair o s left right ho hl hr ihl ihr =>
    rw [Node.Named, Node.leaves_pair ho, List.forall_mem_append] at hn
    rw [Node.fault?, Node.leaves_pair ho, List.findSome?_append]
    rw [← o.isSome_joiner?, Option.isSome_iff_exists] at ho
    obtain ⟨opening, ho⟩ := ho
    simp only [spelling, ho, pairSpelling_pair]
    rw [← @Option.or_none _ (List.findSome? _ right.leaves)]
    exact (ihl hn.1).bind fun _ _ => (ihr hn.2).bind fun _ _ => ⟨_, rfl, trivial⟩
  | @leaf o s vs ho hs hv =>
    obtain ⟨t, rfl⟩ : ∃ t, s = .text t := hn ⟨o, s, vs⟩ (by simp [Node.leaves_leaf ho])
    rw [Node.fault?, Node.leaves_leaf ho, List.findSome?_singleton]
    rw [← o.isSome_joiner?, Option.isSome_eq_false_iff, Option.isNone_iff_eq_none] at ho
    simp only [spelling, ho]
    exact leafSpelling_writes hp hv

end TraversalScript
