import TraversalScript.Proofs.Literal
import TraversalScript.Proofs.Query

/-!
# The outline of a script

What stands outside the literals of a script does not hang on the texts in them.

* `scan`: a text with one mark for each literal, and whether it ends within a literal;
* `Marks`: a piece of script has these marks, whatever follows it;
* `Follows`: a piece of script stands on one line and has the marks of another;
* `Search.follows_blank`: a script has the marks of the one whose texts are all empty;
* `Node.blank`, `query?_blank`: a tree with its texts emptied asks for the same with empty texts;
* **`scripts_keep_outline`**: the scripts of two trees that differ in their texts alone have the
  same outline.
-/

namespace TraversalScript

/-! ## Scanning -/

/-- A text with a mark for each literal in place of the literal, and whether it ends within one. A
literal goes from an apostrophe to the next one, but for the characters after backslashes. -/
def scan : Bool → List Char → List (Option Char) × Bool
  | inside, [] => ([], inside)
  | false, '\'' :: cs => (none :: (scan true cs).1, (scan true cs).2)
  | false, c :: cs => (some c :: (scan false cs).1, (scan false cs).2)
  | true, '\\' :: _ :: cs => scan true cs
  | true, '\'' :: cs => scan false cs
  | true, _ :: cs => scan true cs

/-- A piece of script has these marks, and what follows it is outside of its literals. -/
def Marks (cs : List Char) (marks : List (Option Char)) : Prop :=
  ∀ rest, scan false (cs ++ rest) = (marks ++ (scan false rest).1, (scan false rest).2)

namespace Marks

variable {cs ds : List Char} {ms ns : List (Option Char)}

theorem append (hc : Marks cs ms) (hd : Marks ds ns) : Marks (cs ++ ds) (ms ++ ns) := fun rest => by
  rw [List.append_assoc, hc, hd, List.append_assoc]

theorem scan_eq (h : Marks cs ms) : scan false cs = (ms, false) := by
  have := h []
  simpa [scan] using this

theorem plain (h : ∀ c ∈ cs, c ≠ '\'') : Marks cs (cs.map some) := fun rest => by
  induction cs with
  | nil => rfl
  | cons c cs ih =>
    have hs : scan false (c :: (cs ++ rest)) =
        (some c :: (scan false (cs ++ rest)).1, (scan false (cs ++ rest)).2) := by
      rw [scan]
      exact fun he => h c List.mem_cons_self he
    rw [List.cons_append, hs, ih fun d hd => h d (List.mem_cons_of_mem c hd)]
    rfl

end Marks

theorem scan_true_append {cs : List Char} (h : ∀ c ∈ cs, c ≠ '\\' ∧ c ≠ '\'') (rest : List Char) :
    scan true (cs ++ rest) = scan true rest := by
  induction cs with
  | nil => rfl
  | cons c cs ih =>
    obtain ⟨hb, hq⟩ := h c List.mem_cons_self
    rw [List.cons_append, scan, ih fun d hd => h d (List.mem_cons_of_mem c hd)]
    · exact fun d ds he => absurd he hb
    · exact fun he => hq he

theorem scan_encodeChar (c : Char) (rest : List Char) :
    scan true (Quoted.encodeChar c ++ rest) = scan true rest := by
  rcases Quoted.encodeChar_cases c with ⟨l, he, -⟩ | he | ⟨he, hb, hq, -⟩
  · rw [he]
    rfl
  -- the backslash takes the letter with it, and the digits after them end nothing
  · have hd : ∀ d : Fin 16, hexDigit d ≠ '\\' ∧ hexDigit d ≠ '\'' := by decide
    rw [he]
    change scan true (hexText 4 c.toNat ++ rest) = scan true rest
    refine scan_true_append (fun d hm => ?_) rest
    obtain ⟨n, rfl⟩ := mem_hexText hm
    exact hd n
  · rw [he]
    refine scan_true_append (fun d hm => ?_) rest
    rw [List.mem_singleton.1 hm]
    exact ⟨hb, hq⟩

/-- **A literal has one mark**, whatever its text. -/
theorem Marks.quoted (s : String) : Marks (quoted s) [none] := fun rest => by
  have h : ∀ cs : List Char, scan true (Quoted.encode cs ++ '\'' :: rest) = scan false rest := by
    intro cs
    induction cs with
    | nil => rfl
    | cons c cs ih =>
      rw [Quoted.encode, List.flatMap_cons, List.append_assoc, scan_encodeChar]
      exact ih
  simp only [TraversalScript.quoted, Quoted.literal, String.toList_ofList, List.cons_append,
    List.append_assoc, List.nil_append]
  rw [scan, h]

/-! ## Pieces with the same marks -/

/-- Whether a character is no apostrophe and no control character. -/
def isBare (c : Char) : Bool := c != '\'' && !Quoted.isCoded c

theorem isBare_of_isNumeral {c : Char} (h : isNumeral c = true) : isBare c = true := by
  simp only [isNumeral, Bool.or_eq_true, decide_eq_true_eq] at h
  rcases h with (((hd | rfl) | rfl) | rfl) | rfl
  · have hn : 48 ≤ c.toNat ∧ c.toNat ≤ 57 := by
      simpa [Char.isDigit, UInt32.le_iff_toNat_le] using hd
    have hq : c ≠ '\'' := by
      rintro rfl
      exact absurd hn.1 (by decide)
    simp only [isBare, Quoted.isCoded, Bool.and_eq_true, bne_iff_ne, Bool.not_eq_true',
      Bool.or_eq_false_iff, decide_eq_false_iff_not, beq_eq_false_iff_ne]
    exact ⟨hq, by omega, by omega⟩
  all_goals rfl

/-- A text without control characters. -/
def OneLine (cs : List Char) : Prop := ∀ c ∈ cs, Quoted.isCoded c = false

/-- A piece of script stands on one line and has the marks of another. -/
structure Follows (cs ds : List Char) : Prop where
  marks : ∃ ms, Marks cs ms ∧ Marks ds ms
  line : OneLine cs

namespace Follows

variable {cs cs' ds ds' : List Char}

theorem append (h : Follows cs cs') (h' : Follows ds ds') : Follows (cs ++ ds) (cs' ++ ds') := by
  obtain ⟨ms, hc, hc'⟩ := h.marks
  obtain ⟨ns, hd, hd'⟩ := h'.marks
  exact ⟨⟨ms ++ ns, hc.append hd, hc'.append hd'⟩, List.forall_mem_append.2 ⟨h.line, h'.line⟩⟩

/-- A piece of bare characters has its own marks. -/
theorem refl (h : cs.all isBare = true) : Follows cs cs := by
  have hb : ∀ c ∈ cs, c ≠ '\'' ∧ Quoted.isCoded c = false := by
    simpa [isBare] using h
  exact ⟨⟨_, .plain fun c hc => (hb c hc).1, .plain fun c hc => (hb c hc).1⟩,
    fun c hc => (hb c hc).2⟩

theorem token (t : Token) : Follows t.text.toList t.text.toList := by
  cases t <;> exact refl rfl

theorem number (h : Numeric cs) : Follows cs cs :=
  refl (List.all_eq_true.2 fun c hc => isBare_of_isNumeral (h c hc))

/-- **A literal has the marks of any other.** -/
theorem quoted (s t : String) : Follows (quoted s) (quoted t) :=
  ⟨⟨_, .quoted s, .quoted t⟩, fun _ => Quoted.isCoded_of_mem_literal⟩

theorem scan_eq (h : Follows cs ds) : scan false cs = scan false ds := by
  obtain ⟨ms, hc, hd⟩ := h.marks
  rw [hc.scan_eq, hd.scan_eq]

theorem outside (h : Follows cs ds) : (scan false cs).2 = false := by
  obtain ⟨ms, hc, -⟩ := h.marks
  rw [hc.scan_eq]

end Follows

/-! ## Emptied texts -/

/-- An operand with its text emptied. -/
def Operand.blank : Operand → Operand
  | text _ => text ""
  | o => o

/-- A predicate with its texts emptied. -/
def Query.blank : Query → Query
  | present _ => present ""
  | equal _ o => equal "" o.blank
  | before _ m => before "" m
  | after _ m => after "" m
  | between _ low high => between "" low high
  | both left right => both left.blank right.blank
  | either left right => either left.blank right.blank

/-- What a script says with its texts emptied. -/
def Search.blank (m : Search) : Search := ⟨m.kind, "", "", m.query.blank⟩

theorem Operand.follows_blank {o : Operand} (h : o.Legible) : Follows o.chars o.blank.chars := by
  cases o with
  | text s => exact .quoted s ""
  | truth b => cases b <;> exact .refl rfl
  | number literal => exact .number h

theorem Query.follows_blank {q : Query} (h : q.Legible) : Follows q.chars q.blank.chars := by
  have test (s : String) {bounds : List Char} (hb : Follows bounds bounds) :
      Follows (chars.test s bounds) (chars.test "" bounds) :=
    (Follows.token .values).append ((Follows.quoted s "").append ((Follows.token .close).append
      ((Follows.token .test).append (hb.append ((Follows.token .close).append (.token .close))))))
  induction q with
  | present s => exact (Follows.token .has).append ((Follows.quoted s "").append (.token .close))
  | equal s o =>
    exact (Follows.token .has).append ((Follows.quoted s "").append ((Follows.token .comma).append
      ((Operand.follows_blank h).append (.token .close))))
  | before s m => exact test s ((Follows.token .before).append (.number (numeric_intText m)))
  | after s m => exact test s ((Follows.token .after).append (.number (numeric_intText m)))
  | between s low high =>
    exact test s ((Follows.token .between).append ((Follows.number (numeric_intText low)).append
      ((Follows.token .comma).append (.number (numeric_intText high)))))
  | both left right ihl ihr =>
    exact (Follows.token .and).append ((ihl h.1).append ((Follows.token .comma).append
      ((ihr h.2).append (.token .close))))
  | either left right ihl ihr =>
    exact (Follows.token .or).append ((ihl h.1).append ((Follows.token .comma).append
      ((ihr h.2).append (.token .close))))

theorem Search.follows_blank {m : Search} (h : m.query.Legible) :
    Follows m.chars m.blank.chars := by
  have hq := (Follows.token .filter).append ((Query.follows_blank h).append (.token .close))
  have hl := (Follows.quoted m.label "").append ((Follows.token .close).append hq)
  have hp := (Follows.quoted m.labelProperty "").append ((Follows.token .comma).append hl)
  exact (Follows.token _).append hp

/-! ## Trees that differ in their texts -/

/-- A value with its text emptied. -/
def Value.blank : Value → Value
  | text _ => text ""
  | v => v

/-- A sequence with the texts of its items emptied. -/
def Value.blankItems : Value → Value
  | list vs => list (vs.map blank)
  | tuple vs => tuple (vs.map blank)
  | v => v

mutual

/-- A tree with its texts emptied. -/
def Node.blank : Node → Node
  | .criteria o _ vs ns => .criteria o (.text "") (vs.map Value.blank) (blankAll ns)
  | .loose tag _ v holder ns => .loose tag (.text "") v.blankItems holder (blankAll ns)
  | .value v => .value v

/-- Trees with their texts emptied. -/
def Node.blankAll : List Node → List Node
  | [] => []
  | n :: ns => n.blank :: blankAll ns

end

/-- Values are the same but for their texts exactly if they are equal or both are texts. -/
theorem Value.blank_eq_iff {v w : Value} :
    v.blank = w.blank ↔ v = w ∨ ∃ s t, v = .text s ∧ w = .text t := by
  constructor
  · intro h
    cases v <;> cases w <;> first | exact .inl h | exact .inr ⟨_, _, rfl, rfl⟩ | cases h
  · rintro (rfl | ⟨s, t, rfl, rfl⟩) <;> rfl

theorem milliseconds?_blank {v w : Value} {m : Int} (h : w.blank = v.blank)
    (hm : milliseconds? v = some m) : milliseconds? w = some m := by
  rcases Value.blank_eq_iff.1 h with rfl | ⟨s, t, rfl, rfl⟩
  · exact hm
  · cases hm

theorem isWritable_blank {v w : Value} (h : w.blank = v.blank) : w.isWritable = v.isWritable := by
  rcases Value.blank_eq_iff.1 h with rfl | ⟨s, t, rfl, rfl⟩ <;> rfl

theorem ofValue?_blank {v w : Value} {o : Operand} (h : w.blank = v.blank)
    (ho : Operand.ofValue? v = some o) : ∃ p, Operand.ofValue? w = some p ∧ p.blank = o.blank := by
  rcases Value.blank_eq_iff.1 h with rfl | ⟨s, t, rfl, rfl⟩
  · exact ⟨o, ho, rfl⟩
  · cases ho
    exact ⟨.text s, rfl, rfl⟩

/-- The emptied names of an entity and a store. -/
def Renaming.blank : Renaming := ⟨.text "", .text ""⟩

/-- What a leaf asks for, with any subject: emptied operands ask for the same with empty texts. -/
theorem leafQuery?_blank {r : Renaming} {o : Operator} {subject : Value}
    {f g : Nat → Except Misuse Value} {q : Query}
    (hfg : ∀ i v, f i = .ok v → ∃ w, g i = .ok w ∧ w.blank = v.blank)
    (h : leafQuery? r o subject f = some q) :
    ∃ p, leafQuery? .blank o (.text "") g = some p ∧ p.blank = q.blank := by
  have hs : (Renaming.blank.apply (.text "")).text? = some "" := rfl
  have hasked (i : Nat) (v : Value) (hv : operand? f i = some v) :
      ∃ w, operand? g i = some w ∧ w.blank = v.blank := by
    obtain ⟨hv, hn⟩ := operand?_eq_some.1 hv
    obtain ⟨w, hw, hb⟩ := hfg i v hv
    exact ⟨w, operand?_eq_some.2 ⟨hw, (isWritable_blank hb).trans hn⟩, hb⟩
  cases o <;> simp only [leafQuery?, Option.bind_eq_bind, Option.bind_eq_some_iff, pure,
    Option.some.injEq] at h
  case present | and | or =>
    obtain ⟨s, -, rfl⟩ := h
    exact ⟨.present "", by simp [leafQuery?, hs], rfl⟩
  case isEqual =>
    obtain ⟨s, -, v, hv, o, ho, rfl⟩ := h
    obtain ⟨w, hw, hb⟩ := hasked 0 v hv
    obtain ⟨p, hp, hpo⟩ := ofValue?_blank hb ho
    refine ⟨.equal "" p, by simp [leafQuery?, hs, hw, hp], ?_⟩
    rw [Query.blank, Query.blank, hpo]
  case before =>
    obtain ⟨s, -, v, hv, m, hm, rfl⟩ := h
    obtain ⟨w, hw, hb⟩ := hasked 0 v hv
    have hn := milliseconds?_blank hb hm
    exact ⟨.before "" m, by simp [leafQuery?, hs, hw, hn], rfl⟩
  case after =>
    obtain ⟨s, -, v, hv, m, hm, rfl⟩ := h
    obtain ⟨w, hw, hb⟩ := hasked 0 v hv
    have hn := milliseconds?_blank hb hm
    exact ⟨.after "" m, by simp [leafQuery?, hs, hw, hn], rfl⟩
  case between =>
    obtain ⟨s, -, v, hv, m, hm, v', hv', n, hn, rfl⟩ := h
    obtain ⟨w, hw, hb⟩ := hasked 0 v hv
    obtain ⟨w', hw', hb'⟩ := hasked 1 v' hv'
    exact ⟨.between "" m n, by simp [leafQuery?, hs, hw, hw', milliseconds?_blank hb hm,
      milliseconds?_blank hb' hn], rfl⟩

theorem itemOf_blank {vs : List Value} {i : Nat} {v : Value} (h : Value.itemOf vs i = .ok v) :
    Value.itemOf (vs.map Value.blank) i = .ok v.blank := by
  unfold Value.itemOf at h ⊢
  rw [List.getElem?_map]
  cases hv : vs[i]? with
  | none => rw [hv] at h; cases h
  | some w => rw [hv] at h; cases h; rfl

theorem item_blank {u v : Value} {i : Nat} (h : u.item i = .ok v) :
    ∃ w, u.blankItems.item i = .ok w ∧ w.blank = v.blank := by
  have hb : v.blank.blank = v.blank := by cases v <;> rfl
  cases u with
  | list vs | tuple vs => exact ⟨v.blank, itemOf_blank h, hb⟩
  | _ => exact ⟨v, h, rfl⟩

mutual

/-- What a tree asks for with its texts emptied, the tree with its texts emptied asks for. -/
theorem query?_blank {r : Renaming} {n : Node} {q : Query} (h : n.query? r = some q) :
    ∃ p, n.blank.query? .blank = some p ∧ p.blank = q.blank := by
  cases n with
  | criteria o s vs ns =>
    rw [Node.blank, Node.query?]
    rw [Node.query?] at h
    cases ho : o.combine? with
    | some combine =>
      rw [ho] at h
      exact pairQuery?_blank ho h
    | none =>
      rw [ho] at h
      refine leafQuery?_blank (fun i v hv => ?_) h
      exact ⟨v.blank, itemOf_blank hv, by cases v <;> rfl⟩
  | loose tag s v holder ns =>
    by_cases ht : ∃ o, tag = .member (.operator o)
    · obtain ⟨o, rfl⟩ := ht
      rw [Node.blank, Node.query?]
      rw [Node.query?] at h
      cases ho : o.combine? with
      | some combine =>
        rw [ho] at h
        exact pairQuery?_blank ho h
      | none =>
        rw [ho] at h
        exact leafQuery?_blank (fun i w => item_blank) h
    · rw [Node.query?] at h
      · cases h
      · exact nofun
      · rintro o s v holder ns ⟨⟩
        exact ht ⟨o, rfl⟩
  | value v =>
    rw [Node.query?] at h
    · cases h
    all_goals exact nofun

theorem pairQuery?_blank {r : Renaming} {o : Operator} {combine : Query → Query → Query}
    (ho : o.combine? = some combine) {ns : List Node} {q : Query}
    (h : Node.pairQuery? r combine ns = some q) :
    ∃ p, Node.pairQuery? .blank combine (Node.blankAll ns) = some p ∧ p.blank = q.blank := by
  match ns with
  | [] | [_] => cases h
  | left :: right :: more =>
    simp only [Node.pairQuery?, Option.bind_eq_bind, Option.bind_eq_some_iff, pure,
      Option.some.injEq] at h
    obtain ⟨a, ha, b, hb, rfl⟩ := h
    obtain ⟨x, hx, hxa⟩ := query?_blank ha
    obtain ⟨y, hy, hyb⟩ := query?_blank hb
    refine ⟨combine x y, by simp [Node.blankAll, Node.pairQuery?, hx, hy], ?_⟩
    cases o with
    | and | or => cases ho; simp [Query.blank, hxa, hyb]
    | _ => cases ho

end

/-! ## The scripts of two calls -/

/-- Two calls for trees that differ in their texts, on entities of one kind, ask for what differs in
its texts. -/
theorem search?_blank {f g : Finder} {n m : Node} {e d : Entity} {x y : Search}
    (hx : f.search? n e = some x) (hy : g.search? m d = some y) (hk : d.kind = e.kind)
    (hb : m.blank = n.blank) : y.blank = x.blank := by
  simp only [Finder.search?, Option.bind_eq_bind, Option.bind_eq_some_iff, pure,
    Option.some.injEq] at hx hy
  obtain ⟨_, -, _, -, q, hq, rfl⟩ := hx
  obtain ⟨_, -, _, -, p, hp, rfl⟩ := hy
  obtain ⟨q', hq', hbq⟩ := query?_blank hq
  obtain ⟨p', hp', hbp⟩ := query?_blank hp
  rw [hb, hq'] at hp'
  cases hp'
  rw [Search.blank, Search.blank, hk, ← hbq, ← hbp]

/-- **Texts do not change the outline of a script.** A script stands on one line and ends outside of
its literals; and a call for a tree that differs in its texts alone, on an entity of the same kind
with any other names, has a script with the same outline. -/
theorem scripts_keep_outline {f : Finder} {n : Node} {e : Entity} {scripts : List String}
    (h : f.generate n e = .ok scripts) :
    ∃ s, scripts = [s] ∧ (∀ c ∈ s.toList, 32 ≤ c.toNat ∧ c.toNat ≠ 127) ∧
      (scan false s.toList).2 = false ∧
      ∀ (g : Finder) (m : Node) (d : Entity) (others : List String),
        d.kind = e.kind → m.blank = n.blank → g.generate m d = .ok others →
          ∃ t, others = [t] ∧ scan false t.toList = scan false s.toList := by
  obtain ⟨x, s, hx, -, hl, rfl, hs⟩ := generate_chars h
  have hf := Search.follows_blank hl
  refine ⟨s, rfl, fun c hc => ?_, ?_, fun g m d others hk hb ho => ?_⟩
  · have := hf.line c (hs ▸ hc)
    simpa [Quoted.isCoded] using this
  · rw [hs]
    exact hf.outside
  · obtain ⟨y, t, hy, -, hly, rfl, ht⟩ := generate_chars ho
    refine ⟨t, rfl, ?_⟩
    rw [hs, ht, hf.scan_eq, (Search.follows_blank hly).scan_eq, search?_blank hx hy hk hb]

/-- Texts with apostrophes and backslashes in every place have the outline of plain ones. -/
theorem scripts_keep_outline_apostrophes :
    ∃ s t, Finder.generate ⟨.text "id", .text "label"⟩
        (.criteria .isEqual (.text "name") [.text "x"] []) ⟨.text "key", .text "A", .vertex⟩ =
          .ok [s] ∧
      Finder.generate ⟨.text "id", .text "l'"⟩
        (.criteria .isEqual (.text "')") [.text "\\"] []) ⟨.text "key", .text "'\n", .vertex⟩ =
          .ok [t] ∧
      scan false t.toList = scan false s.toList := by
  have hs : Finder.generate ⟨.text "id", .text "label"⟩
      (.criteria .isEqual (.text "name") [.text "x"] []) ⟨.text "key", .text "A", .vertex⟩ =
        .ok ["g.V().has('label', 'A').where(has('name', 'x'))"] := by
    rw [Finder.generate_eq]
    rfl
  have ht : Finder.generate ⟨.text "id", .text "l'"⟩
      (.criteria .isEqual (.text "')") [.text "\\"] []) ⟨.text "key", .text "'\n", .vertex⟩ =
        .ok ["g.V().has('l\\'', '\\'\\n').where(has('\\')', '\\\\'))"] := by
    rw [Finder.generate_eq]
    rfl
  obtain ⟨s, hes, -, -, h⟩ := scripts_keep_outline hs
  have hb : (Node.criteria .isEqual (.text "')") [.text "\\"] []).blank =
      (Node.criteria .isEqual (.text "name") [.text "x"] []).blank := by
    simp [Node.blank, Value.blank]
  obtain ⟨t, het, hst⟩ :=
    h ⟨.text "id", .text "l'"⟩ _ ⟨.text "key", .text "'\n", .vertex⟩ _ rfl hb ht
  exact ⟨s, t, hes ▸ hs, het ▸ ht, hst⟩

end TraversalScript
