import TraversalScript.Proofs.Spelling
import TraversalScript.Proofs.Writable

/-!
# What scripts say

A find script spells what its call asks for, and what it asks for can be told without its text.

* `Token`, `Operand`, `Query`, `Search`: what a script says, with the characters that spell it;
* `operand?`, `Node.query?`: what a tree asks for, if its numbers can be written;
* `spelling_chars`: the predicate of a tree spells what the tree asks for;
* **`generate_chars`**: the script of a call spells what the call asks for.
-/

namespace TraversalScript

/-! ## Tokens -/

/-- The fixed pieces of a script. -/
inductive Token where
  | vertices | edges | has | values | and | or | test | before | after | between | filter | comma
  | close
deriving DecidableEq

namespace Token

/-- The text of a token. -/
def text : Token → String
  | vertices => "g.V().has("
  | edges => "g.E().has("
  | has => "has("
  | values => "values("
  | and => "and("
  | or => "or("
  | test => ".is("
  | before => "lt("
  | after => "gt("
  | between => "between("
  | filter => ".where("
  | comma => ", "
  | close => ")"

end Token

/-! ## What a script says -/

/-- What a property is equal to: a text, a truth value, or a number by its literal. -/
inductive Operand where
  | text (s : String)
  | truth (b : Bool)
  | number (literal : String)

/-- What a predicate says, with subjects as the store names them and moments in milliseconds. -/
inductive Query where
  | present (subject : String)
  | equal (subject : String) (operand : Operand)
  | before (subject : String) (bound : Int)
  | after (subject : String) (bound : Int)
  | between (subject : String) (low high : Int)
  | both (left right : Query)
  | either (left right : Query)

/-- What a script says: its scope, the label under its property, and the predicate. -/
structure Search where
  kind : Kind
  labelProperty : String
  label : String
  query : Query

/-- A text as a literal. -/
def quoted (s : String) : List Char := (Quoted.literal s).toList

namespace Operand

/-- An operand as a literal. -/
def chars : Operand → List Char
  | text s => quoted s
  | truth b => (if b then "true" else "false").toList
  | number literal => literal.toList

/-- Whether a number is written as one. -/
def Legible : Operand → Prop
  | number literal => Numeric literal.toList
  | _ => True

/-- What a value stands for as an operand. -/
def ofValue? : Value → Option Operand
  | .text s => some (text s)
  | .bool b => some (truth b)
  | v => (toLiteral v).toOption.map number

end Operand

namespace Query

/-- The predicate that says it. -/
def chars : Query → List Char
  | present s => Token.has.text.toList ++ (quoted s ++ Token.close.text.toList)
  | equal s o => Token.has.text.toList ++
      (quoted s ++ (Token.comma.text.toList ++ (o.chars ++ Token.close.text.toList)))
  | before s m => test s (Token.before.text.toList ++ intText m)
  | after s m => test s (Token.after.text.toList ++ intText m)
  | between s low high => test s
      (Token.between.text.toList ++ (intText low ++ (Token.comma.text.toList ++ intText high)))
  | both left right => Token.and.text.toList ++
      (left.chars ++ (Token.comma.text.toList ++ (right.chars ++ Token.close.text.toList)))
  | either left right => Token.or.text.toList ++
      (left.chars ++ (Token.comma.text.toList ++ (right.chars ++ Token.close.text.toList)))
where
  /-- A test on the values of a property. -/
  test (s : String) (bounds : List Char) : List Char :=
    Token.values.text.toList ++ (quoted s ++ (Token.close.text.toList ++ (Token.test.text.toList ++
      (bounds ++ (Token.close.text.toList ++ Token.close.text.toList)))))

/-- Whether the numbers of a predicate are written as numbers. -/
def Legible : Query → Prop
  | equal _ o => o.Legible
  | both left right | either left right => left.Legible ∧ right.Legible
  | _ => True

end Query

/-- The script that says it. -/
def Search.chars (m : Search) : List Char :=
  (if m.kind = .edge then Token.edges else Token.vertices).text.toList ++
    (quoted m.labelProperty ++ (Token.comma.text.toList ++ (quoted m.label ++
      (Token.close.text.toList ++ (Token.filter.text.toList ++
        (m.query.chars ++ Token.close.text.toList))))))

/-! ## What a tree asks for -/

/-- The operand at a place, if it is there and is no integer of too many digits. -/
def operand? (operand : Nat → Except Misuse Value) (i : Nat) : Option Value :=
  (operand i).toOption.filter Value.isWritable

theorem operand?_eq_some {operand : Nat → Except Misuse Value} {i : Nat} {v : Value} :
    operand? operand i = some v ↔ operand i = .ok v ∧ v.isWritable = true := by
  rw [operand?, Option.filter_eq_some_iff, toOption_eq_some]

/-- What a leaf asks for, with its subject as the store names it. -/
def leafQuery? (r : Renaming) (o : Operator) (subject : Value)
    (operand : Nat → Except Misuse Value) : Option Query := do
  let s ← (r.apply subject).text?
  match o with
  | .present | .and | .or => return .present s
  | .isEqual => return .equal s (← Operand.ofValue? (← operand? operand 0))
  | .before => return .before s (← milliseconds? (← operand? operand 0))
  | .after => return .after s (← milliseconds? (← operand? operand 0))
  | .between =>
    let low ← milliseconds? (← operand? operand 0)
    let high ← milliseconds? (← operand? operand 1)
    return .between s low high

/-- How an operator combines what two trees ask for. -/
def Operator.combine? : Operator → Option (Query → Query → Query)
  | .and => some .both
  | .or => some .either
  | _ => none

mutual

/-- What a tree asks for. -/
def Node.query? (r : Renaming) : Node → Option Query
  | .criteria o s vs ns =>
    match o.combine? with
    | some combine => pairQuery? r combine ns
    | none => leafQuery? r o s (Value.itemOf vs)
  | .loose (.member (.operator o)) s v _ ns =>
    match o.combine? with
    | some combine => pairQuery? r combine ns
    | none => leafQuery? r o s v.item
  | _ => none

/-- What the first two trees of a list ask for, combined. -/
def Node.pairQuery? (r : Renaming) (combine : Query → Query → Query) : List Node → Option Query
  | left :: right :: _ => do return combine (← left.query? r) (← right.query? r)
  | _ => none

end

/-! ## Predicates spell what trees ask for -/

theorem ofValue?_of_toLiteral {v : Value} {l : String} (h : toLiteral v = .ok l) :
    ∃ o, Operand.ofValue? v = some o ∧ o.Legible ∧ o.chars = l.toList := by
  rcases toLiteral_cases h with ⟨s, rfl, rfl⟩ | ⟨b, rfl, rfl⟩ | ⟨hs, hb, hn⟩
  · exact ⟨.text s, rfl, trivial, rfl⟩
  · exact ⟨.truth b, rfl, trivial, rfl⟩
  · refine ⟨.number l, ?_, hn, rfl⟩
    unfold Operand.ofValue?
    split
    · exact absurd rfl (hs _)
    · exact absurd rfl (hb _)
    · rw [h]; rfl

theorem leafSpelling_chars {r : Renaming} {o : Operator} {subject : Value}
    {operand : Nat → Except Misuse Value} {t : String}
    (h : leafSpelling r o subject operand = .ok t) :
    ∃ q, leafQuery? r o subject operand = some q ∧ q.Legible ∧ t.toList = q.chars := by
  have asked {v : Value} {i : Nat} (hv : operand i = .ok v) (hw : v.isWritable = true) :
      operand? operand i = some v := operand?_eq_some.2 ⟨hv, hw⟩
  cases o <;> simp only [leafSpelling, bind_eq_ok, operandAs_eq_ok, subjectText_eq_ok,
    toMilliseconds_eq_ok, toLong_eq_ok, literalText_eq_ok, countText_eq_ok, pure, Except.pure,
    Except.ok.injEq] at h
  case present | and | or =>
    obtain ⟨_, ⟨s, hs, rfl⟩, rfl⟩ := h
    exact ⟨.present s, by simp [leafQuery?, hs], trivial,
      by simp [Query.chars, quoted, Token.text]⟩
  case isEqual =>
    obtain ⟨l, ⟨v, hv, hl⟩, _, ⟨hw, rfl⟩, _, ⟨s, hs, rfl⟩, rfl⟩ := h
    obtain ⟨o, ho, hn, hc⟩ := ofValue?_of_toLiteral (toLiteral_eq_ok.2 ⟨l, hl, rfl⟩)
    have ha := asked hv ((isWritable_of_ofValue hl).trans hw)
    exact ⟨.equal s o, by simp [leafQuery?, hs, ha, ho], hn,
      by simp [Query.chars, quoted, Token.text, hc]⟩
  case before =>
    obtain ⟨m, ⟨v, hv, hm⟩, _, ⟨hw, rfl⟩, _, ⟨s, hs, rfl⟩, rfl⟩ := h
    have ha := asked hv ((isWritable_of_milliseconds? hm).trans hw)
    exact ⟨.before s m, by simp [leafQuery?, hs, ha, hm], trivial,
      by simp [Query.chars, Query.chars.test, quoted, Token.text, valuesSpelling, shownInt]⟩
  case after =>
    obtain ⟨m, ⟨v, hv, hm⟩, _, ⟨hw, rfl⟩, _, ⟨s, hs, rfl⟩, rfl⟩ := h
    have ha := asked hv ((isWritable_of_milliseconds? hm).trans hw)
    exact ⟨.after s m, by simp [leafQuery?, hs, ha, hm], trivial,
      by simp [Query.chars, Query.chars.test, quoted, Token.text, valuesSpelling, shownInt]⟩
  case between =>
    obtain ⟨m, ⟨v, hv, hm⟩, n, ⟨w, hw, hn⟩, _, ⟨hvw, rfl⟩, _, ⟨hww, rfl⟩, _, ⟨s, hs, rfl⟩, rfl⟩ := h
    have ha := asked hv ((isWritable_of_milliseconds? hm).trans hvw)
    have hb := asked hw ((isWritable_of_milliseconds? hn).trans hww)
    exact ⟨.between s m n, by simp [leafQuery?, hs, ha, hm, hb, hn], trivial,
      by simp [Query.chars, Query.chars.test, quoted, Token.text, valuesSpelling, shownInt]⟩

mutual

/-- **The predicate of a tree spells what the tree asks for.** -/
theorem spelling_chars {r : Renaming} {n : Node} {t : String} (h : spelling r n = .ok t) :
    ∃ q, n.query? r = some q ∧ q.Legible ∧ t.toList = q.chars := by
  cases n with
  | criteria o s vs ns =>
    cases o <;> rw [spelling] at h <;> rw [Node.query?]
    case and => exact pairSpelling_chars .and rfl rfl h
    case or => exact pairSpelling_chars .or rfl rfl h
    all_goals exact leafSpelling_chars h
  | loose tag s v holder ns =>
    by_cases ht : ∃ o, tag = .member (.operator o)
    · obtain ⟨o, rfl⟩ := ht
      cases o <;> rw [spelling] at h <;> rw [Node.query?]
      case and => exact pairSpelling_chars .and rfl rfl h
      case or => exact pairSpelling_chars .or rfl rfl h
      all_goals exact leafSpelling_chars h
    · rw [spelling] at h
      · cases h
      · exact fun o h => ht ⟨o, h⟩
  | value v => rw [spelling] at h; cases h

theorem pairSpelling_chars {r : Renaming} (o : Operator) {opening : String}
    {combine : Query → Query → Query} {ns : List Node} {lack : Misuse} {t : String}
    (ho : o.joiner? = some opening) (hc : o.combine? = some combine)
    (h : pairSpelling r opening ns lack = .ok t) :
    ∃ q, Node.pairQuery? r combine ns = some q ∧ q.Legible ∧ t.toList = q.chars := by
  match ns with
  | [] | [_] => cases h
  | left :: right :: more =>
    rw [pairSpelling] at h
    split at h
    · cases h
    · next a ha =>
      split at h
      · cases h
      · next b hb =>
        cases h
        obtain ⟨x, hx, hxl, hxc⟩ := spelling_chars ha
        obtain ⟨y, hy, hyl, hyc⟩ := spelling_chars hb
        refine ⟨combine x y, by simp [Node.pairQuery?, hx, hy], ?_⟩
        cases o with
        | and | or =>
          cases ho
          cases hc
          exact ⟨⟨hxl, hyl⟩, by simp [Query.chars, Token.text, hxc, hyc]⟩
        | _ => cases ho

end

/-! ## Scripts spell what calls ask for -/

/-- What a call asks for. -/
def Finder.search? (f : Finder) (n : Node) (e : Entity) : Option Search := do
  let property ← f.labelProperty.text?
  let label ← e.label.text?
  let query ← n.query? ⟨e.idField, f.idProperty⟩
  return ⟨e.kind, property, label, query⟩

/-- **There is one script, and it spells what the call asks for.** -/
theorem generate_chars {f : Finder} {n : Node} {e : Entity} {scripts : List String}
    (h : f.generate n e = .ok scripts) :
    ∃ m script, f.search? n e = some m ∧ m.kind ≠ .graph ∧ m.query.Legible ∧
      scripts = [script] ∧ script.toList = m.chars := by
  rw [Finder.generate_eq] at h
  simp only [bind_eq_ok, quoteValue_eq_ok, pure, Except.pure, Except.ok.injEq] at h
  obtain ⟨scope, hk, _, ⟨property, hp, rfl⟩, _, ⟨label, hl, rfl⟩, t, ht, rfl⟩ := h
  obtain ⟨q, hq, hn, hc⟩ := spelling_chars ht
  refine ⟨⟨e.kind, property, label, q⟩, _, by simp [Finder.search?, hp, hl, hq], ?_, hn, rfl, ?_⟩
  · intro (hg : e.kind = .graph)
    rw [Finder.scope, hg] at hk
    cases hk
  · unfold Finder.scope at hk
    split at hk <;> cases hk <;>
      simp [findSpelling, Search.chars, Token.text, quoted, *]

end TraversalScript
