import TraversalScript.Proofs.Query

/-!
# Scripts read back

What a find script says can be read off its text, whatever characters its texts hold.

* `Token.read`, `Token.read_append`: the token at the start of a text; none begins another;
* `readOperand`, `readQuery`, `decode`: a reader of scripts by recursive descent;
* `readQuery_chars`, `decode_chars`: the reader undoes the writing, at every nesting;
* **`decode_script`**: the script of a call says what the call asks for, and nothing else says it.
-/

namespace TraversalScript

/-! ## Tokens -/

namespace Token

/-- Every token. -/
def all : List Token :=
  [vertices, edges, has, values, and, or, test, before, after, between, filter, comma, close]

/-- What follows a token at the start of a text. -/
def skip? (t : Token) (cs : List Char) : Option (List Char) :=
  if t.text.toList.isPrefixOf cs then some (cs.drop t.text.toList.length) else none

/-- The token at the start of a text, and what follows it. -/
def read (cs : List Char) : Option (Token × List Char) :=
  all.findSome? fun t => (t.skip? cs).map (t, ·)

/-- **No token begins another one.** -/
theorem read_append (t : Token) (rest : List Char) :
    read (t.text.toList ++ rest) = some (t, rest) := by
  cases t <;> rfl

/-- What follows a token that is expected at the start of a text. -/
def expect (t : Token) (cs : List Char) : Option (List Char) :=
  (read cs).bind fun (u, rest) => if u = t then some rest else none

theorem expect_append (t : Token) (rest : List Char) :
    expect t (t.text.toList ++ rest) = some rest := by
  simp [expect, read_append]

end Token

/-! ## The reader -/

/-- The operand that a literal without apostrophes stands for. -/
def Operand.ofWord (w : String) : Operand :=
  if w = "true" then .truth true else if w = "false" then .truth false else .number w

/-- The text of a literal, and what follows it. -/
def readText : List Char → Option (String × List Char)
  | '\'' :: cs => (Quoted.read cs).map fun (s, rest) => (String.ofList s, rest)
  | _ => none

/-- An operand up to the closing bracket after it. -/
def readOperand : List Char → Option (Operand × List Char)
  | '\'' :: cs => (readText ('\'' :: cs)).map fun (s, rest) => (.text s, rest)
  | cs => some (.ofWord (String.ofList (cs.takeWhile (· ≠ ')'))), cs.dropWhile (· ≠ ')'))

/-- The test on the values of a property, after the property. -/
def readTest (s : String) (cs : List Char) : Option (Query × List Char) := do
  let (t, cs) ← Token.read cs
  let (m, cs) ← readInt cs
  match t with
  | .before => return (.before s m, cs)
  | .after => return (.after s m, cs)
  | .between =>
    let cs ← Token.comma.expect cs
    let (n, cs) ← readInt cs
    return (.between s m n, cs)
  | _ => none

/-- The rest of a step that asks for a property. -/
def readHas (s : String) (cs : List Char) : Option (Query × List Char) := do
  let (t, cs) ← Token.read cs
  match t with
  | .close => return (.present s, cs)
  | .comma =>
    let (o, cs) ← readOperand cs
    return (.equal s o, ← Token.close.expect cs)
  | _ => none

/-- A predicate of fewer nested combinations than the bound, and what follows it. -/
def readQuery : Nat → List Char → Option (Query × List Char)
  | 0, _ => none
  | bound + 1, cs => do
    let (t, cs) ← Token.read cs
    match t with
    | .has =>
      let (s, cs) ← readText cs
      readHas s cs
    | .values =>
      let (s, cs) ← readText cs
      let cs ← Token.close.expect cs
      let cs ← Token.test.expect cs
      let (q, cs) ← readTest s cs
      let cs ← Token.close.expect cs
      return (q, ← Token.close.expect cs)
    | .and | .or =>
      let (left, cs) ← readQuery bound cs
      let cs ← Token.comma.expect cs
      let (right, cs) ← readQuery bound cs
      return (if t = .and then .both left right else .either left right, ← Token.close.expect cs)
    | _ => none

/-- **What a script says.** -/
def decode (script : String) : Option Search := do
  let (t, cs) ← Token.read script.toList
  let kind ← match t with
    | .vertices => some .vertex
    | .edges => some .edge
    | _ => none
  let (labelProperty, cs) ← readText cs
  let cs ← Token.comma.expect cs
  let (label, cs) ← readText cs
  let cs ← Token.close.expect cs
  let cs ← Token.filter.expect cs
  let (query, cs) ← readQuery script.length cs
  let cs ← Token.close.expect cs
  if cs = [] then return ⟨kind, labelProperty, label, query⟩ else none

/-! ## Reading undoes writing -/

/-- How deep combinations are nested. -/
def Query.depth : Query → Nat
  | both left right | either left right => max left.depth right.depth + 1
  | _ => 0

theorem readText_quoted (s : String) (rest : List Char) :
    readText (quoted s ++ rest) = some (s, rest) := by
  simp only [quoted, Quoted.literal, String.toList_ofList, List.cons_append, List.append_assoc,
    List.nil_append]
  rw [readText, Quoted.read_encode]
  simp

theorem readInt_append (n : Int) (t : Token) (rest : List Char) :
    readInt (intText n ++ (t.text.toList ++ rest)) = some (n, t.text.toList ++ rest) :=
  readInt_intText n fun c hc => by cases t <;> cases hc <;> rfl

theorem readOperand_word {w : String} (hp : ∀ c ∈ w.toList, c ≠ ')')
    (hq : ∀ c ∈ w.toList.head?, c ≠ '\'') (rest : List Char) :
    readOperand (w.toList ++ (Token.close.text.toList ++ rest)) =
      some (.ofWord w, Token.close.text.toList ++ rest) := by
  have hc : Token.close.text.toList ++ rest = ')' :: rest := rfl
  have hp' : ∀ c ∈ w.toList, decide (c ≠ ')') = true := fun c h => decide_eq_true (hp c h)
  rw [hc]
  unfold readOperand
  split
  · next cs he =>
    cases hw : w.toList with
    | nil => rw [hw] at he; cases he
    | cons c cs' =>
      rw [hw] at he hq
      cases he
      exact absurd rfl (hq '\'' rfl)
  · rw [List.takeWhile_append_of_pos hp', List.dropWhile_append_of_pos hp']
    simp

theorem readOperand_chars {o : Operand} (h : o.Legible) (rest : List Char) :
    readOperand (o.chars ++ (Token.close.text.toList ++ rest)) =
      some (o, Token.close.text.toList ++ rest) := by
  cases o with
  | text s =>
    obtain ⟨body, hb⟩ : ∃ body, quoted s = '\'' :: body := ⟨_, String.toList_ofList⟩
    rw [Operand.chars, hb, List.cons_append, readOperand, ← List.cons_append, ← hb,
      readText_quoted]
    rfl
  | truth b => cases b <;> exact readOperand_word (by simp) (by simp) rest
  | number w =>
    have hn : ∀ c ∈ w.toList, ∀ d, isNumeral d = false → c ≠ d := fun c hc d hd he => by
      rw [← he, h c hc] at hd
      cases hd
    have hw : Operand.ofWord w = .number w := by
      unfold Operand.ofWord
      rw [if_neg, if_neg]
      · rintro rfl; exact hn 'f' (by decide) 'f' (by decide) rfl
      · rintro rfl; exact hn 't' (by decide) 't' (by decide) rfl
    rw [Operand.chars, readOperand_word (fun c hc => hn c hc ')' (by decide))
      (fun c hc => hn c (List.mem_of_mem_head? hc) '\'' (by decide)), hw]

/-- **A predicate is read back**, whatever follows it. -/
theorem readQuery_chars {q : Query} (h : q.Legible) {bound : Nat} (hb : q.depth ≤ bound)
    (rest : List Char) : readQuery (bound + 1) (q.chars ++ rest) = some (q, rest) := by
  induction q generalizing bound rest with
  | present s => simp [readQuery, Query.chars, Token.read_append, readText_quoted, readHas]
  | equal s o =>
    simp [readQuery, Query.chars, Token.read_append, readText_quoted, readHas,
      readOperand_chars h, Token.expect_append]
  | before s m | after s m | between s m n =>
    simp [readQuery, Query.chars, Query.chars.test, Token.read_append, readText_quoted,
      Token.expect_append, readTest, readInt_append]
  | both left right ihl ihr | either left right ihl ihr =>
    obtain ⟨hl, hr⟩ := h
    obtain ⟨bound, rfl⟩ : ∃ k, bound = k + 1 := ⟨bound - 1, by simp only [Query.depth] at hb; omega⟩
    simp only [Query.depth] at hb
    rw [readQuery]
    simp [Query.chars, Token.read_append, Token.expect_append,
      ihl hl (show left.depth ≤ bound by omega), ihr hr (show right.depth ≤ bound by omega)]

/-- There are more characters than nested combinations. -/
theorem Query.depth_lt_length (q : Query) : q.depth < q.chars.length := by
  induction q with
  | present | equal => simp [depth, chars, Token.text]
  | before | after | between => simp [depth, chars, chars.test, Token.text]
  | both left right ihl ihr | either left right ihl ihr =>
    simp only [depth, chars, Token.text, List.length_append]
    omega

/-- **A script is read back.** -/
theorem decode_chars {m : Search} (hk : m.kind ≠ .graph) (h : m.query.Legible) {script : String}
    (hs : script.toList = m.chars) : decode script = some m := by
  obtain ⟨bound, hb⟩ : ∃ k, script.length = k + 1 ∧ m.query.depth ≤ k := by
    have := m.query.depth_lt_length
    have hl : m.query.chars.length ≤ script.toList.length := by
      rw [hs]
      simp only [Search.chars, List.length_append]
      omega
    rw [String.length_toList] at hl
    exact ⟨script.length - 1, by omega, by omega⟩
  obtain ⟨kind, property, label, query⟩ := m
  have hq := readQuery_chars h hb.2 (Token.close.text.toList ++ [])
  rw [List.append_nil] at hq
  rw [decode, hs, hb.1]
  cases kind with
  | graph => exact absurd rfl hk
  | vertex | edge =>
    simp [Search.chars, Token.read_append, Token.expect_append, readText_quoted, hq]
    rfl

/-! ## The script of a call -/

/-- **The script of a call says what the call asks for**, and two calls have the same script exactly
if they ask for the same. -/
theorem decode_script {f g : Finder} {n m : Node} {e d : Entity} {s t : String}
    (hs : f.generate n e = .ok [s]) (ht : g.generate m d = .ok [t]) :
    (∃ x, f.search? n e = some x ∧ decode s = some x) ∧
      (s = t ↔ f.search? n e = g.search? m d) := by
  obtain ⟨x, _, hx, hkx, hlx, hsx, hcx⟩ := generate_chars hs
  obtain ⟨y, _, hy, hky, hly, hsy, hcy⟩ := generate_chars ht
  cases hsx
  cases hsy
  have hdx := decode_chars hkx hlx hcx
  have hdy := decode_chars hky hly hcy
  refine ⟨⟨x, hx, hdx⟩, ?_, fun h => ?_⟩
  · rintro rfl
    rw [hx, hy, ← hdx, ← hdy]
  · rw [hx, hy] at h
    cases h
    rw [← String.toList_inj, hcx, hcy]

/-- A script over two leaves, with apostrophes and a backslash in its texts, is read back. -/
theorem decode_script_nested :
    decode
        "g.V().has('label', 'A\\\\').where(and(has('it\\'s', '\\')'), values('id').is(lt(-5))))" =
      some ⟨.vertex, "label", "A\\",
        .both (.equal "it's" (.text "')")) (.before "id" (-5))⟩ := by
  have h : Finder.generate ⟨.text "id", .text "label"⟩
      (.criteria .and .null [] [.criteria .isEqual (.text "it's") [.text "')"] [],
        .criteria .before (.text "key") [.int (-5)] []]) ⟨.text "key", .text "A\\", .vertex⟩ =
      .ok
        ["g.V().has('label', 'A\\\\').where(and(has('it\\'s', '\\')'), values('id').is(lt(-5))))"] := by
    rw [Finder.generate_eq]
    rfl
  obtain ⟨⟨x, hx, hd⟩, -⟩ := decode_script h h
  rw [hd, ← hx]
  rfl

end TraversalScript
