import TraversalScript.Proofs.Short
import TraversalScript.Service.App

/-!
# Requests for scripts

What a request for scripts that can be read is answered, and that it is always answered.

* `generate_gives`: what the scripts for a tree of the right shape come to;
* `scripts_eq`: the scripts for a form are those for the tree that is built from it;
* `find_eq`: what the endpoint answers, from what the scripts come to;
* `Refused`, `RequestForm.Answered`: the reply that a form is to have;
* `find_answered`: the endpoint gives it;
* **`handle_answered`**: so does the service, for every request that holds a form;
* `exists_form`, `treeRequest`: when a body holds a form, and requests for a tree of five nodes.
-/

namespace TraversalScript

/-! ## Scripts for trees of the right shape -/

/-- The refusal of an entity that is a whole graph. -/
def Entity.refusal? (e : Entity) : Option ScriptError :=
  if e.kind = .graph then some (.graphScope e.label) else none

theorem scope_writes (e : Entity) : Writes (Finder.scope e) (e.refusal?.map .script) := by
  unfold Finder.scope Entity.refusal?
  cases e.kind with
  | graph => rfl
  | vertex | edge => exact ⟨_, rfl, trivial⟩

theorem quoteValue_writes (s : String) :
    Writes ((quoteValue (.text s)).mapError Fault.misuse) none := ⟨_, rfl, trivial⟩

/-- The scripts for a tree of the right shape without integers of too many digits come to nothing
only if the entity is a whole graph, or else if an operand cannot be read. -/
theorem generate_gives {i l label : String} {e : Entity} (he : e.label = .text label) {n : Node}
    (hs : n.Shaped) (hn : n.Named) (hw : n.isWritable = true) :
    Gives (Finder.generate ⟨.text i, .text l⟩ n e) (fun _ => True)
      ((e.refusal?.or n.misfit?).map .script) := by
  rw [Finder.generate_eq, he, Option.map_or, ← Node.fault?_eq hw, ← @Option.or_none _ n.fault?]
  exact (scope_writes e).bind fun _ _ => (quoteValue_writes l).bind fun _ _ =>
    (quoteValue_writes label).bind fun _ _ => (spelling_writes rfl hs hn).bind fun _ _ =>
      ⟨_, rfl, trivial⟩

/-! ## Scripts for forms -/

variable {config : Config} {f : Finder} {form : RequestForm} {took : Binary64}

/-- The scripts for a form are those for the tree that is built from it. -/
theorem scripts_eq : ((⟨config, some f⟩ : Services).scripts form).outcome.1 =
    form.criteria.build >>= fun n => f.generate n form.entity.toEntity := by
  rw [CriteriaForm.build_eq_toNode]
  unfold Services.scripts
  cases form.criteria.toNode with
  | error e => rfl
  | ok n => rfl

/-- The reply to what the scripts come to in so many milliseconds. -/
def replyTo (took : Binary64) : Except Fault (List String) → Except Misuse (Nat × Body)
  | .ok found => .ok (200, .answer ⟨found, took⟩)
  | .error (.script e) => .ok (422, .fault (Services.faultOf e))
  | .error (.misuse m) => .error m

/-- The endpoint for scripts answers with what they come to, unless it is switched off. -/
theorem find_eq : (Services.find ⟨config, some f⟩ form took).1 =
    if config.enabled.truthy then
      replyTo took (form.criteria.build >>= fun n => f.generate n form.entity.toEntity)
    else .ok (503, .fault Services.disabledFault) := by
  rw [← @scripts_eq config f form, Services.find]
  cases config.enabled.truthy with
  | false => rfl
  | true =>
    simp only [Bool.not_true, Bool.false_eq_true, if_false, if_true]
    obtain ⟨outcome, events⟩ := (Services.scripts ⟨config, some f⟩ form).outcome
    match outcome with
    | .ok found => rfl
    | .error (.script e) => rfl
    | .error (.misuse m) => rfl

/-! ## The reply -/

/-- A detail as it is sent: a text, or nothing. -/
def sentDetail (d : String × Value) : String × Json :=
  (d.1, match d.2 with
    | .text s => .text s
    | _ => .null)

/-- A reply that a refusal of a kind is sent with. -/
def Refused (kind : ErrorKind) (e : ScriptError) (status : Nat) (body : Body) : Prop :=
  e.kind = kind ∧ status = 422 ∧
    body = .fault ⟨kind.word, e.message, some (e.detail.map sentDetail)⟩

/-- The reply that a form is to have once it is built: a refusal of the scope, if that is a whole
graph; else of the first operand from the left that cannot be read; else the scripts. -/
def EntityForm.Answered (form : EntityForm) (f : Finder) (n : Node) (took : Binary64)
    (status : Nat) (body : Body) : Prop :=
  if form.kind = .graph then
    f.generate n form.toEntity = .error (.script (.graphScope (.text form.label))) ∧
      Refused .unsupportedScope (.graphScope (.text form.label)) status body
  else
    match n.misfit? with
    | some e =>
      f.generate n form.toEntity = .error (.script e) ∧ Refused .unsupportedValue e status body
    | none =>
      ∃ scripts, f.generate n form.toEntity = .ok scripts ∧ status = 200 ∧
        body = .answer ⟨scripts, took⟩

/-- **The reply that a form is to have**: a fault, if the endpoint is switched off; else a refusal
of the first malformed node, children before their parent; else the reply for the tree that is
built node by node. -/
def RequestForm.Answered (form : RequestForm) (enabled : Bool) (f : Finder) (took : Binary64)
    (status : Nat) (body : Body) : Prop :=
  if enabled = false then
    status = 503 ∧ body = .fault
      ⟨"script_api_disabled", "Script generation is currently disabled", none⟩
  else
    match form.criteria.malformed? with
    | some e =>
      form.criteria.build = .error (.script e) ∧ Refused .malformedCriteria e status body
    | none => ∃ n, form.criteria.build = .ok n ∧ form.entity.Answered f n took status body

theorem refused_malformed {form : CriteriaForm} {e : ScriptError} (h : form.malformed? = some e) :
    Refused .malformedCriteria e 422 (.fault (Services.faultOf e)) := by
  obtain ⟨⟨o, s, vs, forms⟩, -, hf⟩ := List.exists_of_findSome?_eq_some h
  rw [CriteriaForm.fault?, Option.map_eq_some_iff] at hf
  obtain ⟨reason, -, rfl⟩ := hf
  cases s <;> exact ⟨rfl, rfl, rfl⟩

theorem refused_misfit {n : Node} {e : ScriptError} (h : n.misfit? = some e) :
    Refused .unsupportedValue e 422 (.fault (Services.faultOf e)) := by
  obtain ⟨l, -, hl⟩ := List.exists_of_findSome?_eq_some h
  obtain ⟨v, -, hv⟩ := List.exists_of_findSome?_eq_some hl
  rw [Value.misfit?] at hv
  split_ifs at hv
  cases hv
  exact ⟨rfl, rfl, rfl⟩

/-! ## Every form is answered -/

/-- What the scripts for a tree of the right shape come to is answered as it is to be. -/
theorem replyTo_answered (i l : String) (form : EntityForm) (took : Binary64) {n : Node}
    (hs : n.Shaped) (hn : n.Named) (hw : n.isWritable = true) : ∃ status body,
      replyTo took (Finder.generate ⟨.text i, .text l⟩ n form.toEntity) = .ok (status, body) ∧
        form.Answered ⟨.text i, .text l⟩ n took status body := by
  have hg := @generate_gives i l form.label form.toEntity rfl n hs hn hw
  unfold EntityForm.Answered
  by_cases hk : form.kind = .graph
  · rw [Entity.refusal?, if_pos (show form.toEntity.kind = .graph from hk)] at hg
    simp only [if_pos hk]
    rw [hg]
    exact ⟨422, _, rfl, rfl, rfl, rfl, rfl⟩
  · rw [Entity.refusal?, if_neg (show form.toEntity.kind ≠ .graph from hk), Option.none_or] at hg
    simp only [if_neg hk]
    cases hm : n.misfit? with
    | some e =>
      rw [hm] at hg
      rw [hg]
      exact ⟨422, _, rfl, rfl, refused_misfit hm⟩
    | none =>
      rw [hm] at hg
      obtain ⟨scripts, hg, -⟩ := hg
      rw [hg]
      exact ⟨200, _, rfl, scripts, rfl, rfl, rfl⟩

/-- The endpoint answers as it is to, if ids and labels are under properties named by texts and no
integer has too many digits. -/
theorem find_answered (config : Config) (i l : String) {form : RequestForm}
    (hw : form.criteria.Short) (took : Binary64) : ∃ status body,
      (Services.find ⟨config, some ⟨.text i, .text l⟩⟩ form took).1 = .ok (status, body) ∧
        form.Answered config.enabled.truthy ⟨.text i, .text l⟩ took status body := by
  rw [find_eq]
  unfold RequestForm.Answered
  cases config.enabled.truthy with
  | false => exact ⟨_, _, rfl, rfl, rfl⟩
  | true =>
    have hb := CriteriaForm.build_malformed form.criteria
    simp only [if_true, Bool.true_eq_false, if_false]
    cases hm : form.criteria.malformed? with
    | some e =>
      rw [hm] at hb
      rw [hb]
      exact ⟨422, _, rfl, rfl, refused_malformed hm⟩
    | none =>
      rw [hm] at hb
      obtain ⟨n, hn, hs, hnamed⟩ := hb
      have hwritable : n.isWritable = true := by
        rw [form.criteria.eq_mirror_of_build hn]
        exact form.criteria.isWritable_mirror hw
      obtain ⟨status, body, hr, ha⟩ := replyTo_answered i l form.entity took hs hnamed hwritable
      rw [hn]
      exact ⟨status, body, hr, n, rfl, ha⟩

theorem RequestForm.Answered.status {form : RequestForm} {enabled : Bool} {f : Finder}
    {took : Binary64} {status : Nat} {body : Body} (h : form.Answered enabled f took status body) :
    status = 200 ∨ status = 422 ∨ status = 503 := by
  unfold RequestForm.Answered EntityForm.Answered Refused at h
  grind

/-- A request that holds a form reaches the endpoint. -/
theorem respond_eq_find (s : Services) {r : Request} {form : RequestForm} (took : Binary64)
    (hm : r.method = "POST") (hp : r.path = "/v1/scripts/find")
    (hf : r.form? = some (.accepted form)) :
    s.respond r took =
      ((s.find form took).1.map fun (status, body) => (status, [], body),
        (s.find form took).2) := by
  have ha : Services.announced? r = none := by
    rw [Services.announced?, if_neg]
    rw [hm]
    exact fun h => absurd h.1 (by decide)
  have he : Endpoint.ofPath? r.path = some .find := by
    rw [hp]
    decide
  have hw : ¬r.method ≠ Endpoint.find.method := by
    rw [hm]
    decide
  simp only [Services.respond, ha, Services.route, he, if_neg hw, Services.findFor, hf]

/-- Such a request is answered with the status that the endpoint gives. -/
theorem handle_status (s : Services) {r : Request} {form : RequestForm} {took : Binary64}
    (hm : r.method = "POST") (hp : r.path = "/v1/scripts/find")
    (hf : r.form? = some (.accepted form)) {status : Nat}
    (h : (s.find form took).1.toOption.map Prod.fst = some status) :
    (s.handle r took).1.status = status := by
  rw [Services.handle, respond_eq_find s took hm hp hf]
  cases hr : (s.find form took).1 with
  | error m => rw [hr] at h; cases h
  | ok x => rw [hr] at h; exact Option.some.inj h

theorem toList_of_eq {s : String} {cs : List Char} (h : s = String.ofList cs) : s.toList = cs := by
  rw [h, String.toList_ofList]

theorem eq_ok_of_toOption {ε α : Type} {x : Except ε α} {a : α} (h : x.toOption = some a) :
    x = .ok a := by
  cases x with
  | error e => cases h
  | ok b => cases h; rfl

theorem Reading.eq_accepted_of_toExcept {α : Type} {x : Reading α} {a : α}
    (h : x.toExcept = .ok a) : x = .accepted a := by
  cases x with
  | accepted b => cases h; rfl
  | refused i is => cases h

/-- A body of single bytes holds a form if its characters spell a JSON value that is read as one. -/
theorem exists_form {r : Request} {s : String} {p : RequestForm → Prop} [DecidablePred p]
    (hb : r.body = some s) (hj : r.hasJson = true) (hs : s.isEmpty = false)
    (he : Encoding.ofBytes s.toUTF8.toList = .bytes) (hmark : '\uFEFF' ∉ s.toList)
    (h : (((Json.readChars s.toList).toOption.filter Json.isShort).bind fun j =>
      (RequestForm.parse .body j).toExcept.toOption).any (fun form => p form) = true) :
    ∃ form, r.form? = some (.accepted form) ∧ p form := by
  have hagain : Encoding.reread? s = some s := by
    simp only [Encoding.reread?, he, Encoding.withoutMark]
    split
    · next hcs => exact absurd (hcs ▸ List.mem_cons_self) hmark
    · rfl
  obtain ⟨form, hform, hp⟩ := Option.any_eq_true _ _ |>.1 h
  obtain ⟨j, hshort, hparse⟩ := Option.bind_eq_some_iff.1 hform
  obtain ⟨hread, hshort⟩ := Option.filter_eq_some_iff.1 hshort
  refine ⟨form, ?_, of_decide_eq_true hp⟩
  rw [Request.form?, hb]
  simp only [hs, hj, hagain, Option.bind_some, Json.read, eq_ok_of_toOption hread, Except.mapError,
    hshort, Reading.eq_accepted_of_toExcept (eq_ok_of_toOption hparse)]
  rfl

/-- A request for the vertices that are as two leaves and a third criterion want it. -/
def treeRequest (last : String) : Request where
  method := "POST"
  path := "/v1/scripts/find"
  headers := []
  body := some <|
    "\x7b\"criteria\": \x7b\"type\": \"AND\", \"sub_criteria\": [" ++
      "\x7b\"type\": \"OR\", \"sub_criteria\": [" ++
        "\x7b\"type\": \"EXISTS\", \"subject\": \"name\"\x7d, " ++
        "\x7b\"type\": \"BEFORE\", \"subject\": \"born\", \"sub_values\": [5]\x7d]\x7d, " ++
      last ++ "]\x7d, \"entity\": \x7b\"entity_label\": \"A\", \"entity_kind\": \"vertex\"\x7d\x7d"

/-- A leaf that is equal to a text. -/
def equalText : String :=
  "\x7b\"type\": \"IS_EQUAL\", \"subject\": \"id\", \"sub_values\": [\"it's\"]\x7d"

/-- A combination of no leaves. -/
def emptyText : String := "\x7b\"type\": \"OR\"\x7d"

/-- A leaf that is equal to a list. -/
def listText : String :=
  "\x7b\"type\": \"IS_EQUAL\", \"subject\": \"id\", \"sub_values\": [[1]]\x7d"

/-- The services without any configuration. -/
def plainServices : Services := ⟨.default, some ⟨.text "id", .text "label"⟩⟩

/-- These requests hold forms: one without fault, one with a malformed node, and one with an operand
that cannot be read. -/
theorem treeRequest_forms :
    (∃ form, (treeRequest equalText).form? = some (.accepted form) ∧
      form.criteria.postorder.length = 5 ∧
        (plainServices.find form (.ofInt 7)).1.toOption.map Prod.fst = some 200) ∧
    (∃ form, (treeRequest emptyText).form? = some (.accepted form) ∧
      form.criteria.malformed?.isSome = true ∧
        (plainServices.find form (.ofInt 7)).1.toOption.map Prod.fst = some 422) ∧
    ∃ form, (treeRequest listText).form? = some (.accepted form) ∧
      form.criteria.malformed?.isNone = true ∧
        (plainServices.find form (.ofInt 7)).1.toOption.map Prod.fst = some 422 := by
  refine ⟨exists_form rfl rfl ?_ ?_ ?_ ?_, exists_form rfl rfl ?_ ?_ ?_ ?_,
    exists_form rfl rfl ?_ ?_ ?_ ?_⟩
  all_goals
    simp only [equalText, emptyText, listText, String.toList_append]
    repeat rw [toList_of_eq rfl]
    decide +kernel

end TraversalScript
