import TraversalScript.Proofs.Assembly
import TraversalScript.Proofs.LogLine
import TraversalScript.Proofs.SetUp

/-!
# What the log says of a request

The lines that are printed while a request is served, and the reply that goes back.

* `Finder.trace_eq`: scripts are noted when they are written, and nothing is noted of a refusal;
* `Remark`, `Remark.fields`: what a line says, and the object that it spells;
* `RequestForm.Accounted`: the remarks that go with a reply;
* `find_accounted`, `handle_silent`: the remarks of a request, and when there are none;
* `Journal.Prints`: a journal that prints its lines from a level on;
* `noteAll_prints`: of events the lines from this level on are printed, and nothing else;
* `read_eventLine`: the line of an event is read back as that of its remark;
* **`serve_accounts`**: the lines that are printed agree with the reply.
-/

namespace TraversalScript

/-! ## Events of scripts -/

namespace Finder

variable (f : Finder) (n : Node) (e : Entity)

/-- What comes of writing the scripts, with the events on the way: once the predicate is written
nothing is refused. -/
theorem trace_eq : (f.trace n e).outcome =
    match f.generate n e, (f.compile n e).outcome.1 with
    | .ok scripts, .ok fragment =>
      (.ok scripts, .compiled n.tag e.label fragment :: scripts.map (.generated e.label))
    | x, _ => (x, []) := by
  unfold generate trace compile
  cases scope e with
  | error x => rfl
  | ok all =>
    cases f.labelStep e with
    | error x => rfl
    | ok labelled =>
      cases predicate ⟨e.idField, f.idProperty⟩ n with
      | error x => rfl
      | ok fragment => rfl

/-- A script ends with its predicate. -/
theorem exists_script {scripts : List String} (h : f.generate n e = .ok scripts) :
    ∃ start fragment, (f.compile n e).outcome.1 = .ok fragment ∧
      scripts = [start ++ "where(" ++ fragment ++ ")"] := by
  have ho := @outcome_generate f n e
  rw [h] at ho
  cases ho with
  | @script scope p l t kind property label fragment =>
    refine ⟨"g." ++ scope ++ ".has(" ++ p ++ ", " ++ l ++ ").", t, fragment, ?_⟩
    have hw : ").where(" = ")." ++ "where(" := rfl
    simp only [hw, String.append_assoc]

end Finder

/-! ## Remarks on requests -/

/-- What a line of the log says of a request: a level by its number and its name, the module that
notes it, and the message. -/
structure Remark where
  level : Int
  name : String
  module : String
  message : String

/-- The fields of the line of a remark, for a time, a service and the id of a request. -/
def Remark.fields (e : Remark) (time : DateTime) (service id : String) : List (String × Json) :=
  [("timestamp", .text (time.iso "T")), ("level", .text e.name), ("service", .text service),
    ("correlation_id", .text id), ("module", .text e.module), ("message", .text e.message)]

/-- The operator at the root of a form. -/
def CriteriaForm.operator : CriteriaForm → Operator
  | node o _ _ _ => o

/-- **The remarks that go with a reply to a form**: with scripts, the predicate, the script that
ends with it and is sent, and the number of scripts; with a refusal, its kind and message alone. -/
inductive RequestForm.Accounted (form : RequestForm) (f : Finder) (took : Binary64) :
    Nat → Body → List Remark → Prop
  | answered {n : Node} {start fragment : String} (built : form.criteria.build = .ok n)
      (compiled : (f.compile n form.entity.toEntity).outcome.1 = .ok fragment)
      (generated : f.generate n form.entity.toEntity =
        .ok [start ++ "where(" ++ fragment ++ ")"]) :
      Accounted form f took 200 (.answer ⟨[start ++ "where(" ++ fragment ++ ")"], took⟩)
        [⟨10, "DEBUG", "compiler", "Compiled " ++ ("CriteriaType." ++ form.criteria.operator.name) ++
            " criteria for " ++ form.entity.label ++ ": " ++ fragment⟩,
          ⟨10, "DEBUG", "generator", "Generated find script for " ++ form.entity.label ++ ": " ++
            (start ++ "where(" ++ fragment ++ ")")⟩,
          ⟨20, "INFO", "routes", "Generated 1 script(s) for " ++ form.entity.label ++ " in " ++
            String.ofList (took.fixed 2 false) ++ "ms"⟩]
  | refused {e : ScriptError} {detail : Option (List (String × Json))}
      (failed : (form.criteria.build >>= fun n => f.generate n form.entity.toEntity) =
        .error (.script e)) :
      Accounted form f took 422 (.fault ⟨e.kind.word, e.message, detail⟩)
        [⟨30, "WARNING", "routes",
          "Script generation failed (" ++ e.kind.word ++ "): " ++ e.message⟩]

/-- The remark of an event. -/
def Event.remark (e : Event) : Remark := ⟨e.level, Level.name e.level, e.module, e.words⟩

theorem Event.remark_answered (count : Nat) (label : String) (took : Binary64) :
    (answered count (.text label) took).remark =
      ⟨20, "INFO", "routes", "Generated " ++ shownInt count ++ " script(s) for " ++ label ++ " in " ++
        String.ofList (took.fixed 2 false) ++ "ms"⟩ := rfl

section

variable {config : Config} {f : Finder} {form : RequestForm} {took : Binary64}

/-- The scripts for a form, with the events on the way. -/
theorem scripts_outcome : ((⟨config, some f⟩ : Services).scripts form).outcome =
    match form.criteria.build with
    | .ok n => (f.trace n form.entity.toEntity).outcome
    | .error x => (.error x, []) := by
  rw [CriteriaForm.build_eq_toNode]
  unfold Services.scripts
  cases form.criteria.toNode with
  | error e => rfl
  | ok n => rfl

/-- The tree that is built from a form has its operator. -/
theorem tag_of_build {form : CriteriaForm} {n : Node} (h : form.build = .ok n) :
    n.tag = .member (.operator form.operator) := by
  rw [form.eq_mirror_of_build h]
  cases form
  rfl

/-- A reply to a form goes with its remarks, if the endpoint is switched on. -/
theorem find_accounted (he : config.enabled.truthy = true) {status : Nat} {body : Body}
    (h : (Services.find ⟨config, some f⟩ form took).1 = .ok (status, body)) :
    form.Accounted f took status body
      ((Services.find ⟨config, some f⟩ form took).2.map Event.remark) := by
  unfold Services.find at h ⊢
  rw [scripts_outcome] at h ⊢
  simp only [he, Bool.not_true, Bool.false_eq_true, if_false] at h ⊢
  cases hb : form.criteria.build with
  | error x =>
    rw [hb] at h
    cases x with
    | script e =>
      cases h
      exact .refused (by rw [hb]; rfl)
    | misuse m => cases h
  | ok n =>
    simp only [hb, Finder.trace_eq] at h ⊢
    cases hg : f.generate n form.entity.toEntity with
    | error x =>
      rw [hg] at h
      cases x with
      | script e =>
        cases h
        exact .refused (by rw [hb]; exact hg)
      | misuse m => cases h
    | ok scripts =>
      obtain ⟨start, fragment, hc, rfl⟩ := f.exists_script n form.entity.toEntity hg
      simp only [hg, hc, tag_of_build hb] at h ⊢
      cases h
      have hcount : "Generated " ++ shownInt (1 : Nat) ++ " script(s) for " =
          "Generated 1 script(s) for " := by decide +kernel
      simp only [List.map_cons, List.cons_append, List.map_nil, List.nil_append,
        Event.remark_answered, List.length_singleton, hcount]
      exact .answered hb hc hg

/-- Nothing is noted of a request whose body holds no form, or while the endpoint is switched
off. -/
theorem handle_silent {s : Services} {r : Request}
    (h : s.config.enabled.truthy = false ∨ ∀ form, r.form? ≠ some (.accepted form)) :
    (s.handle r took).2 = [] := by
  have hfind : (s.findFor r took).2 = [] := by
    unfold Services.findFor
    split
    · rfl
    · rfl
    case h_3 form hform =>
      obtain h | h := h
      · rw [Services.find, h]
        rfl
      · exact absurd hform (h form)
  have hroute : (s.route r took).2 = [] := by
    unfold Services.route
    split
    · split
      · rfl
      · split <;> rfl
    · split
      · rfl
      · split
        · rfl
        · exact hfind
  have hrespond : (s.respond r took).2 = [] := by
    unfold Services.respond
    split
    · split <;> rfl
    · exact hroute
  unfold Services.handle
  rcases hr : s.respond r took with ⟨outcome, events⟩
  rw [hr] at hrespond
  cases outcome <;> exact hrespond

end

/-! ## Lines of events -/

theorem Event.level_pos (e : Event) : 0 < e.level := by
  cases e <;> exact Int.sign_eq_one_iff_pos.1 rfl

namespace Journal

/-- A journal in which the service logs from a level on, and whose lines are printed under the name
of a service and nowhere else. -/
structure Prints (service : String) (least : Int) (j : Journal) : Prop where
  level : (j.logger defaultLogger).level = least
  own : least ≠ 0
  lines : ∀ r : Record, 0 ≤ r.level → (j.logger defaultLogger).lines r = [r.line (.text service)]
  closed : (j.logger defaultLogger).propagates = false

variable {service : String} {least : Int} {j k : Journal}

theorem Prints.of_shut (h : j.Prints service least)
    (hk : (k.logger defaultLogger).shut = (j.logger defaultLogger).shut) :
    k.Prints service least := by
  have hlevel := congrArg Logger.level hk
  have hclosed := congrArg Logger.propagates hk
  refine ⟨hlevel.trans h.level, h.own, fun r hr => ?_, hclosed.trans h.closed⟩
  rw [← Logger.lines_shut, hk, Logger.lines_shut, h.lines r hr]

/-- A logger that was set up at a level of its own prints, unless its file could not be opened for
another reason than a denial. -/
theorem Prints.of_current {c : SetUpCall} {d : Disk} (h : c.Current defaultLogger d k)
    (hlevel : c.ownLevel ≠ 0) (hf : ∃ w, c.filing d = .ok w) : k.Prints c.service c.ownLevel where
  level := h.level
  own := hlevel
  lines := fun r hr => (Handler.takeAll_spec r _ d).2.symm.trans (h.written r d hr).1
  closed := h.closed hf

/-- The line of an event. -/
def eventLine (j : Journal) (service : String) (e : Event) : String :=
  (j.record e.level e.module e.words).line (.text service)

/-- An event is printed if its level is high enough. -/
theorem emit_prints (h : j.Prints service least) (e : Event) :
    (j.emit defaultLogger e.level e.module e.words).2 =
      if least ≤ e.level then [j.eventLine service e] else [] := by
  have hpos := e.level_pos
  have henabled : j.isEnabled defaultLogger e.level = decide (least ≤ e.level) := by
    rw [isEnabled_eq (by rw [h.level]; exact h.own), h.level, decide_eq_true hpos, Bool.true_and]
  by_cases hl : least ≤ e.level
  · have he := henabled.trans (decide_eq_true hl)
    obtain ⟨above, -, hnone, hlines⟩ := emit_own he e.module e.words
    obtain rfl := hnone h.closed
    rw [if_pos hl, hlines, h.lines _ (Int.le_of_lt hpos)]
    rfl
  · rw [if_neg hl, emit, henabled, decide_eq_false hl]
    rfl

/-- **Of events the lines from the level of the log on are printed**, in their order, and nothing
else. -/
theorem noteAll_prints (h : j.Prints service least) (es : List Event) :
    (j.noteAll es).2 = (es.filter fun e => least ≤ e.level).map (j.eventLine service) := by
  induction es generalizing j with
  | nil => rfl
  | cons e es ih =>
    have hk : (j.emit defaultLogger e.level e.module e.words).1.Prints service least :=
      h.of_shut (j.emit_shut ..)
    -- clock and id stay, so the lines that follow are those of the journal before
    have hlogged := @emit_logged (fun _ => True) e.level e.module e.words j (fun _ => trivial)
      defaultLogger
    have hlines : (j.emit defaultLogger e.level e.module e.words).1.eventLine service =
        j.eventLine service := by
      funext e
      rw [eventLine, eventLine, record, record, hlogged.time, hlogged.correlation]
    rw [noteAll]
    simp only [emit_prints h e, ih hk, hlines, List.filter_cons, decide_eq_true_eq]
    by_cases hl : least ≤ e.level
    · rw [if_pos hl, if_pos hl]
      rfl
    · rw [if_neg hl, if_neg hl]
      rfl

/-- The line of an event is read back as that of its remark. -/
theorem read_eventLine {id : String} (h : Record.shownCorrelation j.correlation = .text id)
    (service : String) (e : Event) :
    Json.read (j.eventLine service e) = .ok (.object (e.remark.fields j.time service id)) := by
  let t : LogTexts := ⟨j.time, Level.name e.level, service, some id, e.module, e.words, none⟩
  have hline : j.eventLine service e = t.line.text := by
    have hs : (j.record e.level e.module e.words).shown (.text service) = t.line := by
      simp only [Record.shown, record, h]
      rfl
    rw [eventLine, Record.line, hs]
  rw [hline, t.read_text]
  rfl

end Journal

/-! ## Lines of requests -/

theorem noting_logger (j : Journal) (r : Request) (n : String) :
    (App.noting j r).logger n = j.logger n := by
  unfold App.noting
  split <;> rfl

theorem noting_time (j : Journal) (r : Request) : (App.noting j r).time = j.time := by
  unfold App.noting
  split <;> rfl

theorem serve_of_silent {a : App} {r : Request} {took : Binary64}
    (h : (a.services.handle r took).2 = []) :
    (a.serve r took).1.journal = { a.journal with correlation := .null } ∧
      (a.serve r took).2.2 = [] := by
  simp only [App.serve, h, Journal.noteAll, and_true]
  unfold App.noting
  split <;> rfl

/-- **The lines that are printed agree with the reply.** While the endpoint is switched on, the
lines of a form are read back as those of the remarks that go with its reply, from the level of the
log on; while it is switched off, or if the body holds no form, nothing is printed or written. -/
theorem serve_accounts {config : Config} {i l : String} {a : App}
    (hs : a.services = ⟨config, some ⟨.text i, .text l⟩⟩) (hnull : a.journal.correlation = .null)
    {r : Request} (hm : r.method = "POST") (hp : r.path = "/v1/scripts/find") (took : Binary64) :
    (config.enabled.truthy = true → ∀ form, r.form? = some (.accepted form) →
      ∀ service least, a.journal.Prints service least →
        ∃ status body remarks,
          form.Accounted ⟨.text i, .text l⟩ took status body remarks ∧
          (a.serve r took).2.1 = ⟨status, Services.echoes r, body⟩ ∧
          (a.serve r took).2.2.map Json.read =
            (remarks.filter fun e => least ≤ e.level).map fun e =>
              .ok (.object (e.fields a.journal.time service (r.id?.getD "-")))) ∧
    ((config.enabled.truthy = false ∨ ∀ form, r.form? ≠ some (.accepted form)) →
      (a.serve r took).1.journal = { a.journal with correlation := .null } ∧
        (a.serve r took).2.2 = []) := by
  constructor
  · intro he form hf service least hj
    obtain ⟨status, body, hr, -⟩ := find_answered config i l (short_of_form? hf) took
    have hnoting : (App.noting a.journal r).Prints service least :=
      hj.of_shut (congrArg Logger.shut (noting_logger a.journal r _))
    have hh : ¬r.method = Services.headMethod := by
      rw [hm]
      decide
    have hhandle : a.services.handle r took = (⟨status, Services.echoes r, body⟩,
        (Services.find ⟨config, some ⟨.text i, .text l⟩⟩ form took).2) := by
      rw [hs, Services.handle, respond_eq_find _ took hm hp hf, hr]
      simp only [Except.map, if_neg hh, List.nil_append]
    refine ⟨status, body, _, find_accounted he hr, ?_, ?_⟩
    · simp only [App.serve, hhandle]
    · have hread := Journal.read_eventLine (shown_noting hnull r) service
      simp only [App.serve, hhandle, Journal.noteAll_prints hnoting, List.map_map,
        List.filter_map]
      refine List.map_congr_left fun e _ => ?_
      rw [Function.comp_apply, hread, noting_time]
      rfl
  · intro h
    apply serve_of_silent
    apply handle_silent
    rw [hs]
    exact h

/-- A call for details on a console alone. -/
def detailCall : SetUpCall := ⟨defaultService, none, some Level.debug, Level.info, false⟩

/-- A service that prints details. -/
def detailedApp : App :=
  ⟨.ofConfig .default,
    ((Journal.start startTime .empty).step (.setUp defaultLogger detailCall)).1⟩

theorem detailedApp_prints : detailedApp.journal.Prints defaultService 10 := by
  have hcurrent := @Journal.current_setUp (.start startTime .empty) defaultLogger detailCall []
    nofun
  exact .of_current hcurrent (by decide) ⟨none, rfl⟩

/-- A request for a tree and one with an operand that cannot be read are accounted for, and without
a body nothing is printed. -/
theorem serve_accounts_trees :
    detailedApp.services = ⟨.default, some ⟨.text "id", .text "label"⟩⟩ ∧
    detailedApp.journal.correlation = .null ∧ detailedApp.journal.Prints defaultService 10 ∧
    (∃ form body remarks, (treeRequest equalText).form? = some (.accepted form) ∧
      form.Accounted ⟨.text "id", .text "label"⟩ (.ofInt 7) 200 body remarks ∧
      (detailedApp.serve (treeRequest equalText) (.ofInt 7)).2.1 =
        ⟨200, Services.echoes (treeRequest equalText), body⟩ ∧
      (detailedApp.serve (treeRequest equalText) (.ofInt 7)).2.2.map Json.read =
        (remarks.filter fun e => 10 ≤ e.level).map fun e =>
          .ok (.object (e.fields detailedApp.journal.time defaultService "-"))) ∧
    (∃ form body remarks, (treeRequest listText).form? = some (.accepted form) ∧
      form.Accounted ⟨.text "id", .text "label"⟩ (.ofInt 7) 422 body remarks ∧
      (detailedApp.serve (treeRequest listText) (.ofInt 7)).2.1 =
        ⟨422, Services.echoes (treeRequest listText), body⟩ ∧
      (detailedApp.serve (treeRequest listText) (.ofInt 7)).2.2.map Json.read =
        (remarks.filter fun e => 10 ≤ e.level).map fun e =>
          .ok (.object (e.fields detailedApp.journal.time defaultService "-"))) ∧
    (detailedApp.serve { treeRequest equalText with body := none } (.ofInt 7)).2.2 = [] := by
  have hs : detailedApp.services = ⟨.default, some ⟨.text "id", .text "label"⟩⟩ := rfl
  have hnull : detailedApp.journal.correlation = .null := rfl
  have accounts {r : Request} {form : RequestForm} {n : Nat} (hm : r.method = "POST")
      (hp : r.path = "/v1/scripts/find") (hid : r.id? = none) (hf : r.form? = some (.accepted form))
      (hn : (plainServices.find form (.ofInt 7)).1.toOption.map Prod.fst = some n) :
      ∃ body remarks, form.Accounted ⟨.text "id", .text "label"⟩ (.ofInt 7) n body remarks ∧
        (detailedApp.serve r (.ofInt 7)).2.1 = ⟨n, Services.echoes r, body⟩ ∧
        (detailedApp.serve r (.ofInt 7)).2.2.map Json.read =
          (remarks.filter fun e => 10 ≤ e.level).map fun e =>
            .ok (.object (e.fields detailedApp.journal.time defaultService "-")) := by
    obtain ⟨status, body, remarks, ha, hreply, hlines⟩ :=
      (serve_accounts hs hnull hm hp (.ofInt 7)).1 rfl form hf _ _ detailedApp_prints
    obtain rfl : status = n := by
      rw [← handle_status plainServices hm hp hf hn]
      exact (congrArg Reply.status hreply).symm
    rw [hid] at hlines
    exact ⟨body, remarks, ha, hreply, hlines⟩
  have hnone : ∀ form, { treeRequest equalText with body := none }.form? ≠
      some (.accepted form) := by
    intro form h
    unfold Request.form? at h
    injection h with h
    cases h
  obtain ⟨⟨a, ha, -, hsa⟩, -, b, hb, -, hsb⟩ := treeRequest_forms
  obtain ⟨bodya, remarksa, haccount, hreply, hlines⟩ := accounts rfl rfl rfl ha hsa
  obtain ⟨bodyb, remarksb, haccount', hreply', hlines'⟩ := accounts rfl rfl rfl hb hsb
  exact ⟨hs, hnull, detailedApp_prints, ⟨a, bodya, remarksa, ha, haccount, hreply, hlines⟩,
    ⟨b, bodyb, remarksb, hb, haccount', hreply', hlines'⟩,
    ((serve_accounts hs hnull rfl rfl (.ofInt 7)).2 (.inr hnone)).2⟩

end TraversalScript
