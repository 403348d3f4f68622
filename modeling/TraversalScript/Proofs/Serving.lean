import TraversalScript.Proofs.Endpoint
import TraversalScript.Proofs.Runs
import TraversalScript.Proofs.Trail

/-!
# Runs of the service

Requests are served one at a time, and between them the services may be replaced.

* `App.Input`, `App.step`: what happens to a service, and what comes of it;
* `latest`, `run_services`: the services that were set up last, which answer the next request;
* `run_correlation`: between two requests there is no current id;
* `headersNamed_echoes`, `handle_headers`: the headers of a reply with the id of its request;
* `handle_health`, `health_iff`: what is said of the scripts, and whether a request for scripts is
  turned away;
* `Served`: what is to come of a request;
* **`run_serves`**: it does, whatever was served before.
-/

namespace TraversalScript

/-! ## Steps -/

namespace App

/-- What happens to a service: it is configured anew, or it is asked something and takes so many
milliseconds. -/
inductive Input where
  | configure (c : Config)
  | request (r : Request) (took : Binary64)

/-- The configuration that an input brings. -/
def Input.config? : Input → Option Config
  | configure c => some c
  | request .. => none

/-- The service after an input, and the reply to a request with the lines printed. -/
def step (a : App) : Input → App × Option (Reply × List String)
  | .configure c => (a.configure c, none)
  | .request r took => ((a.serve r took).1, some (a.serve r took).2)

end App

open App (Input)

/-- The services that were set up last. -/
def latest (s : Services) (inputs : List Input) : Services :=
  (inputs.filterMap Input.config?).getLast?.elim s Services.ofConfig

theorem latest_cons (s : Services) (x : Input) (inputs : List Input) :
    latest s (x :: inputs) = latest (x.config?.elim s Services.ofConfig) inputs := by
  cases x with
  | request r took => rfl
  | configure c =>
    simp only [latest, Input.config?, List.filterMap_cons, List.getLast?_cons, Option.elim_some]
    cases (inputs.filterMap Input.config?).getLast? <;> rfl

theorem run_services (a : App) (inputs : List Input) :
    (runSteps App.step a inputs).1.services = latest a.services inputs := by
  induction inputs generalizing a with
  | nil => rfl
  | cons x inputs ih =>
    rw [runSteps, ih, latest_cons]
    cases x <;> rfl

theorem run_correlation {a : App} (h : a.journal.correlation = .null) (inputs : List Input) :
    (runSteps App.step a inputs).1.journal.correlation = .null := by
  refine runSteps_invariant (P := fun a => a.journal.correlation = .null) App.step ?_ h inputs
  intro a x ha
  cases x with
  | configure c => exact ha
  | request r took => rfl

/-! ## Ids -/

/-- The header with the id of a request. -/
def idHeader : String := "x-request-id"

/-- The headers of a name. -/
def headersNamed (name : String) (headers : List (String × String)) : List (String × String) :=
  headers.filter fun h => h.1 == name

theorem headersNamed_echoes (r : Request) :
    headersNamed idHeader (Services.echoes r) = (r.id?.map (idHeader, ·)).toList := by
  unfold Services.echoes Request.id?
  cases r.header? "x-request-id" with
  | none => cases r.header? "origin" <;> rfl
  | some id =>
    simp only [Option.filter_some]
    cases id.isEmpty <;> cases r.header? "origin" <;> rfl

section

variable {s : Services} {r : Request} {took : Binary64} {x : Nat × List (String × String) × Body}

theorem headersNamed_route (h : (s.route r took).1 = .ok x) : headersNamed idHeader x.2.1 = [] := by
  have hfind (found : Except Misuse (Nat × Body))
      (hx : found.map (fun b => (b.1, [], b.2)) = .ok x) : x.2.1 = [] := by
    cases found with
    | error m => cases hx
    | ok b =>
      cases hx
      rfl
  unfold Services.route at h
  split at h
  · split at h
    · cases h
      unfold Services.pageFor
      split <;> rfl
    · split at h <;> cases h <;> rfl
  · split at h
    · cases h
      rfl
    · split at h
      · cases h
        rfl
      · rw [hfind _ h]
        rfl

theorem headersNamed_respond (h : (s.respond r took).1 = .ok x) :
    headersNamed idHeader x.2.1 = [] := by
  unfold Services.respond at h
  split at h
  · split at h <;> cases h <;> rfl
  · exact headersNamed_route h

end

/-- A reply has the id of its request as a header, once; a service that fails has none to send. -/
theorem handle_headers (s : Services) (r : Request) (took : Binary64) :
    (∀ x, (s.respond r took).1 = .ok x →
      headersNamed idHeader (s.handle r took).1.headers = (r.id?.map (idHeader, ·)).toList) ∧
    ∀ m, (s.respond r took).1 = .error m → (s.handle r took).1 = Services.failure := by
  unfold Services.handle
  -- the id is added to the headers of a reply, so these must not name one already
  rcases hr : s.respond r took with ⟨outcome, events⟩
  cases outcome with
  | error m => exact ⟨nofun, fun _ _ => rfl⟩
  | ok x =>
    refine ⟨fun _ _ => ?_, nofun⟩
    have hn : headersNamed idHeader x.2.1 = [] := headersNamed_respond (by rw [hr])
    simp only [headersNamed, List.filter_append] at hn ⊢
    rw [hn, List.nil_append]
    exact headersNamed_echoes r

/-! ## Health -/

section Health

variable (s : Services) {check : Request} (took : Binary64)

theorem handle_health (hm : check.method = "GET") (hp : check.path = "/health") :
    (s.handle check took).1 = ⟨200, Services.echoes check, .health s.health⟩ := by
  have ha : Services.announced? check = none := by
    rw [Services.announced?, if_neg]
    rw [hm]
    exact fun h => absurd h.1 (by decide)
  have he : Endpoint.ofPath? check.path = some .health := by
    rw [hp]
    decide
  have hw : ¬check.method ≠ Endpoint.health.method := by
    rw [hm]
    decide
  have hh : ¬check.method = Services.headMethod := by
    rw [hm]
    decide
  simp only [Services.handle, Services.respond, ha, Services.route, he, if_neg hw, if_neg hh,
    List.nil_append]

theorem status_eq_iff {asked : Request} {form : RequestForm} (hm : asked.method = "POST")
    (hp : asked.path = "/v1/scripts/find") (hf : asked.form? = some (.accepted form)) :
    (s.handle asked took).1.status = 503 ↔ s.config.enabled.truthy = false := by
  rw [Services.handle, respond_eq_find s took hm hp hf, Services.find]
  cases s.config.enabled.truthy with
  | false => simp [Except.map]
  | true =>
    simp only [Bool.not_true, Bool.false_eq_true, if_false]
    rcases (s.scripts form).outcome with ⟨⟨e | m⟩ | found, events⟩
    · simp [Except.map]
    · simp [Services.failure, Except.map]
    · simp [Except.map]

/-- Scripts are said to be enabled exactly if no request for scripts is turned away. -/
theorem health_iff {asked : Request} {form : RequestForm} (hm : asked.method = "POST")
    (hp : asked.path = "/v1/scripts/find") (hf : asked.form? = some (.accepted form)) :
    s.health.services.lookup "script_api" = some "enabled" ↔
      (s.handle asked took).1.status ≠ 503 := by
  rw [ne_eq, status_eq_iff s took hm hp hf]
  have hl : s.health.services.lookup "script_api" =
      some (if s.config.enabled.truthy then "enabled" else "disabled") := rfl
  rw [hl]
  cases s.config.enabled.truthy <;> decide

end Health

/-! ## What is to come of a request -/

/-- The id that the lines of a request show. -/
def Request.shownId (r : Request) : String := r.id?.getD Record.noCorrelation

theorem shown_noting {j : Journal} (h : j.correlation = .null) (r : Request) :
    Record.shownCorrelation (App.noting j r).correlation = .text r.shownId := by
  unfold App.noting Request.shownId
  cases hid : r.id? with
  | none =>
    rw [h]
    rfl
  | some id =>
    have hne : (!id.isEmpty) = true := (Option.filter_eq_some_iff.1 hid).2
    exact if_pos hne

/-- What is to come of a request that is served by services: the reply is theirs, and has the id of
the request exactly if there is one, unless they fail; all lines that are printed or written to
files on the way show the id of this request, or that it has none; and no id is left. -/
structure Served (s : Services) (r : Request) (took : Binary64) (reply : Reply)
    (printed : List String) (j k : Journal) : Prop where
  own : reply = (s.handle r took).1
  echoed : ∀ x, (s.respond r took).1 = .ok x →
    headersNamed idHeader reply.headers = (r.id?.map (idHeader, ·)).toList
  failed : ∀ m, (s.respond r took).1 = .error m → reply = Services.failure
  lines : ∀ line ∈ printed, Shows r.shownId line
  files : j.disk.Written (Shows r.shownId) k.disk
  cleared : k.correlation = .null

theorem serve_served {a : App} (h : a.journal.correlation = .null) (r : Request)
    (took : Binary64) : Served a.services r took (a.serve r took).2.1 (a.serve r took).2.2 a.journal
      (a.serve r took).1.journal := by
  have hl : Journal.Logged (Shows r.shownId) (App.noting a.journal r) _ _ :=
    Journal.noteAll_logged (a.services.handle r took).2 fun level module message service =>
      Record.shows_line (shown_noting h r) service
  have hd : (App.noting a.journal r).disk = a.journal.disk := by
    unfold App.noting
    split <;> rfl
  obtain ⟨hechoed, hfailed⟩ := handle_headers a.services r took
  exact ⟨rfl, hechoed, hfailed, hl.printed, hd ▸ hl.written, rfl⟩

/-- **Every request is served by the services that were set up last**, whatever was served before:
its reply, its lines and the headers are those of this request alone, and no id outlives it. At any
time scripts are said to be enabled exactly if no request for scripts is turned away. -/
theorem run_serves {a : App} (h : a.journal.correlation = .null) (inputs : List Input) :
    (∀ before r took after, inputs = before ++ .request r took :: after →
      ∃ reply printed,
        (runSteps App.step a inputs).2[before.length]? = some (some (reply, printed)) ∧
        Served (latest a.services before) r took reply printed
          (runSteps App.step a before).1.journal
          (runSteps App.step a (before ++ [.request r took])).1.journal) ∧
    (∀ check asked form took, check.method = "GET" → check.path = "/health" →
      asked.method = "POST" → asked.path = "/v1/scripts/find" →
      asked.form? = some (.accepted form) →
      ∃ report, ((runSteps App.step a inputs).1.serve check took).2.1 =
          ⟨200, Services.echoes check, .health report⟩ ∧
        (report.services.lookup "script_api" = some "enabled" ↔
          ((runSteps App.step a inputs).1.serve asked took).2.1.status ≠ 503)) ∧
    (runSteps App.step a inputs).1.journal.correlation = .null := by
  refine ⟨?_, ?_, run_correlation h inputs⟩
  · rintro before r took after rfl
    refine ⟨_, _, runSteps_output .., ?_⟩
    rw [runSteps_concat, ← run_services]
    exact serve_served (run_correlation h before) r took
  · intro check asked form took hm hp hma hpa hf
    exact ⟨_, handle_health _ took hm hp, health_iff _ took hma hpa hf⟩

/-- A time to start a service at. -/
def startTime : DateTime :=
  ⟨⟨2020, 1, 2, by decide, by decide, by decide, by decide⟩, .start, none⟩

/-- A service that prints its log. -/
def printingApp : App :=
  ⟨.ofConfig .default,
    { Journal.start startTime .empty with
      loggers := [(defaultLogger, ⟨Level.debug, [.console (.text defaultService)], false⟩)] }⟩

/-- A configuration under which every request for scripts fails. -/
def brokenConfig : Config := { Config.default with labelProperty := .int 5 }

/-- A request with an id of its own. -/
def namedRequest (id : String) : Request :=
  { treeRequest equalText with headers := [("X-Request-ID", id)] }

/-- Two requests with ids, the second of which fails, and one without. -/
def threeRequests : List Input :=
  [.request (namedRequest "a") (.ofInt 1), .configure brokenConfig,
    .request (namedRequest "b") (.ofInt 2), .configure .default,
    .request (treeRequest equalText) (.ofInt 3)]

/-- After a request that failed, the next one is served as if nothing had been before it. -/
theorem run_serves_three : printingApp.journal.correlation = .null ∧
    (∃ reply printed, (runSteps App.step printingApp threeRequests).2[2]? =
        some (some (reply, printed)) ∧
      Served (.ofConfig brokenConfig) (namedRequest "b") (.ofInt 2) reply printed
        (runSteps App.step printingApp (threeRequests.take 2)).1.journal
        (runSteps App.step printingApp (threeRequests.take 3)).1.journal) ∧
    ∃ reply printed, (runSteps App.step printingApp threeRequests).2[4]? =
        some (some (reply, printed)) ∧
      Served (.ofConfig .default) (treeRequest equalText) (.ofInt 3) reply printed
        (runSteps App.step printingApp (threeRequests.take 4)).1.journal
        (runSteps App.step printingApp threeRequests).1.journal := by
  have h : printingApp.journal.correlation = .null := rfl
  obtain ⟨hserved, -⟩ := run_serves h threeRequests
  exact ⟨h, hserved (threeRequests.take 2) (namedRequest "b") _ (threeRequests.drop 3) rfl,
    hserved (threeRequests.take 4) (treeRequest equalText) _ [] rfl⟩

end TraversalScript
