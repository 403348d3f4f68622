import TraversalScript.Log.Journal
import TraversalScript.Service.Config
import TraversalScript.Service.Exchange

/-!
# The service

The service answers one request at a time, and notes in the log what it does.

* `Services`: the configuration, and what writes scripts, with `Services.ofParts`;
* `Services.find`, `Services.health`: what the two endpoints answer;
* **`Services.handle`**: the reply to a request, and the events on the way;
* `App`, `App.serve`: the service with its log;
* `App.launch`: the service as the environment sets it up.
-/

namespace TraversalScript

/-- What requests are answered with. -/
structure Services where
  config : Config
  /-- What writes the scripts, unless it was taken away. -/
  finder : Option Finder

namespace Services

/-- The services of a configuration and of what is to write the scripts; if that is not given, it is
the one that the configuration asks for. -/
def ofParts (c : Config) (given : Option Finder) : Services := ⟨c, some (given.getD c.finder)⟩

/-- The services of a configuration. -/
def ofConfig (c : Config) : Services := ofParts c none

/-! ## Endpoints -/

/-- What is said of a service that has not been configured. -/
def unconfiguredText : String := "Services not configured"

/-- The version of the service. -/
def version : String := "1.0.0"

/-- The state of the services. -/
def health (s : Services) : HealthForm :=
  ⟨if s.finder.isSome then "healthy" else "degraded",
    [("find_generator", if s.finder.isSome then "healthy" else "not_configured"),
      ("script_api", if s.config.enabled.truthy then "enabled" else "disabled")], version⟩

/-- The fault of asking for scripts while none are written. -/
def disabledFault : FaultForm :=
  ⟨"script_api_disabled", "Script generation is currently disabled", none⟩

/-- A refusal as it is sent. -/
def faultOf (e : ScriptError) : FaultForm :=
  ⟨e.kind.word, e.message,
    some (e.detail.map fun (name, v) => (name, (Json.ofValue? v).getD .null))⟩

/-- The scripts for a form; the tree is checked before anything else. -/
def scripts (s : Services) (form : RequestForm) : Traced (List String) := do
  let n ← Traced.ofExcept (form.criteria.toNode.mapError .script)
  match s.finder with
  | some f => f.trace n form.entity.toEntity
  | none => throw (.misuse .noAttribute)

/-- The reply to a request for scripts that takes so many milliseconds, and the events on the way. -/
def find (s : Services) (form : RequestForm) (took : Binary64) :
    Except Misuse (Nat × Body) × List Event :=
  if !s.config.enabled.truthy then (.ok (503, .fault disabledFault), [])
  else
    match (s.scripts form).outcome with
    | (.ok found, events) =>
      (.ok (200, .answer ⟨found, took⟩),
        events ++ [.answered found.length (.text form.entity.label) took])
    | (.error (.script e), events) =>
      (.ok (422, .fault (faultOf e)), events ++ [.failed e.kind e.message])
    | (.error (.misuse m), events) => (.error m, events)

/-! ## Requests -/

/-- The headers that every reply to a request has. -/
def echoes (r : Request) : List (String × String) :=
  let id := match r.header? "x-request-id" with
    | some id => if id.isEmpty then [] else [("x-request-id", id)]
    | none => []
  let origin := match r.header? "origin" with
    | some origin =>
      [("access-control-allow-origin", origin), ("access-control-allow-credentials", "true")]
    | none => []
  id ++ origin

/-- The reply to a request for scripts as it arrives, and the events on the way. -/
def findFor (s : Services) (r : Request) (took : Binary64) :
    Except Misuse (Nat × Body) × List Event :=
  match r.form? with
  | none => (.ok (400, .note "There was an error parsing the body"), [])
  | some (.refused i is) =>
    let body := Body.issues (i :: is)
    (if body.isSendable then .ok (422, body) else .error .badValue, [])
  | some (.accepted form) => s.find form took

/-- The reply to a request for a page. -/
def pageFor (r : Request) : Nat × List (String × String) × Body :=
  if Endpoint.pageMethods.contains r.method then (200, [], .page)
  else (405, [("allow", joined ", " Endpoint.pageMethods)], .note "Method Not Allowed")

/-- Status, headers of its own and body of the reply to a request that reaches the endpoints, and
the events on the way. -/
def route (s : Services) (r : Request) (took : Binary64) :
    Except Misuse (Nat × List (String × String) × Body) × List Event :=
  match Endpoint.ofPath? r.path with
  | none =>
    if Endpoint.isPage r.path then (.ok (pageFor r), [])
    else if Endpoint.isBeside r.path then (.ok (307, [], .plain ""), [])
    else (.ok (404, [], .note "Not Found"), [])
  | some e =>
    if r.method ≠ e.method then
      (.ok (405, [("allow", e.method)], .note "Method Not Allowed"), [])
    else
      match e with
      | .health => (.ok (200, [], .health s.health), [])
      | .find =>
        match s.findFor r took with
        | (outcome, events) => (outcome.map fun (status, body) => (status, [], body), events)

/-- The methods that pages of other origins may use. -/
def sharedMethods : List String := ["DELETE", "GET", "HEAD", "OPTIONS", "PATCH", "POST", "PUT"]

/-- The method that asks what may be asked. -/
def optionsMethod : String := "OPTIONS"

/-- The method that a page of another origin wants to use later, if that is what a request asks. -/
def announced? (r : Request) : Option String :=
  if r.method = optionsMethod ∧ (r.header? "origin").isSome then
    r.header? "access-control-request-method"
  else none

/-- Status, headers of its own and body of the reply to a request, and the events on the way. What
pages of other origins may use is answered before any endpoint is reached. -/
def respond (s : Services) (r : Request) (took : Binary64) :
    Except Misuse (Nat × List (String × String) × Body) × List Event :=
  match announced? r with
  | some method =>
    if sharedMethods.contains method then (.ok (200, [], .plain "OK"), [])
    else (.ok (400, [], .plain "Disallowed CORS method"), [])
  | none => s.route r took

/-- The method that asks for headers alone. -/
def headMethod : String := "HEAD"

/-- What goes back when serving a request fails. -/
def failure : Reply := ⟨500, [], .plain "Internal Server Error"⟩

/-- **The reply to a request**, and the events on the way, if writing the scripts takes so many
milliseconds. -/
def handle (s : Services) (r : Request) (took : Binary64) : Reply × List Event :=
  match s.respond r took with
  | (.ok (status, headers, body), events) =>
    (⟨status, headers ++ echoes r, if r.method = headMethod then body.bare else body⟩, events)
  | (.error _, events) => (failure, events)

end Services

/-! ## The log -/

/-- The journal after a list of events, and what is printed of them. -/
def Journal.noteAll (j : Journal) : List Event → Journal × List String
  | [] => (j, [])
  | e :: es =>
    let (j, lines) := j.emit defaultLogger e.level e.module e.words
    let (j, more) := noteAll j es
    (j, lines ++ more)

/-- The service with its log. -/
structure App where
  services : Services
  journal : Journal

namespace App

/-- The journal in which the id of a request is that of the current one, if the request has one. -/
def noting (j : Journal) (r : Request) : Journal :=
  match r.id? with
  | some id => { j with correlation := .text id }
  | none => j

/-- Serves a request in so many milliseconds: the reply, the lines printed, and the service after it.
The id of the request is in the log only while it is served. -/
def serve (a : App) (r : Request) (took : Binary64 := .ofInt 0) : App × Reply × List String :=
  let (reply, events) := a.services.handle r took
  let (journal, lines) := (noting a.journal r).noteAll events
  ({ a with journal := { journal with correlation := .null } }, reply, lines)

/-- Replaces the services by those of another configuration. -/
def configure (a : App) (c : Config) : App := { a with services := .ofConfig c }

/-- Takes away what writes scripts. -/
def dropFinder (a : App) : App := { a with services := { a.services with finder := none } }

/-- The service of a configuration, without a log. -/
def start (time : DateTime) (c : Config) : App := ⟨.ofConfig c, .start time .empty⟩

/-! ## Launch -/

/-- Why a service cannot be launched. -/
inductive LaunchFault where
  | issues (is : List Issue)
  | setup (fault : SetupFault)

/-- The name of an environment file. -/
def envFileName : String := ".env"

/-- The disk that a service finds when it is launched. -/
def launchDisk (file : Option String) : Disk :=
  match file with
  | some text => .ofFile envFileName text
  | none => .empty

/-- **The service as the environment and the environment file set it up.** -/
def launch (time : DateTime) (env : List (String × String)) (file : Option String) :
    Except LaunchFault App :=
  match (Settings.load [] env file).toExcept with
  | .error is => .error (.issues is)
  | .ok settings =>
    let level := Level.ofEnvironment (env.lookup (Level.variableName Level.defaultService))
    let log := (settings.logFile.map Json.text).getD .null
    let options := { LoggerOptions.default with file := log }
    match (Journal.start time (launchDisk file)).setUp level options false with
    | (_, _, some fault) => .error (.setup fault)
    | (journal, _, none) => .ok ⟨.ofConfig (.ofSettings settings), journal⟩

end App

end TraversalScript
