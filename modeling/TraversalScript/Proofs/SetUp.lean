import TraversalScript.Proofs.Loggers
import TraversalScript.Proofs.Rotation
import TraversalScript.Proofs.Serving

/-!
# Setting a logger up again

A logger may be set up as often as one likes; what was there before is taken away by the next call.

* `SetUpCall`, `SetUpCall.filing`: what is asked of a logger, and what comes of the file;
* `SetUpCall.Outcome`: what comes of a call, one case for each way in which it can end;
* `SetUpCall.logger`, `Outcome.logger_eq`: the logger that a call leaves;
* `SetUpCall.Answered`: what a call prints, and when it fails;
* `SetUpCall.Current`: what holds of a logger as long as a call is the latest one;
* `Journal.step`: what happens to a journal between two calls;
* **`run_setUp`**: after every run the latest call alone says what the logger prints and writes;
* `unsetCall_silent`: at level zero it does not take every record.
-/

namespace TraversalScript

/-! ## Calls -/

/-- A call that sets a logger up: the service that its lines name, the path of a file and a level if
they are given, the level that the environment asks for, and whether opening the file is denied. -/
structure SetUpCall where
  service : String
  file : Option String
  level : Option Int
  environment : Int
  denied : Bool

/-- The logger that a name stands for; no name is that of the root. -/
def loggerOf (name : String) : String := if name.isEmpty then rootLogger else name

namespace SetUpCall

/-- What a call asks of the logger of a name. -/
def options (c : SetUpCall) (name : String) : LoggerOptions :=
  ⟨.text c.service, (c.file.map Json.text).getD .null, (c.level.map Json.int).getD .null,
    .text name⟩

/-- The level of a call. -/
def ownLevel (c : SetUpCall) : Int := c.level.getD c.environment

/-- The path of a call, if it has one; an empty one is none. -/
def path? (c : SetUpCall) : Option String := c.file.filter fun s => !s.isEmpty

/-- What comes of the file of a call on a disk: no file if there is no path or opening it is denied,
else an open one, unless something else fails. -/
def filing (c : SetUpCall) (d : Disk) : Except DiskFault (Option Writer) :=
  match c.path? with
  | none => .ok none
  | some path =>
    if c.denied then ((Disk.prepare (Way.ofText path)).run.run d).1.map fun _ => none
    else
      ((Writer.openAt path { FileOptions.default with service := .text c.service }).run.run
        d).1.map some

/-- The handlers that a call leaves to its logger: one console, and a file if it could be opened. -/
def handlers (c : SetUpCall) (d : Disk) : List Handler :=
  .console (.text c.service) ::
    match c.filing d with
    | .ok (some w) => [.file c.ownLevel w.shut]
    | _ => []

/-- The logger that a call leaves, but for the number of its file: it keeps its records to itself,
unless the call failed. -/
def logger (c : SetUpCall) (d : Disk) (propagates : Bool) : Logger :=
  ⟨c.ownLevel, c.handlers d, match c.filing d with
    | .ok _ => false
    | .error _ => propagates⟩

/-- The journal in which a call has given a logger its level and its console. -/
def begun (c : SetUpCall) (n : String) (j : Journal) : Journal :=
  j.setLogger n { j.logger n with level := c.ownLevel, handlers := [.console (.text c.service)] }

/-- What comes of a call for a logger, one case for each way in which it can end. -/
inductive Outcome (c : SetUpCall) (n : String) (j : Journal) :
    Journal × List String × Option SetupFault → Prop
  /-- No file is asked for. -/
  | bare (asked : c.path? = none) : Outcome c n j ((c.begun n j).close n, [], none)
  /-- Opening the file is denied, which is noted. -/
  | denied {path : String} (asked : c.path? = some path) (denied : c.denied = true)
      (filing : c.filing j.disk = .ok none) (d : Disk) {k : Journal} {lines : List String}
      (noted : { c.begun n j with disk := d }.emit n Level.warning "logging"
        (Journal.deniedText path) = (k, lines)) : Outcome c n j (k.close n, lines, none)
  /-- The file is opened. -/
  | opened {w : Writer} (filing : c.filing j.disk = .ok (some w)) (d : Disk) :
      Outcome c n j
        (({ c.begun n j with disk := d }.setLogger n
          { (c.begun n j).logger n with
            handlers := ((c.begun n j).logger n).handlers ++ [Handler.file c.ownLevel w] }).close n,
          [], none)
  /-- Something else is wrong with the file. -/
  | failed {fault : DiskFault} (filing : c.filing j.disk = .error fault) (d : Disk) :
      Outcome c n j ({ c.begun n j with disk := d }, [], some (.disk fault))

theorem path?_options (c : SetUpCall) (name : String) : (c.options name).path? = .ok c.path? := by
  obtain ⟨service, file, level, environment, denied⟩ := c
  cases file with
  | none => rfl
  | some s =>
    have ht : (Json.text s).truthy = !s.isEmpty := rfl
    simp only [LoggerOptions.path?, path?, options, Option.map_some, Option.getD_some, ht,
      Option.filter_some]
    cases s.isEmpty <;> rfl

theorem setUp_eq (c : SetUpCall) (name : String) (j : Journal) :
    j.setUp c.environment (c.options name) c.denied =
      j.setUpAt (loggerOf name) c.ownLevel (c.options name) c.denied := by
  obtain ⟨service, file, level, environment, denied⟩ := c
  cases level <;> rfl

theorem filing_denied {c : SetUpCall} {path : String} (hp : c.path? = some path)
    (hd : c.denied = true) (d : Disk) :
    c.filing d = ((Disk.prepare (Way.ofText path)).run.run d).1.map fun _ => none := by
  simp only [filing, hp, hd, if_true]

theorem filing_open {c : SetUpCall} {path : String} (hp : c.path? = some path)
    (hd : c.denied = false) (d : Disk) : c.filing d = ((Writer.openAt path
      { FileOptions.default with service := .text c.service }).run.run d).1.map some := by
  simp only [filing, hp, hd, Bool.false_eq_true, if_false]

theorem outcome_setUpAt (c : SetUpCall) (name n : String) (j : Journal) :
    c.Outcome n j (j.setUpAt n c.ownLevel (c.options name) c.denied) := by
  have hbegun : j.setLogger n ⟨c.ownLevel, [.console (.text c.service)],
      (j.logger n).propagates⟩ = c.begun n j := rfl
  have hservice : (c.options name).service = .text c.service := rfl
  -- level and console are there before the disk is looked at
  have hdisk : (c.begun n j).disk = j.disk := rfl
  rw [Journal.setUpAt, path?_options]
  simp only [hservice, hbegun]
  cases hp : c.path? with
  | none => exact .bare hp
  | some path =>
    cases hd : c.denied with
    | true =>
      simp only [Journal.addFile, if_true, Journal.onDisk, hdisk]
      have hf := filing_denied hp hd j.disk
      rcases hx : (Disk.prepare (Way.ofText path)).run.run j.disk with ⟨outcome, d⟩
      rw [hx] at hf
      cases outcome with
      | error fault => exact .failed hf d
      | ok u => exact .denied hp hd hf d rfl
    | false =>
      simp only [Journal.addFile, Bool.false_eq_true, if_false, Journal.onDisk, hdisk]
      have hf := filing_open hp hd j.disk
      rcases hx : (Writer.openAt path
        { FileOptions.default with service := .text c.service }).run.run j.disk with ⟨outcome, d⟩
      rw [hx] at hf
      cases outcome with
      | error fault => exact .failed hf d
      | ok w => exact .opened hf d

theorem outcome_setUp (c : SetUpCall) (name : String) (j : Journal) :
    c.Outcome (loggerOf name) j (j.setUp c.environment (c.options name) c.denied) := by
  rw [setUp_eq]
  exact c.outcome_setUpAt name _ j

end SetUpCall

namespace Journal

theorem shut_close (j : Journal) (n : String) :
    ((j.close n).logger n).shut = { (j.logger n).shut with propagates := false } := by
  rw [close, logger_setLogger_self]
  rfl

theorem logger_close_ne (j : Journal) {n m : String} (h : m ≠ n) :
    (j.close n).logger m = j.logger m := by
  rw [close, logger_setLogger, if_neg h]

end Journal

/-! ## What a call leaves -/

namespace SetUpCall

variable {c : SetUpCall} {n : String} {j : Journal} {r : Journal × List String × Option SetupFault}

theorem shut_begun (c : SetUpCall) (n : String) (j : Journal) : ((c.begun n j).logger n).shut =
    ⟨c.ownLevel, [.console (.text c.service)], (j.logger n).propagates⟩ := by
  rw [begun, Journal.logger_setLogger_self]
  rfl

theorem logger_begun_ne (c : SetUpCall) (j : Journal) {m : String} (h : m ≠ n) :
    (c.begun n j).logger m = j.logger m := by
  rw [begun, Journal.logger_setLogger, if_neg h]

/-- A call leaves its logger, whatever was there before. -/
theorem Outcome.logger_eq (h : c.Outcome n j r) :
    (r.1.logger n).shut = c.logger j.disk (j.logger n).propagates := by
  have hbegun (d : Disk) : (({ c.begun n j with disk := d } : Journal).logger n).shut = _ :=
    c.shut_begun n j
  cases h with
  | bare asked =>
    have hf : c.filing j.disk = .ok none := by simp only [filing, asked]
    rw [Journal.shut_close, shut_begun, logger, handlers, hf]
  | @denied path asked denied filing d k lines noted =>
    have hk := Journal.emit_shut { c.begun n j with disk := d } n Level.warning "logging"
      (Journal.deniedText path) n
    rw [noted, hbegun] at hk
    rw [Journal.shut_close, hk, logger, handlers, filing]
  | opened filing d =>
    rw [Journal.shut_close, Journal.logger_setLogger_self, logger, handlers, filing]
    have hb := congrArg Logger.handlers (c.shut_begun n j)
    have hl := congrArg Logger.level (c.shut_begun n j)
    simp only [Logger.shut] at hb hl ⊢
    rw [List.map_append, hb, hl]
    rfl
  | failed filing d => rw [hbegun, logger, handlers, filing]

/-- A call leaves all other loggers as they are. -/
theorem Outcome.logger_ne (h : c.Outcome n j r) {m : String} (hm : m ≠ n) :
    (r.1.logger m).shut = (j.logger m).shut := by
  have hbegun (d : Disk) : ({ c.begun n j with disk := d } : Journal).logger m = j.logger m :=
    c.logger_begun_ne j hm
  cases h with
  | bare asked => rw [Journal.logger_close_ne _ hm, c.logger_begun_ne j hm]
  | @denied path asked denied filing d k lines noted =>
    have hk := Journal.emit_shut { c.begun n j with disk := d } n Level.warning "logging"
      (Journal.deniedText path) m
    rw [noted, hbegun] at hk
    rw [Journal.logger_close_ne _ hm, hk]
  | opened filing d =>
    rw [Journal.logger_close_ne _ hm, Journal.logger_setLogger, if_neg hm, hbegun]
  | failed filing d => rw [hbegun]

/-! ## What a call answers -/

/-- The record of a file that may not be opened. -/
def denial (j : Journal) (path : String) : Record :=
  j.record Level.warning "logging" (Journal.deniedText path)

/-- What a call is to answer: it fails exactly if something other than a denial is wrong with the
file, and prints at most one line of its own, which says that opening the file is denied, and which
the loggers above may print, too, while records are handed on to them. -/
structure Answered (c : SetUpCall) (n : String) (j : Journal) (lines : List String)
    (fault : Option SetupFault) : Prop where
  fault : fault = match c.filing j.disk with
    | .ok _ => none
    | .error fault => some (.disk fault)
  quiet : (c.path? = none ∨ c.denied = false ∨ ∃ fault, c.filing j.disk = .error fault) → lines = []
  noted : ∀ path, c.path? = some path → c.denied = true → c.filing j.disk = .ok none →
    ∃ above, n ∉ above ∧ ((j.logger n).propagates = false → above = []) ∧
      lines = if (c.begun n j).isEnabled n Level.warning then
        (denial j path).line (.text c.service) :: j.linesOf (denial j path) above
      else []

/-- A console takes every record that a logger takes. -/
theorem lines_handlers (c : SetUpCall) (d : Disk) {r : Record} (hr : 0 ≤ r.level) :
    (c.handlers d).flatMap (Handler.lines r) = [r.line (.text c.service)] := by
  have hc : Handler.lines r (.console (.text c.service)) = [r.line (.text c.service)] :=
    if_neg (Int.not_lt.2 hr)
  rw [handlers, List.flatMap_cons, hc]
  split <;> rfl

/-- What a logger prints of a denial once it has its level and its console. -/
theorem emit_begun (c : SetUpCall) (n : String) (j : Journal) (d : Disk) (path : String) :
    ∃ above, n ∉ above ∧ ((j.logger n).propagates = false → above = []) ∧
      ({ c.begun n j with disk := d }.emit n Level.warning "logging" (Journal.deniedText path)).2 =
        if (c.begun n j).isEnabled n Level.warning then
          (denial j path).line (.text c.service) :: j.linesOf (denial j path) above
        else [] := by
  have henabled := (c.begun n j).isEnabled_disk d n Level.warning
  by_cases he : (c.begun n j).isEnabled n Level.warning = true
  · obtain ⟨above, hn, hp, habove⟩ := Journal.emit_own (henabled.trans he) "logging"
      (Journal.deniedText path)
    refine ⟨above, hn, fun h => hp ((congrArg Logger.propagates (c.shut_begun n j)).trans h), ?_⟩
    have hown : ((c.begun n j).logger n).lines (denial j path) =
        [(denial j path).line (.text c.service)] := by
      rw [← Logger.lines_shut, shut_begun]
      rfl
    -- the call changes none of the loggers above, as it is not for one of them
    have hothers : (c.begun n j).linesOf (denial j path) above =
        j.linesOf (denial j path) above := by
      apply Journal.linesOf_congr
      intro m hm
      rw [c.logger_begun_ne j fun h : m = n => hn (h ▸ hm)]
    rw [if_pos he, habove]
    change ((c.begun n j).logger n).lines (denial j path) ++
      (c.begun n j).linesOf (denial j path) above = _
    rw [hown, hothers]
    rfl
  · refine ⟨[], List.not_mem_nil, fun _ => rfl, ?_⟩
    rw [if_neg he, Journal.emit, henabled, if_neg he]

theorem Outcome.answered (h : c.Outcome n j r) : c.Answered n j r.2.1 r.2.2 := by
  cases h with
  | bare asked =>
    have hf : c.filing j.disk = .ok none := by simp only [filing, asked]
    refine ⟨by rw [hf], fun _ => rfl, fun path hp => ?_⟩
    rw [asked] at hp
    cases hp
  | @denied path asked denied filing d k lines noted =>
    refine ⟨by rw [filing], ?_, ?_⟩
    · rintro (h | h | ⟨fault, h⟩)
      · rw [asked] at h
        cases h
      · rw [denied] at h
        cases h
      · rw [filing] at h
        cases h
    · intro p hp _ _
      obtain rfl : path = p := Option.some.inj (asked.symm.trans hp)
      have hemit := c.emit_begun n j d path
      rw [noted] at hemit
      exact hemit
  | opened filing d =>
    refine ⟨by rw [filing], fun _ => rfl, fun path _ _ hf => ?_⟩
    rw [filing] at hf
    cases hf
  | failed filing d =>
    refine ⟨by rw [filing], fun _ => rfl, fun path _ _ hf => ?_⟩
    rw [filing] at hf
    cases hf

/-! ## Files -/

theorem map_eq_ok {ε α β : Type} {x : Except ε α} {f : α → β} {b : β} (h : x.map f = .ok b) :
    ∃ a, x = .ok a ∧ f a = b := by
  cases x with
  | error e => cases h
  | ok a => exact ⟨a, rfl, Except.ok.inj h⟩

theorem run_bind_eq_ok {α β : Type} {x : OnDisk α} {f : α → OnDisk β} {d : Disk} {b : β}
    (h : ((x >>= f).run.run d).1 = .ok b) :
    ∃ a e, x.run.run d = (.ok a, e) ∧ ((f a).run.run e).1 = .ok b := by
  rw [ExceptT.run_bind, StateT.run_bind] at h
  rcases hx : x.run.run d with ⟨outcome, e⟩
  rw [hx] at h
  cases outcome with
  | ok a => exact ⟨a, e, rfl, h⟩
  | error fault => cases h

theorem service_openAt {path : String} {o : FileOptions} {d : Disk} {w : Writer}
    (h : ((Writer.openAt path o).run.run d).1 = .ok w) : w.service = o.service := by
  unfold Writer.openAt at h
  obtain ⟨-, e, -, h⟩ := run_bind_eq_ok h
  split at h
  case h_1 => cases h
  case h_2 =>
    obtain ⟨n, f, -, h⟩ := run_bind_eq_ok h
    injection h with h
    exact h ▸ rfl

theorem service_filing {d : Disk} {w : Writer} (h : c.filing d = .ok (some w)) :
    w.service = .text c.service := by
  cases hp : c.path? with
  | none =>
    simp only [filing, hp] at h
    cases h
  | some path =>
    cases hd : c.denied with
    | true =>
      rw [filing_denied hp hd] at h
      obtain ⟨-, -, hw⟩ := map_eq_ok h
      cases hw
    | false =>
      rw [filing_open hp hd] at h
      obtain ⟨v, hv, hw⟩ := map_eq_ok h
      cases hw
      exact service_openAt hv

theorem take_receives (l : Int) (w : Writer) (r : Record) (e : Disk) :
    e.Receives (r.line w.service) ((Handler.file l w).take r e).2.1 := by
  rw [Handler.take.eq_def]
  by_cases hr : r.level < (Handler.file l w).level
  · rw [if_pos hr]
    exact .lost (.refl e)
  · rw [if_neg hr]
    exact w.write_receives _ e

theorem take_console (service : Json) (r : Record) (e : Disk) :
    ((Handler.console service).take r e).2.1 = e := by
  rw [Handler.take]
  split <;> rfl

/-- The handlers of a call write a line of a record at most once. -/
theorem takeAll_receives {d : Disk} {hs : List Handler} (h : hs.map Handler.shut = c.handlers d)
    (r : Record) (e : Disk) :
    e.Receives (r.line (.text c.service)) (Handler.takeAll r hs e).2.1 := by
  obtain ⟨h₀, hs, rfl, hconsole, hfiles⟩ := List.map_eq_cons_iff.1 h
  obtain rfl := Handler.eq_of_shut_console hconsole
  simp only [Handler.takeAll, take_console]
  split at hfiles
  case h_1 w hw =>
    obtain ⟨h₁, hs, rfl, hfile, hnil⟩ := List.map_eq_cons_iff.1 hfiles
    obtain rfl := List.map_eq_nil_iff.1 hnil
    obtain ⟨v, rfl, hv⟩ := Handler.eq_of_shut_file hfile
    have hvw : v.shut.service = w.shut.service := by rw [hv]
    have hw := service_filing hw
    have hservice : v.service = .text c.service := hvw.trans hw
    rw [← hservice]
    exact take_receives c.ownLevel v r e
  case h_2 =>
    obtain rfl := List.map_eq_nil_iff.1 hfiles
    exact .lost (.refl e)

/-! ## What stays of a call -/

/-- What is to hold of a logger as long as a call for it, which found a disk, is the latest one. -/
structure Current (c : SetUpCall) (n : String) (d : Disk) (k : Journal) : Prop where
  level : (k.logger n).level = c.ownLevel
  handlers : (k.logger n).handlers.map Handler.shut = c.handlers d
  closed : (∃ w, c.filing d = .ok w) → (k.logger n).propagates = false
  takes : c.ownLevel ≠ 0 → ∀ level,
    k.isEnabled n level = (decide (0 < level) && decide (c.ownLevel ≤ level))
  /-- A record that comes to the logger, its own or that of a logger below, is printed by it once,
  whatever other loggers print. -/
  printed : ∀ source level module message, k.isEnabled source level = true →
    n ∈ k.reached (k.chain source) → ∃ below above, n ∉ below ∧ n ∉ above ∧
      ((k.logger n).propagates = false → above = []) ∧
      (k.emit source level module message).2 =
        k.linesOf (k.record level module message) below ++
          (k.record level module message).line (.text c.service) ::
            k.linesOf (k.record level module message) above
  /-- Its own records come to it first. -/
  reached : ∃ above, k.reached (k.chain n) = n :: above
  /-- The handlers print a record once and write it at most once. -/
  written : ∀ (r : Record) (e : Disk), 0 ≤ r.level →
    (Handler.takeAll r (k.logger n).handlers e).2.2 = [r.line (.text c.service)] ∧
      e.Receives (r.line (.text c.service)) (Handler.takeAll r (k.logger n).handlers e).2.1

theorem current_of_shut {k : Journal} {d : Disk} (propagates : Bool)
    (h : (k.logger n).shut = c.logger d propagates) : c.Current n d k := by
  have hlevel : (k.logger n).level = c.ownLevel := congrArg Logger.level h
  have hhandlers : (k.logger n).handlers.map Handler.shut = c.handlers d :=
    congrArg Logger.handlers h
  have hlines (r : Record) (hr : 0 ≤ r.level) :
      (k.logger n).lines r = [r.line (.text c.service)] := by
    rw [← Logger.lines_shut, h]
    exact c.lines_handlers d hr
  refine ⟨hlevel, hhandlers, ?_, ?_, ?_, ?_, ?_⟩
  · rintro ⟨w, hw⟩
    refine (congrArg Logger.propagates h).trans ?_
    rw [logger, hw]
  · intro hne level
    rw [Journal.isEnabled_eq (hlevel ▸ hne), hlevel]
  · intro source level module message he hn
    obtain ⟨below, above, hbelow, habove, hclosed, hemit⟩ :=
      Journal.emit_lines he module message hn
    have hpos : 0 ≤ level := by
      simp only [Journal.isEnabled, Bool.and_eq_true, decide_eq_true_eq] at he
      omega
    refine ⟨below, above, hbelow, habove, hclosed, hemit.trans ?_⟩
    rw [hlines _ hpos, List.append_assoc]
    rfl
  · obtain ⟨above, hreached, -⟩ := k.exists_reached n
    exact ⟨above, hreached⟩
  · intro r e hr
    exact ⟨(Handler.takeAll_spec r _ e).2.trans (hlines r hr), takeAll_receives hhandlers r e⟩

end SetUpCall

/-! ## Runs -/

namespace Journal

/-- What happens to a journal: a logger is set up, a record is logged, another request is served, or
something else changes the disk. -/
inductive Input where
  | setUp (name : String) (c : SetUpCall)
  | log (name : String) (level : Int) (module message : String)
  | identify (id : Json)
  | disturb (d : Disk)

/-- The logger that an input sets up. -/
def Input.called? : Input → Option String
  | setUp name _ => some (loggerOf name)
  | _ => none

/-- The journal after an input, with what is printed and the fault if there is one. -/
def step (j : Journal) : Input → Journal × List String × Option SetupFault
  | .setUp name c => j.setUp c.environment (c.options name) c.denied
  | .log name level module message =>
    let (j, lines) := j.emit name level module message
    (j, lines, none)
  | .identify id => ({ j with correlation := id }, [], none)
  | .disturb d => ({ j with disk := d }, [], none)

theorem step_shut (j : Journal) {x : Input} {n : String} (h : x.called? ≠ some n) :
    ((j.step x).1.logger n).shut = (j.logger n).shut := by
  cases x with
  | setUp name c =>
    have hn : n ≠ loggerOf name := fun hn => h (congrArg some hn.symm)
    exact (c.outcome_setUp name j).logger_ne hn
  | log name level module message => exact j.emit_shut name level module message n
  | identify id => rfl
  | disturb d => rfl

theorem run_shut (j : Journal) {inputs : List Input} {n : String}
    (h : ∀ x ∈ inputs, x.called? ≠ some n) :
    ((runSteps step j inputs).1.logger n).shut = (j.logger n).shut := by
  induction inputs generalizing j with
  | nil => rfl
  | cons x inputs ih =>
    obtain ⟨hx, hinputs⟩ := List.forall_mem_cons.1 h
    rw [runSteps, ih _ hinputs, step_shut j hx]

/-- A call stays the latest one until the next call for its logger. -/
theorem current_setUp (j : Journal) (name : String) (c : SetUpCall) {after : List Input}
    (h : ∀ x ∈ after, x.called? ≠ some (loggerOf name)) :
    c.Current (loggerOf name) j.disk (runSteps step (j.step (.setUp name c)).1 after).1 := by
  apply SetUpCall.current_of_shut (j.logger (loggerOf name)).propagates
  rw [run_shut _ h]
  exact (c.outcome_setUp name j).logger_eq

/-- **The latest call alone says what a logger prints and writes**, however often it was set up
before and whatever came of that: the call answers as it is to, and until the next one the logger
has one console, at most one file, and takes each record that it is to take once. -/
theorem run_setUp (j : Journal) (before after : List Input) (name : String) (c : SetUpCall)
    (h : ∀ x ∈ after, x.called? ≠ some (loggerOf name)) :
    ∃ lines fault,
      (runSteps step j (before ++ .setUp name c :: after)).2[before.length]? =
        some (lines, fault) ∧
      c.Answered (loggerOf name) (runSteps step j before).1 lines fault ∧
      c.Current (loggerOf name) (runSteps step j before).1.disk
        (runSteps step j (before ++ .setUp name c :: after)).1 := by
  refine ⟨_, _, runSteps_output .., (c.outcome_setUp name _).answered, ?_⟩
  rw [runSteps_append]
  exact current_setUp _ name c h

theorem chain_default (j : Journal) : j.chain defaultLogger = [defaultLogger, rootLogger] := by
  have hname : defaultLogger.toList.reverse.dropWhile (· != '.') = [] := by decide
  rw [chain, if_neg (by decide)]
  unfold namesAbove
  simp only [hname, List.drop_nil, dif_pos]
  rfl

/-- A call for a file in a folder of its own. -/
def filedCall : SetUpCall := ⟨defaultService, some "logs/app.log", none, Level.info, false⟩

/-- The same call once opening the file is denied, and details are asked for. -/
def deniedCall : SetUpCall := ⟨defaultService, some "logs/app.log", some Level.debug, 0, true⟩

/-- A record, and another disk. -/
def laterInputs : List Input :=
  [.log defaultLogger Level.debug "compiler" "a", .disturb .empty]

/-- A file that was open is given up by a call for which it is denied. -/
theorem run_setUp_denied : (∀ x ∈ laterInputs, x.called? ≠ some (loggerOf defaultLogger)) ∧
    deniedCall.path? = some "logs/app.log" ∧ deniedCall.denied = true ∧
    ∃ lines fault,
      (runSteps step (start startTime .empty) ([.setUp defaultLogger filedCall] ++
        .setUp defaultLogger deniedCall :: laterInputs)).2[1]? = some (lines, fault) ∧
      deniedCall.Answered (loggerOf defaultLogger)
        (runSteps step (start startTime .empty) [.setUp defaultLogger filedCall]).1 lines fault ∧
      deniedCall.Current (loggerOf defaultLogger)
        (runSteps step (start startTime .empty) [.setUp defaultLogger filedCall]).1.disk
        (runSteps step (start startTime .empty) ([.setUp defaultLogger filedCall] ++
          .setUp defaultLogger deniedCall :: laterInputs)).1 := by
  have hlater : ∀ x ∈ laterInputs, x.called? ≠ some (loggerOf defaultLogger) :=
    List.forall_mem_cons.2 ⟨nofun, List.forall_mem_singleton.2 nofun⟩
  exact ⟨hlater, rfl, rfl, run_setUp (start startTime .empty) [.setUp defaultLogger filedCall]
    laterInputs defaultLogger deniedCall hlater⟩

/-- A call at level zero leaves the level to the loggers above. -/
def unsetCall : SetUpCall := ⟨defaultService, none, some 0, Level.info, false⟩

/-- A logger at level zero takes no record below a warning, as nothing is set up above it. -/
theorem unsetCall_silent :
    ((((start startTime .empty).step (.setUp defaultLogger unsetCall)).1.logger
      defaultLogger).level = 0) ∧ 0 ≤ Level.info ∧
    (((start startTime .empty).step (.setUp defaultLogger unsetCall)).1.emit defaultLogger
      Level.info "compiler" "a").2 = [] := by
  refine ⟨rfl, by decide, ?_⟩
  rw [emit, isEnabled, level, chain_default, if_neg (by decide)]

end Journal

end TraversalScript
