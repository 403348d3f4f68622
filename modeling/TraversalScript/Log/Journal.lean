import TraversalScript.Log.Record
import TraversalScript.Log.Options

/-!
# Journals

Loggers are named by parts between points, and hand their records on to the nearest logger whose
name is a first part of theirs, and in the end to the root.

* `Handler`, `Logger`: where records go, and from which level on;
* `Journal`: the loggers, the id of the current request, the clock and the disk;
* `Journal.level`, `Journal.isEnabled`: the level of a logger, its own or an inherited one;
* `Journal.setUp`: gives a logger a level, a console and a file;
* **`Journal.emit`**: what a record prints, and the journal after it.
-/

namespace TraversalScript

/-- Where records go. -/
inductive Handler where
  | console (service : Json)
  | file (level : Int) (w : Writer)

namespace Handler

/-- The level from which on a handler takes records. -/
def level : Handler → Int
  | console _ => 0
  | file level _ => level

/-- What a handler prints of a record, and the handler and the disk after it. -/
def take (h : Handler) (r : Record) (d : Disk) : Handler × Disk × List String :=
  if r.level < h.level then (h, d, [])
  else
    match h with
    | console service => (h, d, [r.line service])
    | file level w =>
      let (w, d) := w.write (r.line w.service) d
      (file level w, d, [])

/-- What a list of handlers prints of a record, and the handlers and the disk after it. -/
def takeAll (r : Record) : List Handler → Disk → List Handler × Disk × List String
  | [], d => ([], d, [])
  | h :: hs, d =>
    let (h, d, lines) := h.take r d
    let (hs, d, more) := takeAll r hs d
    (h :: hs, d, lines ++ more)

end Handler

/-- A level, the handlers, and whether records are handed on. -/
structure Logger where
  level : Int
  handlers : List Handler
  propagates : Bool

/-- Why a logger cannot be set up. -/
inductive SetupFault where
  | misuse (m : Misuse)
  | disk (fault : DiskFault)

/-- The loggers that are there besides the root, the root if it is not as it is at first, the id of
the current request, the clock and the disk. -/
structure Journal where
  time : DateTime
  correlation : Json
  loggers : List (String × Logger)
  disk : Disk

namespace Journal

/-- A journal in which nothing is set up. -/
def start (time : DateTime) (disk : Disk) : Journal := ⟨time, .null, [], disk⟩

/-! ## Loggers -/

/-- A logger as it is at first: the root takes warnings, any other inherits its level. -/
def untouched (name : String) : Logger :=
  ⟨if name = rootLogger then Level.warning else 0, [], true⟩

/-- Whether there is a logger of a name. -/
def knows (j : Journal) (name : String) : Bool := (j.loggers.lookup name).isSome

/-- The logger of a name. -/
def logger (j : Journal) (name : String) : Logger :=
  (j.loggers.lookup name).getD (untouched name)

/-- The journal with another logger under a name. -/
def setLogger (j : Journal) (name : String) (l : Logger) : Journal :=
  { j with loggers := (name, l) :: j.loggers.filter fun e => e.1 != name }

/-- The journal with a logger of a name. -/
def create (j : Journal) (name : String) : Journal :=
  if j.knows name then j else j.setLogger name (untouched name)

/-- The names of the loggers above that of a name, the nearest first; the name is given from its
end. Of points side by side the last one alone parts a name. -/
def namesAbove (knows : String → Bool) (reversed : List Char) : List String :=
  let rest := (reversed.dropWhile (· != '.')).drop 1
  if _h : rest = [] then []
  else
    let name := String.ofList rest.reverse
    if knows name then name :: namesAbove knows rest else namesAbove knows (rest.drop 1)
termination_by reversed.length
decreasing_by
  all_goals
    have := (List.dropWhile_sublist (· != '.') (l := reversed)).length_le
    have := List.length_pos_iff.2 _h
    simp only [rest, List.length_drop] at *
    omega

/-- A name, those above it, and the root, which stands above all others and at the end alone. -/
def chain (j : Journal) (name : String) : List String :=
  if name = rootLogger then [rootLogger]
  else
    let knows := fun above => above != rootLogger && j.knows above
    name :: (namesAbove knows name.toList.reverse ++ [rootLogger])

/-- The first level that is not zero among loggers. -/
def levelOf (j : Journal) : List String → Int
  | [] => 0
  | name :: names => if (j.logger name).level = 0 then levelOf j names else (j.logger name).level

/-- The level of a logger, its own or an inherited one. -/
def level (j : Journal) (name : String) : Int := j.levelOf (j.chain name)

/-- Whether a logger takes records of a level; it takes none below one. -/
def isEnabled (j : Journal) (name : String) (level : Int) : Bool :=
  decide (0 < level) && decide (j.level name ≤ level)

/-! ## Records -/

/-- Hands a record to the loggers of a list, up to one that does not hand it on. -/
def handOn (r : Record) : List String → Journal → Journal × List String
  | [], j => (j, [])
  | name :: names, j =>
    let l := j.logger name
    let (handlers, disk, lines) := Handler.takeAll r l.handlers j.disk
    let j := { j with disk := disk }.setLogger name { l with handlers := handlers }
    if l.propagates then
      let (j, more) := handOn r names j
      (j, lines ++ more)
    else (j, lines)

/-- A record of the current request. -/
def record (j : Journal) (level : Int) (module message : String) : Record :=
  ⟨j.time, level, module, message, j.correlation, none⟩

/-- **Emits a record through a logger**: the journal after it, and what is printed. -/
def emit (j : Journal) (name : String) (level : Int) (module message : String) :
    Journal × List String :=
  if j.isEnabled name level then handOn (j.record level module message) (j.chain name) j
  else (j, [])

/-! ## Setting up -/

/-- What is noted when a log file may not be opened. -/
def deniedText (path : String) : String :=
  "Cannot write to " ++ path ++ ", file logging disabled"

/-- What comes of steps on the disk, and the journal after them. -/
def onDisk {α : Type} (j : Journal) (x : OnDisk α) : Except DiskFault α × Journal :=
  match x.run.run j.disk with
  | (outcome, d) => (outcome, { j with disk := d })

/-- Adds the log file of a path to a logger. If opening it is denied, that is noted and the file is
left out. -/
def addFile (j : Journal) (name : String) (service : Json) (path : String) (level : Int)
    (denied : Bool) : Journal × List String × Option DiskFault :=
  if denied then
    match j.onDisk (Disk.prepare (Way.ofText path)) with
    | (.error fault, j) => (j, [], some fault)
    | (.ok _, j) =>
      let (j, lines) := j.emit name Level.warning "logging" (deniedText path)
      (j, lines, none)
  else
    match j.onDisk (Writer.openAt path { FileOptions.default with service := service }) with
    | (.error fault, j) => (j, [], some fault)
    | (.ok w, j) =>
      let l := j.logger name
      (j.setLogger name { l with handlers := l.handlers ++ [Handler.file level w] }, [], none)

/-- The journal in which a logger keeps its records to itself. -/
def close (j : Journal) (name : String) : Journal :=
  j.setLogger name { j.logger name with propagates := false }

/-- Sets a logger of a name up at a level. -/
def setUpAt (j : Journal) (name : String) (level : Int) (options : LoggerOptions) (denied : Bool) :
    Journal × List String × Option SetupFault :=
  let j := j.setLogger name
    { j.logger name with level := level, handlers := [.console options.service] }
  match options.path? with
  | .error m => (j, [], some (.misuse m))
  | .ok none => (j.close name, [], none)
  | .ok (some path) =>
    match j.addFile name options.service path level denied with
    | (j, lines, some fault) => (j, lines, some (.disk fault))
    | (j, lines, none) => (j.close name, lines, none)

/-- **Sets a logger up**: its level, a console of its own, and a file if one is asked for. The
journal after it, what is printed, and the fault if there is one. A fault of the file leaves the
level and the console as they were set. -/
def setUp (j : Journal) (environment : Int) (options : LoggerOptions) (denied : Bool) :
    Journal × List String × Option SetupFault :=
  match loggerNamed options.name with
  | .error m => (j, [], some (.misuse m))
  | .ok name =>
    match Level.ofValue? environment options.level.toValue with
    | .error m => (j.create name, [], some (.misuse m))
    | .ok level => j.setUpAt name level options denied

/-! ## Files -/

/-- Opens a log file, writes a line for each message and closes it. -/
def writeMessages (j : Journal) (path : String) (options : FileOptions) (module : String)
    (messages : List String) : Except DiskFault Unit × Journal :=
  match j.onDisk (Writer.openAt path options) with
  | (.error fault, j) => (.error fault, j)
  | (.ok w, j) =>
    let lines := messages.map fun m => (j.record Level.info module m).line options.service
    let (_, d) := lines.foldl (fun (w, d) line => Writer.write w line d) (w, j.disk)
    (.ok (), { j with disk := d })

end Journal

end TraversalScript
