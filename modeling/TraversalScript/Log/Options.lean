import TraversalScript.Log.Writer

/-!
# Options

What callers ask of the log, by the names of its parts.

* `LoggerOptions`: what is asked of a logger, with `LoggerOptions.ofKeywords`;
* `FileOptions`: what is asked of a log file, with `FileOptions.ofKeywords`;
* `Writer.openAt`: opens a log file as it is asked for.
-/

namespace TraversalScript

/-- Whether a part counts as given. -/
def Json.truthy (j : Json) : Bool := j.toValue.truthy

/-- The service that lines name when none is named. -/
def defaultService : String := "gremlin-script"

/-- The logger that is set up when none is named. -/
def defaultLogger : String := "gremlin_script"

/-- The name of the root of loggers. -/
def rootLogger : String := "root"

/-- The logger that is asked for: without a name it is the root. -/
def loggerNamed (name : Json) : Except Misuse String :=
  match name with
  | .text s => .ok (if s.isEmpty then rootLogger else s)
  | j => if j.truthy then .error .wrongType else .ok rootLogger

/-- What is asked of a logger: the service that its lines name, the path of a file, the level and
the name. -/
structure LoggerOptions where
  service : Json
  file : Json
  level : Json
  name : Json

namespace LoggerOptions

/-- What is asked for when nothing is named. -/
def default : LoggerOptions := ⟨.text defaultService, .null, .null, .text defaultLogger⟩

/-- Options with a named part changed; there are no other parts than these four. -/
def set (o : LoggerOptions) (name : String) (v : Json) : Except Misuse LoggerOptions :=
  match name with
  | "service_name" => .ok { o with service := v }
  | "log_file_path" => .ok { o with file := v }
  | "log_level" => .ok { o with level := v }
  | "logger_name" => .ok { o with name := v }
  | _ => .error .wrongType

/-- The options of named parts. -/
def ofKeywords (parts : List (String × Json)) : Except Misuse LoggerOptions :=
  parts.foldlM (fun o (name, v) => o.set name v) default

/-- The path of the file that is asked for, if there is one. -/
def path? (o : LoggerOptions) : Except Misuse (Option String) :=
  if !o.file.truthy then .ok none
  else
    match o.file with
    | .text s => .ok (some s)
    | _ => .error .wrongType

end LoggerOptions

/-- What is asked of a log file: the service that its lines name, the size at which it counts as
full, and the number of backups; where one of these is no number, there is none. -/
structure FileOptions where
  service : Json
  limit : Option Int
  backups : Option Nat

namespace FileOptions

/-- What is asked for when nothing is named. -/
def default : FileOptions := ⟨.text defaultService, some 10485760, some 5⟩

/-- The least whole number that is not below a number; no number of bytes reaches one that is not
finite. -/
def limitOf? : Json → Option Int
  | .bool b => some (if b then 1 else 0)
  | .int n => some n
  | .real (.finite x) => some (-(-x.units / unitsPerOne))
  | .real _ => some 0
  | _ => none

/-- A number of backups, none if it is negative; a positive one has to be whole by its type. -/
def backupsOf? : Json → Option Nat
  | .bool b => some (if b then 1 else 0)
  | .int n => some n.toNat
  | .real (.finite x) => if 0 < x.units then none else some 0
  | .real (.infinity false) => none
  | .real _ => some 0
  | _ => none

/-- Options with a named part changed; there are no other parts than these three. -/
def set (o : FileOptions) (name : String) (v : Json) : Except Misuse FileOptions :=
  match name with
  | "service_name" => .ok { o with service := v }
  | "max_bytes" => .ok { o with limit := limitOf? v }
  | "backup_count" => .ok { o with backups := backupsOf? v }
  | _ => .error .wrongType

/-- The options of named parts. -/
def ofKeywords (parts : List (String × Json)) : Except Misuse FileOptions :=
  parts.foldlM (fun o (name, v) => o.set name v) default

end FileOptions

/-- Opens a log file, with the folders around it. -/
def Writer.openAt (path : String) (o : FileOptions) : OnDisk Writer := do
  let w := Way.ofText path
  Disk.prepare w
  match o.limit with
  | none => throw .notANumber
  | some limit =>
    let n ← Disk.openAt w.path
    return ⟨o.service, w.path, some n, limit, o.backups⟩

end TraversalScript
