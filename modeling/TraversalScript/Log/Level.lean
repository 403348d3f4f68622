import TraversalScript.Text.Upper
import TraversalScript.Value.Shown

/-!
# Levels

How much a log line matters, as an integer.

* `Level.names`: the names of levels;
* `Level.name`: the name of a level, or its number;
* `Level.ofEnvironment`: the level that the environment asks for;
* `Level.ofValue?`: the level that a caller asks for.
-/

namespace TraversalScript.Level

/-- Details for those who look for a fault. -/
def debug : Int := 10

/-- What goes as planned. -/
def info : Int := 20

/-- What does not go as planned. -/
def warning : Int := 30

/-- The names of levels; the first name of a level is the one that is printed. -/
def names : List (String × Int) :=
  [("NOTSET", 0), ("DEBUG", debug), ("INFO", info), ("WARNING", warning), ("WARN", warning),
    ("ERROR", 40), ("CRITICAL", 50), ("FATAL", 50)]

/-- The name of a level, or its number. -/
def name (level : Int) : String :=
  match names.find? fun n => n.2 == level with
  | some n => n.1
  | none => "Level " ++ shownInt level

/-- The level of a text from the environment; one that names no level, or no text at all, stands for
`info`. -/
def ofEnvironment (text : Option String) : Int :=
  match text with
  | some s => (names.lookup (upperText s)).getD info
  | none => info

/-- The variable that holds the level of a service. -/
def variableName (service : String) : String := service ++ "_LOG_LEVEL"

/-- The service whose variable is looked up when none is named. -/
def defaultService : String := "GREMLIN_SCRIPT"

/-- The level that a caller asks for, by number or by name; nothing at all leaves it to the
environment. -/
def ofValue? (environment : Int) : Value → Except Misuse Int
  | .null => .ok environment
  | .bool b => .ok (if b then 1 else 0)
  | .int n => .ok n
  | .text s =>
    match names.lookup s with
    | some n => .ok n
    | none => .error .badValue
  | _ => .error .wrongType

end TraversalScript.Level
