import TraversalScript.Event
import TraversalScript.Json.Writer
import TraversalScript.Log.Level

/-!
# Records

* `LogLine`: what one line of the log says, with `LogLine.fields` and **`LogLine.text`**;
* `Record`: what is handed to the log, with its level as a number;
* `Record.shown`, `Record.line`: the line of a record;
* `moduleOf`: the module that a path names;
* `exceptionText`: an exception in words;
* `Event.level`, `Event.module`, `Event.words`: the line of an event.
-/

namespace TraversalScript

/-- What is handed to the log; without an id of the request that is nothing. -/
structure Record where
  time : DateTime
  level : Int
  module : String
  message : String
  correlation : Json
  exception : Option String

/-- What stands for a missing id. -/
def Record.noCorrelation : String := "-"

/-- What one line of the log says, the level by its name; there may be no id of a request and no
exception. -/
structure LogLine where
  time : DateTime
  level : String
  service : Json
  correlation : Option Json
  module : String
  message : String
  exception : Option String

namespace LogLine

/-- The fields of a line, in their order. -/
def fields (l : LogLine) : List (String × Json) :=
  [("timestamp", .text (l.time.iso "T")), ("level", .text l.level), ("service", l.service),
    ("correlation_id", l.correlation.getD (.text Record.noCorrelation)),
    ("module", .text l.module), ("message", .text l.message)] ++
    (l.exception.map fun text => ("exception", .text text)).toList

/-- **A line of the log.** -/
def text (l : LogLine) : String := Json.objectLine l.fields

end LogLine

namespace Record

/-- The id that a line shows: one that counts as false is missing. -/
def shownCorrelation (id : Json) : Json := if id.toValue.truthy then id else .text noCorrelation

/-- What the line of a record says. -/
def shown (service : Json) (r : Record) : LogLine :=
  ⟨r.time, Level.name r.level, service, some (shownCorrelation r.correlation), r.module, r.message,
    r.exception⟩

/-- The fields of the line of a record, in their order. -/
def fields (service : Json) (r : Record) : List (String × Json) := (r.shown service).fields

/-- **A record as a line of the log.** -/
def line (service : Json) (r : Record) : String := (r.shown service).text

end Record

/-- The last part of a path. -/
def lastPart (path : List Char) : List Char :=
  (path.reverse.takeWhile (· != '/')).reverse

/-- A file name without its last extension; points at the start of the name begin none. -/
def withoutExtension (name : List Char) : List Char :=
  let points := name.takeWhile (· == '.')
  let rest := name.dropWhile (· == '.')
  let stem := (rest.reverse.dropWhile (· != '.')).drop 1 |>.reverse
  points ++ (if rest.contains '.' then stem else rest)

/-- The module that a path names; what is no text is no path. -/
def moduleOf : Json → String
  | .text path => String.ofList (withoutExtension (lastPart path.toList))
  | _ => "Unknown module"

/-- An exception in words: the kind alone if there is no text. -/
def exceptionText (kind text : String) : String :=
  if text.isEmpty then kind else kind ++ ": " ++ text

/-! ## Events -/

namespace Event

/-- The level of the line of an event. -/
def level : Event → Int
  | compiled .. | generated .. => Level.debug
  | answered .. => Level.info
  | failed .. => Level.warning

/-- The module that notes an event. -/
def module : Event → String
  | compiled .. => "compiler"
  | generated .. => "generator"
  | answered .. | failed .. => "routes"

/-- An event in words. -/
def words : Event → String
  | compiled tag label fragment =>
    "Compiled " ++ tag.display ++ " criteria for " ++ label.display ++ ": " ++ fragment
  | generated label script => "Generated find script for " ++ label.display ++ ": " ++ script
  | answered count label took =>
    "Generated " ++ shownInt count ++ " script(s) for " ++ label.display ++ " in " ++
      String.ofList (took.fixed 2 false) ++ "ms"
  | failed kind message => "Script generation failed (" ++ kind.word ++ "): " ++ message

end Event

end TraversalScript
