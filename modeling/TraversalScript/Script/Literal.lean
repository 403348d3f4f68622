import TraversalScript.Fault
import TraversalScript.Text.Quoted

/-!
# Operands

How the operands of criteria are written into a script.

* `quoteValue`: a text as a quoted literal;
* `milliseconds?`: the count of milliseconds that a moment or a whole number stands for;
* `toMilliseconds`, `toLong`: that count, wanted as a time or as a bound of a range;
* `Literal`, `Literal.ofValue`: what is said of a value that something is to be equal to;
* `Literal.write`, `toLiteral`: its text, however long it is;
* `Literal.print`: its text if it can be written, which takes numbers of not too many digits.
-/

namespace TraversalScript

/-- A text as a quoted literal. -/
def quoteValue : Value → Except Misuse String
  | .text s => .ok (Quoted.literal s)
  | .foreign (.codes ..) => .error .wrongType
  | _ => .error .noAttribute

/-- The refusal of a value that cannot be used. -/
def unsupported (v : Value) (use : Use) : ScriptError := .unsupportedValue v.typeName use

/-- The milliseconds that a value stands for: those of a moment or of the start of a date since the
epoch, and a whole number as it is. -/
def milliseconds? : Value → Option Int
  | .dateTime t => some t.milliseconds
  | .date d => some d.midnight
  | .int n => some n
  | .real x => x.whole?
  | _ => none

/-- A value as a time in milliseconds. -/
def toMilliseconds (v : Value) : Except ScriptError Int :=
  match milliseconds? v with
  | some n => .ok n
  | none => .error (unsupported v .time)

/-- Whether a value may bound a range. -/
def isBound : Value → Bool
  | .bool _ => false
  | .int _ | .date _ | .dateTime _ => true
  | .real x => x.whole?.isSome
  | _ => false

/-- A value as a bound of a range, in milliseconds. -/
def toLong (v : Value) : Except ScriptError Int :=
  if isBound v then toMilliseconds v else .error (unsupported v .long)

/-! ## Literals -/

/-- What a literal says. -/
inductive Literal where
  | text (s : String)
  | truth (b : Bool)
  | real (x : Finite)
  | count (n : Int)

namespace Literal

/-- What is said of a value that something is to be equal to: a moment or a date is its
milliseconds. -/
def ofValue : Value → Except ScriptError Literal
  | .bool b => .ok (truth b)
  | .text s => .ok (text s)
  | .int n => .ok (count n)
  | .real (.finite x) => .ok (real x)
  | .dateTime t => .ok (count t.milliseconds)
  | .date d => .ok (count d.midnight)
  | v => .error (unsupported v .literal)

/-- The text of a literal: texts quoted, numbers in full. -/
def write : Literal → String
  | text s => Quoted.literal s
  | truth b => if b then "true" else "false"
  | real x => String.ofList (Binary64.finite x).text
  | count n => shownInt n

/-- The text of a literal, if it can be written. -/
def print : Literal → Except Misuse String
  | count n => numberText n
  | l => .ok l.write

end Literal

/-- A value as a literal of the script, however long that is. -/
def toLiteral (v : Value) : Except ScriptError String := (Literal.ofValue v).map Literal.write

end TraversalScript
