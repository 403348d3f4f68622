import TraversalScript.Form.Reading
import TraversalScript.Settings.EnvFile

/-!
# Settings

What can be set from outside before the service starts.

* `Settings`: the settings;
* `Reading.whole`, `Reading.truth`: numbers and truth values, which may be given as texts;
* `Settings.keyed`, `Settings.named`: names are looked up in lower case; of equal names the first
  keyword counts, and the last entry;
* **`Settings.load`**: the settings of keywords, environment and environment file, in that order.
-/

namespace TraversalScript

namespace Reading

/-! ## Texts -/

/-- A text without a plus sign in front; no other sign may follow it. -/
def withoutPlus? : List Char → Option (List Char)
  | '+' :: '-' :: _ => none
  | '+' :: cs => some cs
  | cs => some cs

/-- A text without a point and zeros at its end; nothing else may follow a point. -/
def withoutFraction? (cs : List Char) : Option (List Char) :=
  match cs.span (· != '.') with
  | (whole, []) => some whole
  | (whole, _ :: zeros) =>
    if !zeros.isEmpty && zeros.all (· == '0') then some whole else none

/-- Whether a number may start with a character, leading zeros apart. -/
def isFirst (c : Char) : Bool := c == '-' || (c.isDigit && c != '0')

/-- A text without leading zeros, and without underscores after the first of them. Of nothing but
those the last character is left. -/
def withoutZeros? : List Char → Option (List Char)
  | [] => none
  | '0' :: cs =>
    match cs.dropWhile fun c => c == '0' || c == '_' with
    | [] => some [cs.getLastD '0']
    | rest => if rest.head?.any isFirst then some rest else none
  | c :: cs => if isFirst c then some (c :: cs) else none

/-- The integer that digits spell, after a minus sign or not. -/
def signedDigits? (cs : List Char) : Option Int :=
  let (negative, ds) := match cs with
    | '-' :: ds => (true, ds)
    | ds => (false, ds)
  if ds.isEmpty || !ds.all Char.isDigit then none else some (Moment.signed negative (digitsValue ds))

/-- The sign and digits of a text; white space around them does not count, nor do single underscores
between its characters. -/
def wholeDigits? (s : String) : Option (List Char) := do
  let cs ← withoutPlus? (trimWhite s.toList)
  let cs ← withoutFraction? cs
  let cs ← withoutZeros? cs
  ungrouped? cs

/-- The largest number of characters of an integer. -/
def wholeLimit : Nat := 4300

/-- The integer that a text spells, or what keeps it from spelling one. -/
def wholeOfText (s : String) : Except Cause Int :=
  match wholeDigits? s with
  | none => .error .wholeText
  | some cs =>
    if wholeLimit < cs.length then .error .tooLarge
    else
      match signedDigits? cs with
      | some n => .ok n
      | none => .error .wholeText

/-- The texts that stand for true. -/
def trueWords : List String := ["1", "true", "t", "yes", "y", "on"]

/-- The texts that stand for false. -/
def falseWords : List String := ["0", "false", "f", "no", "n", "off"]

/-- The truth value that a text spells, in upper or lower case. -/
def truthOfText? (s : String) : Option Bool :=
  let word := String.ofList (s.toList.map Char.toLower)
  if trueWords.contains word then some true
  else if falseWords.contains word then some false
  else none

/-! ## Parts -/

/-- The integer that a double is, or what keeps it from being one: it has to lie within 64 bits. -/
def wholeOfDouble (x : Binary64) : Except Cause Int :=
  match x.whole? with
  | some n => if n.natAbs < Nat.pow 2 63 then .ok n else .error .tooLarge
  | none => .error (if x.isFinite then .fraction else .notFinite)

/-- An integer, or a number or text that stands for one. -/
def whole : Json → Reading Int
  | .bool b => accepted (if b then 1 else 0)
  | .int n => accepted n
  | .real x => ofExcept (wholeOfDouble x) (.real x)
  | .text s => ofExcept (wholeOfText s) (.text s)
  | j => fail .notWhole j
where
  /-- The integer found, or the issue that there is none. -/
  ofExcept (found : Except Cause Int) (j : Json) : Reading Int :=
    match found with
    | .ok n => accepted n
    | .error cause => fail cause j

/-- The truth value of one or zero. -/
def truthOfInt? (n : Int) : Option Bool :=
  if n = 1 then some true else if n = 0 then some false else none

/-- A truth value, one or zero, or a text that spells one. -/
def truth : Json → Reading Bool
  | .bool b => accepted b
  | .int n =>
    if Moment.isWord n then ofOption (truthOfInt? n) (.int n) else fail .notTruth (.int n)
  | .real x =>
    match wholeOfDouble x with
    | .ok n => ofOption (truthOfInt? n) (.real x)
    | .error _ => fail .notTruth (.real x)
  | .text s => ofOption (truthOfText? s) (.text s)
  | j => fail .notTruth j
where
  /-- The truth value found, or the issue that there is none. -/
  ofOption (found : Option Bool) (j : Json) : Reading Bool :=
    match found with
    | some b => accepted b
    | none => fail .truthText j

end Reading

/-- What can be set from outside before the service starts. -/
structure Settings where
  port : Int
  logFile : Option String
  idProperty : String
  labelProperty : String
  enabled : Bool
deriving DecidableEq

namespace Settings

/-- The port when none is set. -/
def defaultPort : Int := 8082

/-- The settings of a list of fields, the first under each name. -/
def ofFields (fields : List (String × Json)) : Reading Settings :=
  Settings.mk
    <$> Reading.optional fields "gremlin_script_port" defaultPort Reading.whole
    <*> Reading.optional fields "log_file_path" none Reading.textOrNull
    <*> Reading.optional fields "gremlin_id_property" "id" Reading.text
    <*> Reading.optional fields "gremlin_label_property" "label" Reading.text
    <*> Reading.optional fields "enable_script_api" true Reading.truth

/-- A name in lower case; no letter beyond the first 128 has one of theirs as its lower case that
occurs in the name of a setting. -/
def lowered (name : String) : String := String.ofList (name.toList.map Char.toLower)

/-- The fields of a list of keywords, under names in lower case. -/
def keyed (keywords : List (String × Json)) : List (String × Json) :=
  keywords.map fun (name, v) => (lowered name, v)

/-- The fields of a list of entries: names in lower case, the last of equal ones first, and those
without a value left out. -/
def named (entries : List EnvFile.Entry) : List (String × Json) :=
  let last := entries.reverse.map fun (name, v) => (lowered name, v)
  last.filterMap fun (name, _) =>
    match last.lookup name with
    | some (some s) => some (name, .text s)
    | _ => none

/-- **The settings** of keywords, the environment and the text of an environment file; the first of
them that names a setting counts. -/
def load (keywords : List (String × Json)) (env : List (String × String))
    (file : Option String) : Reading Settings :=
  let set := named (env.map fun (name, v) => (name, some v))
  let kept := match file with
    | some text => named (EnvFile.resolve env (EnvFile.read text))
    | none => []
  ofFields (keyed keywords ++ set ++ kept)

end Settings

end TraversalScript
