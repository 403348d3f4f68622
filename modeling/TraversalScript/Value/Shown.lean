import TraversalScript.Binary64.Places
import TraversalScript.Text.Shown
import TraversalScript.Value.Basic

/-!
# Values in messages

* `isWritable`, `numberText`: an integer as text, which can have only so many digits;
* `Value.shown`: a value as messages show it, texts between quotes;
* `Value.isShowable`: whether there is such a text;
* `Value.display`: a value as it reads in running text, texts as they are.
-/

namespace TraversalScript

/-! ## Integers -/

/-- An integer in full, however many digits it has. -/
def shownInt (n : Int) : String := String.ofList (intText n)

/-- The number of digits that an integer has at most when it is written. -/
def digitLimit : Nat := 4300

/-- Whether an integer can be written. -/
def isWritable (n : Int) : Bool := digitCount n.natAbs ≤ digitLimit

/-- An integer as text, if it can be written. -/
def numberText (n : Int) : Except Misuse String :=
  if isWritable n then .ok (shownInt n) else .error .badValue

/-- Texts with a separator between them. -/
def joined (separator : String) (parts : List String) : String := separator.intercalate parts

/-! ## Moments -/

/-- A span of seconds, as whole days toward the past and the seconds after them. -/
def shownSpan (seconds : Int) : String :=
  let days := seconds / 86400
  let rest := seconds % 86400
  let parts :=
    (if days = 0 then [] else ["days=" ++ shownInt days]) ++
      (if rest = 0 then [] else ["seconds=" ++ shownInt rest])
  "datetime.timedelta(" ++ (if parts.isEmpty then "0" else joined ", " parts) ++ ")"

/-- An offset as shown: the region that has it, or the offset itself. -/
def shownOffset (o : Offset) : String :=
  match o.region with
  | some r => "zoneinfo.ZoneInfo(key=" ++ shownText r.name ++ ")"
  | none =>
    if o.seconds = 0 then "datetime.timezone.utc"
    else "datetime.timezone(" ++ shownSpan o.seconds ++ ")"

/-- A date as shown. -/
def Date.shown (d : Date) : String :=
  "datetime.date(" ++ joined ", " ([d.year, d.month, d.day].map fun n : Nat => shownInt n) ++ ")"

/-- A moment as shown: seconds and microseconds only where they are not zero, and a mark where it is
meant as the second of two. -/
def DateTime.shown (t : DateTime) : String :=
  let fine :=
    if t.time.microsecond ≠ 0 then [t.time.second, t.time.microsecond]
    else if t.time.second ≠ 0 then [t.time.second]
    else []
  let fields := [t.date.year, t.date.month, t.date.day, t.time.hour, t.time.minute] ++ fine
  let zone :=
    match t.offset with
    | some o => (if o.region.any Region.later then ["fold=1"] else []) ++
      ["tzinfo=" ++ shownOffset o]
    | none => []
  "datetime.datetime(" ++ joined ", " (fields.map (fun n : Nat => shownInt n) ++ zone) ++ ")"

/-- A date as year, month and day. -/
def Date.iso (d : Date) : String :=
  String.ofList
    (paddedDigits 4 d.year ++ '-' :: paddedDigits 2 d.month ++ '-' :: paddedDigits 2 d.day)

/-- An offset as a sign, hours and minutes, and seconds where they are not zero. -/
def Offset.iso (o : Offset) : String :=
  let size := o.seconds.natAbs
  String.ofList
    ((if o.seconds < 0 then '-' else '+') :: paddedDigits 2 (size / 3600) ++
      ':' :: paddedDigits 2 (size / 60 % 60) ++
      (if size % 60 = 0 then [] else ':' :: paddedDigits 2 (size % 60)))

/-- A moment as date, time and offset; the fraction of a second only where it is not zero. -/
def DateTime.iso (separator : String) (t : DateTime) : String :=
  let time := paddedDigits 2 t.time.hour ++ ':' :: paddedDigits 2 t.time.minute ++
    ':' :: paddedDigits 2 t.time.second ++
    (if t.time.microsecond = 0 then [] else '.' :: paddedDigits 6 t.time.microsecond)
  let zone :=
    match t.offset with
    | some o => o.iso
    | none => ""
  t.date.iso ++ separator ++ String.ofList time ++ zone

/-! ## Values -/

/-- A byte as shown between the marks `mark`. -/
def shownByte (mark c : Char) : List Char := if c.toNat < 127 then shownChar mark c else shownCode c

/-- Codes as shown. -/
def shownCodes (fixed : Bool) (cs : List (Fin 256)) : String :=
  let text := cs.map fun c => Char.ofNat c.val
  let mark := delimiter text
  let bytes := String.ofList ('b' :: mark :: text.flatMap (shownByte mark) ++ [mark])
  if fixed then bytes else "bytearray(" ++ bytes ++ ")"

/-- A range as shown: the distance only where it is not one. -/
def shownRange (start stop step : Int) : String :=
  "range(" ++ joined ", " (([start, stop] ++ if step = 1 then [] else [step]).map shownInt) ++ ")"

/-- A member of a vocabulary as shown. -/
def Member.shown (m : Member) : String := "<" ++ m.path ++ ": " ++ shownText m.word ++ ">"

namespace Value

mutual

/-- A value as shown in messages. -/
def shown : Value → String
  | null => "None"
  | bool b => if b then "True" else "False"
  | int n => shownInt n
  | real x => String.ofList x.text
  | text s => shownText s
  | list items => "[" ++ joined ", " (shownItems items) ++ "]"
  | tuple items =>
    match shownItems items with
    | [one] => "(" ++ one ++ ",)"
    | parts => "(" ++ joined ", " parts ++ ")"
  | dict entries => "\x7b" ++ joined ", " (shownEntries entries) ++ "\x7d"
  | dateTime t => t.shown
  | date d => d.shown
  | member m => m.shown
  | foreign (.codes fixed cs) => shownCodes fixed cs
  | foreign (.set fixed items) =>
    match shownItems items with
    | [] => if fixed then "frozenset()" else "set()"
    | parts =>
      let inside := "\x7b" ++ joined ", " parts ++ "\x7d"
      if fixed then "frozenset(" ++ inside ++ ")" else inside
  | foreign (.range start stop step) => shownRange start stop step
  | foreign (.entries es) =>
    match shownPairs es with
    | [] => "OrderedDict()"
    | parts => "OrderedDict([" ++ joined ", " parts ++ "])"
  | foreign (.other o) => o.shown?.getD o.typeName

/-- The values of a list as shown. -/
def shownItems : List Value → List String
  | [] => []
  | v :: vs => shown v :: shownItems vs

/-- The entries of a dictionary as shown. -/
def shownEntries : List (Value × Value) → List String
  | [] => []
  | (k, v) :: es => (shown k ++ ": " ++ shown v) :: shownEntries es

/-- The entries of a dictionary as pairs that are shown. -/
def shownPairs : List (Value × Value) → List String
  | [] => []
  | (k, v) :: es => ("(" ++ shown k ++ ", " ++ shown v ++ ")") :: shownPairs es

end

mutual

/-- Whether a value can be shown: that takes a text for all that is in it. -/
def isShowable : Value → Bool
  | int n => isWritable n
  | list items | tuple items => areShowable items
  | dict entries => entriesShowable entries
  | foreign (.set _ items) => areShowable items
  | foreign (.range start stop step) => [start, stop, step].all isWritable
  | foreign (.entries es) => entriesShowable es
  | foreign (.other o) => o.shown?.isSome
  | _ => true

/-- Whether each value of a list can be shown. -/
def areShowable : List Value → Bool
  | [] => true
  | v :: vs => isShowable v && areShowable vs

/-- Whether the keys and values of a dictionary can be shown. -/
def entriesShowable : List (Value × Value) → Bool
  | [] => true
  | (k, v) :: es => isShowable k && isShowable v && entriesShowable es

end

/-- A value as it reads in running text. -/
def display : Value → String
  | text s => s
  | member m => m.path
  | dateTime t => t.iso " "
  | date d => d.iso
  | v => v.shown

end Value

end TraversalScript
