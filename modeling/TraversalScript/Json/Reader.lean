import TraversalScript.Json.Basic
import TraversalScript.Text.Hex

/-!
# Reading JSON

A reader of JSON texts that says what it missed and where.

* `Complaint`, `Problem`: what is wrong with a text, and how much of the text is left there;
* `readString`: the rest of a string after its opening quotation mark;
* `readNumber?`: a number, whole unless it has a fraction or a power of ten;
* `readValue`, `readItems`, `readFields`: a value, the rest of an array, the rest of an object;
* **`Json.read`**: the value of a text, or the complaint and its place.

The three mutual readers take a bound on their nesting; a text never nests deeper than twice its
length, so `Json.read` never meets it.
-/

namespace TraversalScript.Json

/-- What is wrong with a JSON text. -/
inductive Complaint where
  | noValue
  | noName
  | noColon
  | noComma
  | unterminated
  | control
  | badEscape
  | badUnit
  | extra
deriving DecidableEq

/-- A complaint in words. -/
def Complaint.words : Complaint → String
  | noValue => "Expecting value"
  | noName => "Expecting property name enclosed in double quotes"
  | noColon => "Expecting ':' delimiter"
  | noComma => "Expecting ',' delimiter"
  | unterminated => "Unterminated string starting at"
  | control => "Invalid control character at"
  | badEscape => "Invalid \\escape"
  | badUnit => "Invalid \\uXXXX escape"
  | extra => "Extra data"

/-- A complaint, and the number of characters from its place to the end of the text. -/
structure Problem where
  complaint : Complaint
  left : Nat
deriving DecidableEq

/-- A complaint at the start of what is left of a text. -/
def complain {α : Type} (complaint : Complaint) (rest : List Char) : Except Problem α :=
  .error ⟨complaint, rest.length⟩

/-- Whether a character is blank between the parts of a JSON text. -/
def isBlank (c : Char) : Bool := c == ' ' || c == '\t' || c == '\n' || c == '\r'

/-- What follows the blanks at the start of a text. -/
def skipBlanks (s : List Char) : List Char := s.dropWhile isBlank

/-! ## Strings -/

/-- The code of four hexadecimal digits that do not end the text, and what follows them. -/
def readUnit? : List Char → Option (Nat × List Char)
  | a :: b :: c :: d :: e :: rest => (hexValue? [a, b, c, d]).map fun n => (n, e :: rest)
  | _ => none

/-- Whether a code is the first half of a pair. -/
def isHighHalf (n : Nat) : Bool := 0xD800 ≤ n && n < 0xDC00

/-- Whether a code is the second half of a pair. -/
def isLowHalf (n : Nat) : Bool := 0xDC00 ≤ n && n < 0xE000

/-- The character of a code; half a pair alone has none and is replaced. -/
def charOfCode (n : Nat) : Char :=
  if isHighHalf n || isLowHalf n then '\uFFFD' else Char.ofNat n

/-- The character of a pair of halves. -/
def charOfPair (high low : Nat) : Char :=
  Char.ofNat (0x10000 + (high - 0xD800) * 0x400 + (low - 0xDC00))

/-- The character of a code that is written after a backslash and `u`, and what follows it; the two
halves of a pair are one character. -/
def readCode (s : List Char) : Except Problem (Char × List Char) :=
  match readUnit? s with
  | none => complain .badUnit ('u' :: s)
  | some (n, rest) =>
    match rest with
    | '\\' :: 'u' :: more =>
      if isHighHalf n && 4 < more.length then
        match readUnit? more with
        | none => complain .badUnit ('u' :: more)
        | some (m, rest') =>
          if isLowHalf m then .ok (charOfPair n m, rest') else .ok (charOfCode n, rest)
      else .ok (charOfCode n, rest)
    | _ => .ok (charOfCode n, rest)

/-- The character that a letter after a backslash stands for. -/
def escaped? (c : Char) : Option Char :=
  if c = '"' ∨ c = '\\' ∨ c = '/' then some c
  else if c = 'b' then some '\x08'
  else if c = 'f' then some '\x0c'
  else if c = 'n' then some '\n'
  else if c = 'r' then some '\r'
  else if c = 't' then some '\t'
  else none

theorem readUnit?_length {s rest : List Char} {n : Nat} (h : readUnit? s = some (n, rest)) :
    rest.length < s.length := by
  match s, h with
  | a :: b :: c :: d :: e :: more, h =>
    simp only [readUnit?, Option.map_eq_some_iff, Prod.mk.injEq] at h
    obtain ⟨_, _, _, rfl⟩ := h
    simp only [List.length_cons]
    omega

theorem readCode_length {s rest : List Char} {c : Char} (h : readCode s = .ok (c, rest)) :
    rest.length < s.length := by
  simp only [readCode] at h
  split at h
  · simp [complain] at h
  · next n rest' hu =>
    have hlen := readUnit?_length hu
    split at h
    · split at h
      · split at h
        · simp [complain] at h
        · next m rest'' hm =>
          have := readUnit?_length hm
          split at h <;> simp only [Except.ok.injEq, Prod.mk.injEq] at h <;> obtain ⟨_, rfl⟩ := h
          · simp only [List.length_cons] at hlen
            omega
          · exact hlen
      · simp only [Except.ok.injEq, Prod.mk.injEq] at h
        obtain ⟨_, rfl⟩ := h
        exact hlen
    · simp only [Except.ok.injEq, Prod.mk.injEq] at h
      obtain ⟨_, rfl⟩ := h
      exact hlen

/-- The characters of a string up to its closing quotation mark, and what follows it. The number of
characters left at the opening mark is for the complaint that there is no closing one. -/
def readString (opening : Nat) (s : List Char) : Except Problem (List Char × List Char) :=
  match s with
  | [] => .error ⟨.unterminated, opening⟩
  | '"' :: rest => .ok ([], rest)
  | ['\\'] => .error ⟨.unterminated, opening⟩
  | '\\' :: 'u' :: rest =>
    match _h : readCode rest with
    | .error p => .error p
    | .ok (c, more) => (readString opening more).map fun (cs, tail) => (c :: cs, tail)
  | '\\' :: e :: rest =>
    match escaped? e with
    | none => complain .badEscape ('\\' :: e :: rest)
    | some c => (readString opening rest).map fun (cs, tail) => (c :: cs, tail)
  | c :: rest =>
    if c.toNat < 32 then complain .control (c :: rest)
    else (readString opening rest).map fun (cs, tail) => (c :: cs, tail)
termination_by s.length
decreasing_by
  · have := readCode_length _h
    simp only [List.length_cons]
    omega
  · simp only [List.length_cons]
    omega
  · simp

/-! ## Numbers -/

/-- The digits of the whole part of a number: a zero alone, or digits that start with another. -/
def readWhole? : List Char → Option (List Char × List Char)
  | '0' :: rest => some (['0'], rest)
  | c :: rest => if c.isDigit then some (spanDigits (c :: rest)) else none
  | [] => none

/-- The digits of a fraction, if a point with a digit after it comes next. -/
def readFraction? : List Char → Option (List Char × List Char)
  | '.' :: c :: rest => if c.isDigit then some (spanDigits (c :: rest)) else none
  | _ => none

/-- A power of ten, if its mark with a digit after it comes next. -/
def readPower? : List Char → Option (Int × List Char)
  | c :: rest =>
    if c = 'e' ∨ c = 'E' then
      let (negative, rest) := spanSign rest
      let (ds, rest) := spanDigits rest
      if ds.isEmpty then none
      else some (if negative then -(digitsValue ds : Int) else digitsValue ds, rest)
    else none
  | [] => none

/-- A number of a sign and the digits of its whole part. -/
def finishNumber (negative : Bool) (whole rest : List Char) : Json × List Char :=
  let fraction := readFraction? rest
  let rest := (fraction.map (·.2)).getD rest
  let power := readPower? rest
  let rest := (power.map (·.2)).getD rest
  if fraction.isNone && power.isNone then
    (int (if negative then -(digitsValue whole : Int) else digitsValue whole), rest)
  else
    let digits := (fraction.map (·.1)).getD []
    let exponent := (power.map (·.1)).getD 0
    (real (.ofDecimal negative (.ofDigits whole digits exponent)), rest)

/-- A number, and what follows it. -/
def readNumber? : List Char → Option (Json × List Char)
  | '-' :: rest => (readWhole? rest).map fun (ds, rest) => finishNumber true ds rest
  | s => (readWhole? s).map fun (ds, rest) => finishNumber false ds rest

/-! ## Values -/

/-- What follows a word at the start of a text. -/
def afterWord? (word : String) (s : List Char) : Option (List Char) :=
  if word.toList.isPrefixOf s then some (s.drop word.length) else none

/-- The words that stand for values. -/
def words : List (String × Json) :=
  [("null", null), ("true", bool true), ("false", bool false), ("NaN", real .nan),
    ("Infinity", real (.infinity false)), ("-Infinity", real (.infinity true))]

/-- A word or a number, and what follows it. -/
def readPlain (s : List Char) : Except Problem (Json × List Char) :=
  match words.findSome? fun (word, j) => (afterWord? word s).map fun rest => (j, rest) with
  | some found => .ok found
  | none =>
    match readNumber? s with
    | some found => .ok found
    | none => complain .noValue s

/-- A field name in quotation marks, the colon, and what follows them and the blanks. -/
def readName (s : List Char) : Except Problem (String × List Char) :=
  match s with
  | '"' :: rest => do
    let (name, rest) ← readString s.length rest
    match skipBlanks rest with
    | ':' :: rest => return (String.ofList name, skipBlanks rest)
    | rest => complain .noColon rest
  | _ => complain .noName s

mutual

/-- A value, and what follows it. -/
def readValue : Nat → List Char → Except Problem (Json × List Char)
  | 0, s => complain .noValue s
  | bound + 1, s =>
    match s with
    | '"' :: rest => (readString s.length rest).map fun (cs, tail) => (text (String.ofList cs), tail)
    | '[' :: rest =>
      match skipBlanks rest with
      | ']' :: rest => .ok (array [], rest)
      | rest => (readItems bound rest).map fun (js, tail) => (array js, tail)
    | '{' :: rest =>
      match skipBlanks rest with
      | '}' :: rest => .ok (object [], rest)
      | rest => (readFields bound [] rest).map fun (fs, tail) => (object fs, tail)
    | _ => readPlain s

/-- The items of an array up to its closing bracket, and what follows it. -/
def readItems : Nat → List Char → Except Problem (List Json × List Char)
  | 0, s => complain .noValue s
  | bound + 1, s => do
    let (j, rest) ← readValue bound s
    match skipBlanks rest with
    | ']' :: rest => return ([j], rest)
    | ',' :: rest => (readItems bound (skipBlanks rest)).map fun (js, tail) => (j :: js, tail)
    | rest => complain .noComma rest

/-- The fields of an object up to its closing brace, after those already read, and what follows. -/
def readFields : Nat → List (String × Json) → List Char →
    Except Problem (List (String × Json) × List Char)
  | 0, _, s => complain .noValue s
  | bound + 1, fields, s => do
    let (name, rest) ← readName s
    let (j, rest) ← readValue bound rest
    let fields := insertField fields name j
    match skipBlanks rest with
    | '}' :: rest => return (fields, rest)
    | ',' :: rest => readFields bound fields (skipBlanks rest)
    | rest => complain .noComma rest

end

/-- The value of the characters of a text. -/
def readChars (s : List Char) : Except Problem Json := do
  let (j, rest) ← readValue (2 * s.length + 1) (skipBlanks s)
  match skipBlanks rest with
  | [] => return j
  | rest => complain .extra rest

/-- **The value of a text**, or what is wrong with it and at which character. -/
def read (s : String) : Except (Complaint × Nat) Json :=
  let cs := s.toList
  (readChars cs).mapError fun p => (p.complaint, cs.length - p.left)

end TraversalScript.Json
