import TraversalScript.Value.Shown

/-!
# Directives

A directive in a text stands for a value, and says how the value is written.

* `Directive`: key, flags, width, places and letter of a directive;
* `MessagePart`, `MessagePart.ofText`: the pieces of a text, characters and directives;
* `Value.counted`, `Value.measured`: the integer and the double that a value is;
* `Directive.text`: a value as a directive writes it;
* `Directive.lay`: that text with its sign, in the width of the directive.
-/

namespace TraversalScript

/-- A number in a directive: given there, or asked of the values. -/
inductive Count where
  | given (n : Nat)
  | asked
deriving DecidableEq

/-- How a value is written. -/
structure Directive where
  key : Option String
  flags : List Char
  width : Option Count
  places : Option Count
  /-- The letter that says what is written; none if the text ends before it. -/
  letter : Option Char
deriving DecidableEq

/-- A part of a text with directives. -/
inductive MessagePart where
  | plain (c : Char)
  | directive (d : Directive)
  /-- A directive whose key does not end. -/
  | openKey
deriving DecidableEq

/-! ## Reading -/

namespace MessagePart

/-- A key up to its closing bracket, which counts the brackets inside, and what follows it. -/
def spanKey (depth : Nat) : List Char → Option (List Char × List Char)
  | [] => none
  | ')' :: cs =>
    match depth with
    | 0 => some ([], cs)
    | depth + 1 => (spanKey depth cs).map fun (key, rest) => (')' :: key, rest)
  | c :: cs =>
    (spanKey (if c = '(' then depth + 1 else depth) cs).map fun (key, rest) => (c :: key, rest)

/-- Whether a character is a flag. -/
def isFlag (c : Char) : Bool := "-+ #0".toList.contains c

/-- A width, if one is given, and what follows it. -/
def readWidth : List Char → Option Count × List Char
  | '*' :: cs => (some .asked, cs)
  | cs =>
    match spanDigits cs with
    | ([], rest) => (none, rest)
    | (ds, rest) => (some (.given (digitsValue ds)), rest)

/-- A number of places after a point, if there is one, and what follows it; no number is zero. -/
def readPlaces : List Char → Option Count × List Char
  | '.' :: cs =>
    match readWidth cs with
    | (none, rest) => (some (.given 0), rest)
    | found => found
  | cs => (none, cs)

/-- What follows a mark of size, which says nothing. -/
def skipSize : List Char → List Char
  | 'h' :: cs | 'l' :: cs | 'L' :: cs => cs
  | cs => cs

/-- The directive after its key, and what follows it. -/
def readDirective (key : Option String) (cs : List Char) : MessagePart × List Char :=
  let (width, rest) := readWidth (cs.dropWhile isFlag)
  let (places, rest) := readPlaces rest
  let rest := skipSize rest
  (directive ⟨key, cs.takeWhile isFlag, width, places, rest.head?⟩, rest.tail)

/-- The piece after a per cent sign, and what follows it; a second one stands for itself. -/
def readPart : List Char → MessagePart × List Char
  | '%' :: cs => (plain '%', cs)
  | '(' :: cs =>
    match spanKey 0 cs with
    | some (key, rest) => readDirective (some (String.ofList key)) rest
    | none => (openKey, [])
  | cs => readDirective none cs

/-- The pieces of a text, of which there are at most as many as the bound. -/
def partsOf : Nat → List Char → List MessagePart
  | 0, _ | _, [] => []
  | bound + 1, '%' :: cs => (readPart cs).1 :: partsOf bound (readPart cs).2
  | bound + 1, c :: cs => plain c :: partsOf bound cs

/-- The pieces of a text. -/
def ofText (cs : List Char) : List MessagePart := partsOf cs.length cs

end MessagePart

/-! ## Values -/

namespace Value

/-- The integer that a value counts, a double without its fraction. -/
def counted : Value → Except Misuse Int
  | .bool b => .ok (if b then 1 else 0)
  | .int n => .ok n
  | .real (.finite x) => .ok (Int.tdiv x.units unitsPerOne)
  | .real (.infinity _) => .error .tooLarge
  | .real .nan => .error .badValue
  | _ => .error .wrongType

/-- The integer that a value is by its type. -/
def indexed (v : Value) : Except Misuse Int :=
  match v.integer? with
  | some n => .ok n
  | none => .error .wrongType

/-- The double that a value measures. -/
def measured : Value → Except Misuse Binary64
  | .bool b => .ok (.ofInt (if b then 1 else 0))
  | .int n => if (Binary64.ofInt n).isFinite then .ok (.ofInt n) else .error .tooLarge
  | .real x => .ok x
  | _ => .error .wrongType

/-- The character that a value is, by its number or as a text of one character. -/
def character : Value → Except Misuse Char
  | .text s =>
    match s.toList with
    | [c] => .ok c
    | _ => .error .wrongType
  | v => do
    let n ← v.indexed
    if 0 ≤ n ∧ n < 0x110000 then return Char.ofNat n.toNat else throw .tooLarge

/-- A value as shown, with all characters beyond the first 128 escaped. -/
def shownPlainly (v : Value) : List Char :=
  v.shown.toList.flatMap fun c => if c.toNat < 128 then [c] else shownCode c

end Value

namespace Directive

/-- Whether a directive has a flag. -/
def has (d : Directive) (flag : Char) : Bool := d.flags.contains flag

/-- The digits of an integer in a base, at least so many, after their mark and a sign. -/
def digitsIn (base : Nat) (mark : List Char) (places : Nat) (n : Int) : List Char :=
  let ds := Nat.toDigits base n.natAbs
  (if n < 0 then ['-'] else []) ++ mark ++ List.replicate (places - ds.length) '0' ++ ds

/-- Whether a letter stands for a number. -/
def isNumeric (letter : Char) : Bool := "diuoxXeEfFgG".toList.contains letter

/-- The mark of the base that a letter stands for, if the directive asks for it. -/
def mark (d : Directive) (letter : Char) : List Char :=
  if d.has '#' && "oxX".toList.contains letter then ['0', letter] else []

/-- A text in capital letters. -/
def capital (cs : List Char) : List Char := cs.map Char.toUpper

/-- A text cut to so many characters. -/
def cut (places : Option Nat) (cs : List Char) : List Char :=
  match places with
  | some n => cs.take n
  | none => cs

/-- The text of a value under a letter. -/
def text (d : Directive) (places : Option Nat) (letter : Char) (v : Value) :
    Except Misuse (List Char) :=
  let precise := places.getD 6
  let least := places.getD 0
  let pointed := d.has '#'
  match letter with
  | 's' => .ok (cut places v.display.toList)
  | 'r' => .ok (cut places v.shown.toList)
  | 'a' => .ok (cut places v.shownPlainly)
  | 'c' => v.character.map fun c => [c]
  | 'd' | 'i' | 'u' => v.counted.map (digitsIn 10 [] least)
  | 'o' => v.indexed.map (digitsIn 8 (d.mark 'o') least)
  | 'x' => v.indexed.map (digitsIn 16 (d.mark 'x') least)
  | 'X' => v.indexed.map fun n => capital (digitsIn 16 (d.mark 'X') least n)
  | 'f' => v.measured.map (Binary64.fixed precise pointed)
  | 'F' => v.measured.map fun x => capital (x.fixed precise pointed)
  | 'e' => v.measured.map (Binary64.scientific precise pointed)
  | 'E' => v.measured.map fun x => capital (x.scientific precise pointed)
  | 'g' => v.measured.map (Binary64.general precise pointed)
  | 'G' => v.measured.map fun x => capital (x.general precise pointed)
  | _ => .error .badValue

/-- The sign that a number is written with, and its size. -/
def spanSignOf (d : Directive) : List Char → List Char × List Char
  | '-' :: cs => (['-'], cs)
  | '+' :: cs => (['+'], cs)
  | cs => (if d.has '+' then ['+'] else if d.has ' ' then [' '] else [], cs)

/-- A text in the width of a directive: on the left with blanks after it, or on the right with
blanks before it, or for numbers with zeros before their digits. -/
def lay (d : Directive) (width : Nat) (left : Bool) (letter : Char) (cs : List Char) : List Char :=
  let (sign, size) := if isNumeric letter then d.spanSignOf cs else ([], cs)
  let room := width - (sign.length + size.length)
  if left then sign ++ size ++ List.replicate room ' '
  else if isNumeric letter && d.has '0' then
    let mark := d.mark letter
    sign ++ mark ++ List.replicate room '0' ++ size.drop mark.length
  else List.replicate room ' ' ++ sign ++ size

end Directive

end TraversalScript
