import TraversalScript.Text.Blank
import TraversalScript.Text.Lines

/-!
# Environment files

A file of lines `NAME=value`, read when the service starts.

* `EnvFile.readKey?`, `EnvFile.readValue?`: the two sides of a line;
* `EnvFile.readEntry`: one entry, and what follows its line;
* **`EnvFile.read`**: the entries of a file, in their order; a name without a value is kept as such;
* `EnvFile.expand`: a value with its references to other names filled in;
* **`EnvFile.resolve`**: the entries with every reference filled in, one for each name.

A value may stand between single quotes, where all but `\'` and `\\` is as it is, or between double
quotes with the usual escapes, or end with its line; then blanks around it and a comment after a
blank do not count. A line that follows none of this is passed over.
-/

namespace TraversalScript.EnvFile

/-- A name, and its value if there is one. -/
abbrev Entry := String × Option String

/-- Whether a character is white space inside a line. -/
def isGap (c : Char) : Bool := isSpace c && c != '\n'

/-- What follows the white space at the start of a text, within the line. -/
def skipGap (cs : List Char) : List Char := cs.dropWhile isGap

/-- What follows the line that a text starts with. -/
def skipLine (cs : List Char) : List Char := (cs.dropWhile (· != '\n')).drop 1

/-- What follows the word `export` and a gap, if a text starts with them. -/
def skipExport (cs : List Char) : List Char :=
  let rest := cs.drop 6
  if cs.take 6 = "export".toList ∧ rest.head?.any isGap then skipGap rest else cs

/-! ## Quotes -/

/-- The text up to a closing quote, and what follows it. A backslash keeps the character after it
from closing. -/
def quoted? (quote : Char) : List Char → Option (List Char × List Char)
  | [] => none
  | '\\' :: c :: cs => (quoted? quote cs).map fun (inside, rest) => ('\\' :: c :: inside, rest)
  | c :: cs =>
    if c = quote then some ([], cs)
    else (quoted? quote cs).map fun (inside, rest) => (c :: inside, rest)

/-- The character that a backslash and a letter stand for between double quotes. -/
def doubleEscape? : Char → Option Char
  | '\\' => some '\\'
  | '\'' => some '\''
  | '"' => some '"'
  | 'a' => some '\x07'
  | 'b' => some '\x08'
  | 'f' => some '\x0c'
  | 'n' => some '\n'
  | 'r' => some '\r'
  | 't' => some '\t'
  | 'v' => some '\x0b'
  | _ => none

/-- The character that a backslash and a letter stand for between single quotes. -/
def singleEscape? : Char → Option Char
  | '\\' => some '\\'
  | '\'' => some '\''
  | _ => none

/-- A text with its escapes replaced. -/
def unescape (escape? : Char → Option Char) : List Char → List Char
  | '\\' :: c :: cs =>
    match escape? c with
    | some d => d :: unescape escape? cs
    | none => '\\' :: unescape escape? (c :: cs)
  | c :: cs => c :: unescape escape? cs
  | [] => []

/-! ## Lines -/

/-- A text up to a comment, which starts with a number sign after white space. -/
def beforeComment : List Char → List Char
  | [] => []
  | c :: cs =>
    if isSpace c && (cs.dropWhile isSpace).head? == some '#' then [] else c :: beforeComment cs

/-- A value without quotes: the rest of the line, without the white space around it. -/
def plainValue (line : List Char) : List Char :=
  (((beforeComment line).dropWhile isSpace).reverse.dropWhile isSpace).reverse

/-- The name at the start of a line, and what follows it; a comment has none. -/
def readKey? (cs : List Char) : Option (Option (List Char) × List Char) :=
  match cs with
  | '#' :: _ => some (none, cs)
  | '\'' :: rest =>
    match rest.span (· != '\'') with
    | ([], _) | (_, []) => none
    | (name, _ :: rest) => some (some name, rest)
  | _ =>
    match cs.span fun c => !isSpace c && c != '=' && c != '#' with
    | ([], _) => none
    | (name, rest) => some (some name, rest)

/-- The value after the equals sign, and what follows it. -/
def readValue? (cs : List Char) : Option (List Char × List Char) :=
  match skipGap cs with
  | '\'' :: rest => (quoted? '\'' rest).map fun (v, rest) => (unescape singleEscape? v, rest)
  | '"' :: rest => (quoted? '"' rest).map fun (v, rest) => (unescape doubleEscape? v, rest)
  | _ =>
    let (line, rest) := cs.span (· != '\n')
    some (plainValue line, rest)

/-- What follows the line, if only a comment is left of it. -/
def endLine? (cs : List Char) : Option (List Char) :=
  let rest := skipGap cs
  let rest := if rest.head? = some '#' then rest.dropWhile (· != '\n') else rest
  match rest with
  | [] => some []
  | '\n' :: rest => some rest
  | _ => none

/-- The value after a name, if an equals sign follows it, and the rest of the text. -/
def readAssigned (cs : List Char) : Option (Option (List Char)) × List Char :=
  match skipGap cs with
  | '=' :: rest =>
    match readValue? rest with
    | some (v, rest) => (some (some v), rest)
    | none => (none, skipGap rest)
  | rest => (some none, rest)

/-- The entry at the start of a text, if there is one, and what follows its line. -/
def readEntry (cs : List Char) : Option Entry × List Char :=
  let cs := skipExport cs
  match readKey? cs with
  | none => (none, skipLine cs)
  | some (key, rest) =>
    match readAssigned rest with
    | (none, rest) => (none, skipLine rest)
    | (some v, rest) =>
      match endLine? rest with
      | none => (none, skipLine rest)
      | some rest => (key.map fun k => (String.ofList k, v.map String.ofList), rest)

/-- The entries of a text, of which there are at most as many as the bound. -/
def readEntries : Nat → List Char → List Entry
  | 0, _ => []
  | bound + 1, cs =>
    match cs.dropWhile isSpace with
    | [] => []
    | cs =>
      let (entry, rest) := readEntry cs
      entry.toList ++ readEntries bound rest

/-- A text without the mark of byte order at its start. -/
def withoutMark : List Char → List Char
  | '\uFEFF' :: cs => cs
  | cs => cs

/-- **The entries of a file.** -/
def read (file : String) : List Entry :=
  let cs := unifyLines (withoutMark file.toList)
  readEntries cs.length cs

/-! ## References -/

/-- A name up to a closing brace, with what stands in for it after `:-` if that is given, and what
follows the brace. -/
def readReference? (cs : List Char) : Option ((String × Option String) × List Char) :=
  match cs.span fun c => c != '\x7d' && c != ':' with
  | (name, '\x7d' :: rest) => some ((String.ofList name, none), rest)
  | (name, ':' :: '-' :: rest) =>
    match rest.span (· != '\x7d') with
    | (other, '\x7d' :: rest) => some ((String.ofList name, some (String.ofList other)), rest)
    | _ => none
  | _ => none

/-- A text with its references filled in, of which there are at most as many as the bound. What is
found under a name is its value, if it has one. -/
def expandChars (find : String → Option (Option String)) : Nat → List Char → List Char
  | 0, cs => cs
  | _, [] => []
  | bound + 1, c :: cs =>
    match c, cs with
    | '$', '\x7b' :: rest =>
      match readReference? rest with
      | some ((name, other), rest) =>
        let value := (find name).getD other
        (value.getD "").toList ++ expandChars find bound rest
      | none => c :: expandChars find bound cs
    | _, _ => c :: expandChars find bound cs

/-- A value with its references to other names filled in. -/
def expand (find : String → Option (Option String)) (v : String) : String :=
  String.ofList (expandChars find v.length v.toList)

/-- Sets the value of a name; a name that is there already keeps its place. -/
def set (entries : List Entry) (name : String) (v : Option String) : List Entry :=
  if entries.any fun e => e.1 == name then
    entries.map fun e => if e.1 == name then (name, v) else e
  else
    entries ++ [(name, v)]

/-- What is found under a name: first among entries, then in the environment. -/
def find? (env : List (String × String)) (entries : List Entry) (name : String) :
    Option (Option String) :=
  match entries.lookup name with
  | some v => some v
  | none => (env.lookup name).map some

/-- **The entries with every reference filled in**, from the entries before it or the environment,
and one entry for each name. -/
def resolve (env : List (String × String)) (entries : List Entry) : List Entry :=
  entries.foldl (fun known e => set known e.1 (e.2.map (expand (find? env known)))) []

end TraversalScript.EnvFile
