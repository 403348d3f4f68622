import TraversalScript.Json.Basic
import TraversalScript.Text.Hex

/-!
# Writing JSON

JSON on one line, as the log keeps it.

* `encodeChar`, `encode`: quotation marks, backslashes and controls escaped, all else as it is;
* `quoted`: a text as a JSON string;
* `realText`: a double, with names for those that are not finite;
* `written`: any JSON;
* **`objectLine`**: an object, its fields in order.
-/

namespace TraversalScript.Json

/-- The written form of a character. -/
def encodeChar (c : Char) : List Char :=
  if c = '"' then ['\\', '"']
  else if c = '\\' then ['\\', '\\']
  else if c = '\n' then ['\\', 'n']
  else if c = '\r' then ['\\', 'r']
  else if c = '\t' then ['\\', 't']
  else if c = '\x08' then ['\\', 'b']
  else if c = '\x0c' then ['\\', 'f']
  else if c.toNat < 32 then '\\' :: 'u' :: hexText 4 c.toNat
  else [c]

/-- The inside of the string of a text. -/
def encode (cs : List Char) : List Char := cs.flatMap encodeChar

/-- A text as a JSON string. -/
def quoted (s : String) : List Char := '"' :: encode s.toList ++ ['"']

/-- A double; those that are not finite go by their names. -/
def realText : Binary64 → List Char
  | .nan => "NaN".toList
  | .infinity negative => (if negative then ['-'] else []) ++ "Infinity".toList
  | x => x.text

/-- Written parts between brackets. -/
def enclosed (first last : Char) (parts : List (List Char)) : List Char :=
  first :: [',', ' '].intercalate parts ++ [last]

mutual

/-- JSON as it is written. -/
def written : Json → List Char
  | null => "null".toList
  | bool b => if b then "true".toList else "false".toList
  | int n => intText n
  | real x => realText x
  | text s => quoted s
  | array items => enclosed '[' ']' (writtenItems items)
  | object fields => enclosed '\x7b' '\x7d' (writtenFields fields)

/-- The items of an array as they are written. -/
def writtenItems : List Json → List (List Char)
  | [] => []
  | j :: js => written j :: writtenItems js

/-- The fields of an object as they are written. -/
def writtenFields : List (String × Json) → List (List Char)
  | [] => []
  | (name, j) :: fs => (quoted name ++ ':' :: ' ' :: written j) :: writtenFields fs

end

/-- **An object** on one line. -/
def objectLine (fields : List (String × Json)) : String := String.ofList (written (.object fields))

end TraversalScript.Json
