import TraversalScript.Text.Hex
import TraversalScript.Text.Printable

/-!
# Shown text

Messages show a text between quotes with everything unprintable escaped.

* `delimiter`: the quotation mark, or the apostrophe unless only that one would need escaping;
* `shownChar`: a character as shown between such marks;
* `shownText`: a text as shown.
-/

namespace TraversalScript

/-- The mark around a text: an apostrophe, or a quotation mark if the text holds apostrophes and no
quotation mark. -/
def delimiter (cs : List Char) : Char :=
  if cs.contains '\'' && !cs.contains '"' then '"' else '\''

/-- The code of a character, in two, four or eight digits. -/
def shownCode (c : Char) : List Char :=
  if c.toNat < 0x100 then '\\' :: 'x' :: hexText 2 c.toNat
  else if c.toNat < 0x10000 then '\\' :: 'u' :: hexText 4 c.toNat
  else '\\' :: 'U' :: hexText 8 c.toNat

/-- A character as shown between the marks `mark`. -/
def shownChar (mark c : Char) : List Char :=
  if c = mark ∨ c = '\\' then ['\\', c]
  else if c = '\n' then ['\\', 'n']
  else if c = '\r' then ['\\', 'r']
  else if c = '\t' then ['\\', 't']
  else if isPrintable c then [c]
  else shownCode c

/-- A text as shown in messages. -/
def shownText (s : String) : String :=
  let mark := delimiter s.toList
  String.ofList (mark :: s.toList.flatMap (shownChar mark) ++ [mark])

end TraversalScript
