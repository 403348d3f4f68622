/-!
# Capital letters

* `upperChar`: the capitals of a character, as far as they lie among the first 128 characters;
* `upperText`: a text in capitals.
-/

namespace TraversalScript

/-- The capitals of a character where they lie among the first 128 characters, as those of a few
letters and ligatures beyond them do; any other character stands for itself. -/
def upperChar (c : Char) : List Char :=
  match c.toNat with
  | 0xDF => ['S', 'S']
  | 0x131 => ['I']
  | 0x17F => ['S']
  | 0xFB00 => ['F', 'F']
  | 0xFB01 => ['F', 'I']
  | 0xFB02 => ['F', 'L']
  | 0xFB03 => ['F', 'F', 'I']
  | 0xFB04 => ['F', 'F', 'L']
  | 0xFB05 | 0xFB06 => ['S', 'T']
  | _ => [c.toUpper]

/-- A text in capitals. -/
def upperText (s : String) : String := String.ofList (s.toList.flatMap upperChar)

end TraversalScript
