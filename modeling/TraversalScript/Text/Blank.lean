/-!
# Blanks around a text

* `isWhite`: the characters that are white space;
* `isSpace`: the same with the separators of records;
* `trimWhite`: a text without the white space around it;
* `ungrouped?`: a text without the underscores between its characters.
-/

namespace TraversalScript

/-- Whether a character is white space. -/
def isWhite (c : Char) : Bool :=
  let n := c.toNat
  (9 ≤ n && n ≤ 13) || n == 0x20 || n == 0x85 || n == 0xA0 || n == 0x1680 ||
    (0x2000 ≤ n && n ≤ 0x200A) || n == 0x2028 || n == 0x2029 || n == 0x202F || n == 0x205F ||
    n == 0x3000

/-- Whether a character parts words: white space, or one of the separators of records. -/
def isSpace (c : Char) : Bool := isWhite c || (0x1C ≤ c.toNat && c.toNat ≤ 0x1F)

/-- A text without the white space after it. -/
def trimEnd (cs : List Char) : List Char := (cs.reverse.dropWhile isWhite).reverse

/-- A text without the white space around it. -/
def trimWhite (cs : List Char) : List Char := trimEnd (cs.dropWhile isWhite)

/-- Whether two underscores stand side by side. -/
def hasDoubleUnderscore : List Char → Bool
  | '_' :: '_' :: _ => true
  | _ :: cs => hasDoubleUnderscore cs
  | [] => false

/-- A text without its underscores, if each of them stands alone between two characters. -/
def ungrouped? (cs : List Char) : Option (List Char) :=
  if cs.head? = some '_' ∨ cs.getLast? = some '_' ∨ hasDoubleUnderscore cs then none
  else some (cs.filter (· != '_'))

end TraversalScript
