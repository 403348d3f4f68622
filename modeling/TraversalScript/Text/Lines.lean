/-!
# Ends of lines

* `unifyLines`: a text in which every line ends with a line feed.
-/

namespace TraversalScript

/-- A text with a line feed for every end of line: a carriage return, a line feed, or the two one
after the other. -/
def unifyLines : List Char → List Char
  | '\r' :: '\n' :: cs => '\n' :: unifyLines cs
  | '\r' :: cs => '\n' :: unifyLines cs
  | c :: cs => c :: unifyLines cs
  | [] => []

end TraversalScript
