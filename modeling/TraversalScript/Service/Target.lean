import TraversalScript.Text.Hex

/-!
# Targets of requests

A request names what it asks for by an address, whole or in part.

* `Target.spanScheme`, `Target.spanAuthority`: the parts of an address before its path;
* `Target.withoutDots`: a path without single points and without steps back;
* `Target.decoded`: a path with the characters that are written by their numbers;
* **`Target.path?`**: the path that a target asks for.
-/

namespace TraversalScript.Target

/-! ## Parts -/

/-- Whether a character may stand in the scheme of an address. -/
def isSchemeChar (c : Char) : Bool := c.isAlphanum || c == '+' || c == '-' || c == '.'

/-- The scheme before a colon, and what follows it; it starts with a letter, or is empty. -/
def spanScheme (cs : List Char) : List Char × List Char :=
  match cs.span isSchemeChar with
  | (scheme, ':' :: rest) => if scheme.head?.all Char.isAlpha then (scheme, rest) else ([], cs)
  | _ => ([], cs)

/-- Whether a character is part of a path. -/
def isPathChar (c : Char) : Bool := c != '?' && c != '#'

/-- The authority after two slashes, and what follows it. -/
def spanAuthority : List Char → List Char × List Char
  | '/' :: '/' :: cs => cs.span fun c => c != '/' && isPathChar c
  | cs => ([], cs)

/-- Whether an authority names anything. -/
def isNamed (authority : List Char) : Bool := authority.any fun c => c != ':' && c != '@'

/-- Whether a character may not stand in an address. -/
def isControl (c : Char) : Bool := c.toNat < 32 || c.toNat == 127

/-! ## Paths -/

/-- The names of a path after one more: a single point is none, and two points take the last name
back, but never the start of the path. -/
def stepOn (names : List String) (name : String) : List String :=
  if name = "." then names
  else if name = ".." then (if names = [""] then names else names.dropLast)
  else names ++ [name]

/-- A path without single points and without steps back. -/
def withoutDots (path : List Char) : List Char :=
  ("/".intercalate (((String.ofList path).splitOn "/").foldl stepOn [])).toList

/-- A path with each character that is written as `%` and two digits. Those from 128 on are bytes of
other characters, and are kept as bytes. -/
def decoded : List Char → List Char
  | '%' :: a :: b :: cs =>
    match hexValue? [a, b] with
    | some n => Char.ofNat n :: decoded cs
    | none => '%' :: decoded (a :: b :: cs)
  | c :: cs => c :: decoded cs
  | [] => []

/-- A path below the root. -/
def fromRoot (path : List Char) : List Char := withoutDots ('/' :: path.dropWhile (· == '/'))

/-- **The path that a target asks for**, if it is an address. A host counts only after a scheme, and
the path is decoded by the sender and by the receiver. -/
def path? (target : String) : Option String :=
  let (scheme, rest) := spanScheme target.toList
  let (authority, rest) := spanAuthority rest
  let path := rest.takeWhile isPathChar
  let bare := scheme.isEmpty && !isNamed authority
  if target.toList.any isControl then none
  else if bare && (path.take 2 == ['/', '/'] || path.head? == some ':') then none
  else
    let path := if bare then path else withoutDots path
    let path := if !scheme.isEmpty && isNamed authority then path else fromRoot path
    some (String.ofList (decoded (decoded path)))

end TraversalScript.Target
