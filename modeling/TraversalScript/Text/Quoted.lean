import TraversalScript.Text.Hex

/-!
# Quoted literals

A string literal of a script stands between apostrophes; a backslash introduces every apostrophe,
backslash and control character of the text.

* `encodeChar`, `encode`: the body of a literal;
* `literal`: the body between its apostrophes;
* `read`: the text of a body and what follows its closing apostrophe;
* **`read_encode`**: reading a literal gives its text and leaves what follows, whatever that is.
-/

namespace TraversalScript.Quoted

/-- Whether a character is written as its code: the controls without a letter, and delete. -/
def isCoded (c : Char) : Bool := c.toNat < 32 || c.toNat == 127

/-- The written form of a character. -/
def encodeChar (c : Char) : List Char :=
  if c = '\\' then ['\\', '\\']
  else if c = '\'' then ['\\', '\'']
  else if c = '\n' then ['\\', 'n']
  else if c = '\r' then ['\\', 'r']
  else if c = '\t' then ['\\', 't']
  else if c = '\x08' then ['\\', 'b']
  else if c = '\x0c' then ['\\', 'f']
  else if isCoded c then '\\' :: 'u' :: hexText 4 c.toNat
  else [c]

/-- The body of the literal of a text. -/
def encode (cs : List Char) : List Char := cs.flatMap encodeChar

/-- The literal of a text. -/
def literal (s : String) : String := String.ofList ('\'' :: encode s.toList ++ ['\''])

/-- The character that a letter after a backslash stands for. -/
def decodeLetter? (c : Char) : Option Char :=
  if c = '\\' then some '\\'
  else if c = '\'' then some '\''
  else if c = 'n' then some '\n'
  else if c = 'r' then some '\r'
  else if c = 't' then some '\t'
  else if c = 'b' then some '\x08'
  else if c = 'f' then some '\x0c'
  else none

/-- Reads the body of a literal up to its closing apostrophe. -/
def read : List Char → Option (List Char × List Char)
  | [] => none
  | '\'' :: rest => some ([], rest)
  | '\\' :: 'u' :: a :: b :: c :: d :: rest =>
    (hexValue? [a, b, c, d]).bind fun n => (read rest).map fun (s, more) => (Char.ofNat n :: s, more)
  | '\\' :: c :: rest =>
    (decodeLetter? c).bind fun e => (read rest).map fun (s, more) => (e :: s, more)
  | c :: rest => (read rest).map fun (s, more) => (c :: s, more)

theorem read_coded {c : Char} (h : isCoded c = true) (rest : List Char) :
    read ('\\' :: 'u' :: (hexText 4 c.toNat ++ rest)) =
      (read rest).map fun (s, more) => (c :: s, more) := by
  have hn : c.toNat < Nat.pow 16 4 := by
    simp only [isCoded, Bool.or_eq_true, decide_eq_true_eq, beq_iff_eq] at h
    change c.toNat < 65536
    omega
  have hx := hexValue?_hexText hn
  simp only [hexText, List.nil_append, List.cons_append] at hx ⊢
  rw [read, hx]
  simp [Char.ofNat_toNat]

theorem read_encodeChar (c : Char) (rest : List Char) :
    read (encodeChar c ++ rest) = (read rest).map fun (s, more) => (c :: s, more) := by
  unfold encodeChar
  split
  · subst c; simp [read, decodeLetter?]
  split
  · subst c; simp [read, decodeLetter?]
  split
  · subst c; simp [read, decodeLetter?]
  split
  · subst c; simp [read, decodeLetter?]
  split
  · subst c; simp [read, decodeLetter?]
  split
  · subst c; simp [read, decodeLetter?]
  split
  · subst c; simp [read, decodeLetter?]
  split
  · next h => exact read_coded h rest
  · simp [read, *]

/-- **Reading undoes writing**, and leaves what follows the literal. -/
theorem read_encode (s rest : List Char) : read (encode s ++ '\'' :: rest) = some (s, rest) := by
  induction s with
  | nil => simp [encode, read]
  | cons c s ih =>
    simp only [encode, List.flatMap_cons, List.append_assoc] at ih ⊢
    rw [read_encodeChar, ih]
    rfl

end TraversalScript.Quoted
