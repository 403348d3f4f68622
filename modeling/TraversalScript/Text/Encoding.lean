/-!
# Encodings

Bytes that came as a text may spell another text in wider units, which shows by the zeros among the
first of them.

* `Encoding`: the width of units and the order of their bytes;
* `Encoding.ofBytes`: the encoding that the first bytes show;
* `pairUnits?`, `fourUnits?`, `joinPairs`: bytes as units, and units of sixteen bits as characters;
* **`Encoding.reread?`**: a text read again by the encoding that its bytes show.
-/

namespace TraversalScript

/-- How bytes spell a text. -/
inductive Encoding where
  | bytes
  /-- Units of sixteen bits, the higher byte first or last. -/
  | pairs (highFirst : Bool)
  /-- Units of thirty-two bits, the highest byte first or last. -/
  | fours (highFirst : Bool)
deriving DecidableEq

namespace Encoding

/-- The encoding that the first bytes show: a zero among them stands for the high part of a
character below 256. -/
def ofBytes : List UInt8 → Encoding
  | 0 :: 0 :: _ :: _ :: _ => fours true
  | 0 :: _ :: _ :: _ :: _ => pairs true
  | _ :: 0 :: 0 :: 0 :: _ => fours false
  | _ :: 0 :: _ :: _ :: _ => pairs false
  | [0, _] => pairs true
  | [_, 0] => pairs false
  | _ => bytes

/-- The number that a unit of bytes is. -/
def unit (highFirst : Bool) (bs : List UInt8) : Nat :=
  (if highFirst then bs else bs.reverse).foldl (fun n b => 256 * n + b.toNat) 0

/-- Bytes as units of two. -/
def pairUnits? (highFirst : Bool) : List UInt8 → Option (List Nat)
  | [] => some []
  | a :: b :: bs => (pairUnits? highFirst bs).map (unit highFirst [a, b] :: ·)
  | _ => none

/-- Bytes as units of four. -/
def fourUnits? (highFirst : Bool) : List UInt8 → Option (List Nat)
  | [] => some []
  | a :: b :: c :: d :: bs => (fourUnits? highFirst bs).map (unit highFirst [a, b, c, d] :: ·)
  | _ => none

/-- The character of a number; half of a pair of units stands for no character. -/
def charOf (n : Nat) : Char := if 0xD800 ≤ n ∧ n < 0xE000 then '\uFFFD' else Char.ofNat n

/-- Units of sixteen bits as characters: two halves side by side are one character. -/
def joinPairs : List Nat → List Char
  | [] => []
  | [n] => [charOf n]
  | m :: n :: ns =>
    if 0xD800 ≤ m ∧ m < 0xDC00 ∧ 0xDC00 ≤ n ∧ n < 0xE000 then
      Char.ofNat (0x10000 + (m - 0xD800) * 0x400 + (n - 0xDC00)) :: joinPairs ns
    else charOf m :: joinPairs (n :: ns)

/-- Units of thirty-two bits as characters, if there is one for each. -/
def ofFours? (ns : List Nat) : Option (List Char) :=
  if ns.all (· < 0x110000) then some (ns.map charOf) else none

/-- A text without the mark of byte order at its start. -/
def withoutMark (s : String) : String :=
  match s.toList with
  | '\uFEFF' :: cs => String.ofList cs
  | _ => s

/-- **A text read again by the encoding that its bytes show**, if they spell a text in it. -/
def reread? (s : String) : Option String :=
  let bs := s.toUTF8.toList
  match ofBytes bs with
  | bytes => some (withoutMark s)
  | pairs highFirst => (pairUnits? highFirst bs).map fun ns => String.ofList (joinPairs ns)
  | fours highFirst => ((fourUnits? highFirst bs).bind ofFours?).map String.ofList

end Encoding

end TraversalScript
