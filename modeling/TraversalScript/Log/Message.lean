import TraversalScript.Log.Directive

/-!
# Messages

A message is a text in which directives stand for values.

* `Supply`: the values that are left for directives, and the entries that keys name;
* `Supply.fill`: the text of pieces, which take their values from a supply;
* **`message`**: a text with its directives filled in.
-/

namespace TraversalScript

/-- The values that are left for directives, and the entries that keys name, if there are any. -/
structure Supply where
  values : List Value
  entries : Option (List (Value × Value))

namespace Supply

/-- The supply of a list of values; one dictionary with entries names these. -/
def ofValues : List Value → Supply
  | [.dict (e :: es)] => ⟨[.dict (e :: es)], some (e :: es)⟩
  | vs => ⟨vs, none⟩

/-- The supply that a directive sees: the entry of its key alone, if it has one. -/
def under (s : Supply) : Option String → Except Misuse Supply
  | none => .ok s
  | some key =>
    match s.entries with
    | none => .error .wrongType
    | some es =>
      match es.find? fun e => (Value.text key).same e.1 with
      | some e => .ok { s with values := [e.2] }
      | none => .error .noKey

/-- The next value, and the supply without it. -/
def next (s : Supply) : Except Misuse (Value × Supply) :=
  match s.values with
  | [] => .error .wrongType
  | v :: vs => .ok (v, { s with values := vs })

/-- A width lies below this number. -/
def widthLimit : Nat := Nat.pow 2 63

/-- A number of places lies below this number. -/
def placesLimit : Nat := Nat.pow 2 31

/-- A number of a directive below a limit, and the supply without it if it is asked for. -/
def count (s : Supply) (limit : Nat) : Option Count → Except Misuse (Option Int × Supply)
  | none => .ok (none, s)
  | some (.given n) => if n < limit then .ok (some n, s) else .error .badValue
  | some .asked => do
    let (v, s) ← s.next
    let n ← v.indexed
    if -(limit : Int) ≤ n ∧ n < limit then return (some n, s) else throw .tooLarge

/-- The text of a directive, and the supply after it. -/
def write (s : Supply) (d : Directive) : Except Misuse (List Char × Supply) := do
  let s ← s.under d.key
  let (width, s) ← s.count widthLimit d.width
  let (places, s) ← s.count placesLimit d.places
  match d.letter with
  | none => throw .badValue
  | some letter =>
    let (v, s) ← s.next
    let cs ← d.text (places.map Int.toNat) letter v
    let width := width.getD 0
    return (d.lay width.natAbs (d.has '-' || decide (width < 0)) letter cs, s)

/-- The text of pieces. Of the values none may be left over, unless keys can name them. -/
def fill (s : Supply) : List MessagePart → Except Misuse (List Char)
  | [] => if s.values.isEmpty || s.entries.isSome then .ok [] else .error .wrongType
  | .plain c :: ps => (s.fill ps).map (c :: ·)
  | .openKey :: _ => .error (if s.entries.isSome then .badValue else .wrongType)
  | .directive d :: ps => do
    let (cs, s) ← s.write d
    return cs ++ (← s.fill ps)

end Supply

/-- **A text with its directives filled in**; without values it stays as it is. -/
def message (text : String) (values : List Value) : Except Misuse String :=
  if values.isEmpty then .ok text
  else ((Supply.ofValues values).fill (MessagePart.ofText text.toList)).map String.ofList

end TraversalScript
