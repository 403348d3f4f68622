import TraversalScript.Text.Lines

/-!
# Disk

The folders and files in which the log is written.

* `Path`: where something stands; `Way`: how it is reached, by names and steps back;
* `Disk`: what stands where, and the texts of files by number;
* `Disk.walk`: the folder that a way leads to;
* `OnDisk`: steps that change the disk, and keep the change when they fail later;
* `Disk.makeFolders`, `Disk.openAt`, `Disk.save`: folders and files that are made where they lack;
* `Disk.remove`, `Disk.move`: takes a file away, and moves a file or folder; who has the file open
  keeps it.
-/

namespace TraversalScript

/-! ## Paths and ways -/

/-- The names from the root down to a folder or file. -/
abbrev Path := List String

/-- The working folder. -/
def Path.home : Path := ["tmp", "work"]

/-- A path as a text. -/
def Path.text (p : Path) : String := "/".intercalate p

/-- How something is reached from a folder: by names, and by two points for a step back. -/
structure Way where
  start : Path
  names : List String

namespace Way

/-- The step back. -/
def back : String := ".."

/-- The way that a text spells, from the root after a slash, else from the working folder; empty
names and single points do not count. -/
def ofText (s : String) : Way :=
  ⟨if s.startsWith "/" then [] else Path.home,
    (s.splitOn "/").filter fun name => name != "" && name != "."⟩

/-- The path of a way when each step back takes away the name before it. -/
def path (w : Way) : Path :=
  w.names.foldl (fun p name => if name = back then p.dropLast else p ++ [name]) w.start

end Way

/-- Whether names hold a character that no name on the disk has. -/
def hasZero (names : List String) : Bool := names.any fun name => name.toList.contains '\x00'

/-- Why a folder or file cannot be reached, made or opened. -/
inductive DiskFault where
  /-- Something else stands where the folder is wanted. -/
  | inPlace
  /-- A file stands where a folder on the way is wanted. -/
  | notAFolder
  /-- A folder stands where the file is wanted. -/
  | isAFolder
  /-- A folder on the way is not there. -/
  | missing
  /-- A name is too long. -/
  | longName
  /-- A name holds a character that no name has. -/
  | zero
  /-- What limits a file is no number. -/
  | notANumber
deriving DecidableEq

/-! ## Disks -/

/-- What stands at a path. -/
inductive Entry where
  | folder
  | file (number : Nat)
deriving DecidableEq

/-- What stands where, and the texts of files by number. -/
structure Disk where
  entries : List (Path × Entry)
  texts : List String

/-- Steps that change the disk, and keep the change when they fail later. -/
abbrev OnDisk := ExceptT DiskFault (StateM Disk)

namespace Disk

/-- A disk with a working folder and nothing in it. -/
def empty : Disk := ⟨[(Path.home.take 1, .folder), (Path.home, .folder)], []⟩

/-- A disk with one file in the working folder. -/
def ofFile (name text : String) : Disk :=
  ⟨empty.entries ++ [(Path.home ++ [name], .file 0)], [text]⟩

/-- What stands at a path. -/
def entry? (d : Disk) (p : Path) : Option Entry :=
  if p.isEmpty then some .folder else d.entries.lookup p

/-- Whether something stands at a path. -/
def holds (d : Disk) (p : Path) : Bool := (d.entry? p).isSome

/-- The largest number of bytes of a name. -/
def nameLimit : Nat := 255

/-- What stands under a name in a folder. -/
def entryIn (d : Disk) (p : Path) (name : String) : Except DiskFault (Option Entry) :=
  if nameLimit < name.utf8ByteSize then .error .longName else .ok (d.entry? (p ++ [name]))

/-- The folder that names lead to from a folder. -/
def walk (d : Disk) (p : Path) : List String → Except DiskFault Path
  | [] => .ok p
  | name :: names =>
    if name = Way.back then d.walk p.dropLast names
    else
      match d.entryIn p name with
      | .error fault => .error fault
      | .ok (some .folder) => d.walk (p ++ [name]) names
      | .ok (some (.file _)) => .error .notAFolder
      | .ok none => .error .missing

/-- Whether names lead to a folder. -/
def leadsToFolder (d : Disk) (p : Path) (names : List String) : Bool :=
  match d.walk p names with
  | .ok _ => true
  | .error _ => false

/-! ## Texts -/

/-- The text of a file. -/
def text (d : Disk) (n : Nat) : String := (d.texts[n]?).getD ""

/-- The number of bytes of a file. -/
def size (d : Disk) (n : Nat) : Nat := (d.text n).utf8ByteSize

/-- The disk with another text in a file. -/
def overwrite (d : Disk) (n : Nat) (s : String) : Disk := { d with texts := d.texts.set n s }

/-- The disk with a text at the end of a file. -/
def append (d : Disk) (n : Nat) (s : String) : Disk := d.overwrite n (d.text n ++ s)

/-! ## Folders -/

/-- The disk with a new folder under a name, in the folder that names lead to. -/
def makeFolder (d : Disk) (start : Path) (around : List String) (name : String) :
    Except DiskFault Disk := do
  let p ← d.walk start around
  if name = Way.back then throw .inPlace
  match ← d.entryIn p name with
  | some _ => throw .inPlace
  | none => return { d with entries := d.entries ++ [(p ++ [name], .folder)] }

/-- Makes a folder unless it is there. -/
def settleFolder (start : Path) (around : List String) (name : String) : OnDisk Unit := do
  let d ← get
  match d.makeFolder start around name with
  | .ok d => set d
  | .error fault => if d.leadsToFolder start (around ++ [name]) then pure () else throw fault

/-- Makes the folder that names lead to, which are given from the last, with the folders around
it. -/
def makeFolders (start : Path) : List String → OnDisk Unit
  | [] => pure ()
  | name :: around => do
    let d ← get
    match d.walk start around.reverse with
    | .error .missing => makeFolders start around
    | _ => pure ()
    settleFolder start around.reverse name

/-- Makes the folders around the file that a way leads to. -/
def prepare (w : Way) : OnDisk Unit :=
  if hasZero w.names.dropLast then throw .zero else makeFolders w.start w.names.reverse.tail

/-! ## Files -/

/-- The number of the file under a name in a folder; it is made if it is not there. -/
def openIn (p : Path) (name : String) : OnDisk Nat := do
  let d ← get
  match ← ExceptT.mk (pure (d.entryIn p name)) with
  | some .folder => throw .isAFolder
  | some (.file n) => return n
  | none =>
    let n := d.texts.length
    set (⟨d.entries ++ [(p ++ [name], .file n)], d.texts ++ [""]⟩ : Disk)
    return n

/-- The number of the file at a path; it is made if it is not there. -/
def openAt (p : Path) : OnDisk Nat := do
  if hasZero p then throw .zero
  match p.getLast? with
  | none => throw .isAFolder
  | some name =>
    let d ← get
    let folder ← ExceptT.mk (pure (d.walk [] p.dropLast))
    openIn folder name

/-- Writes a text as the whole of the file that a way leads to. -/
def save (w : Way) (s : String) : OnDisk Unit := do
  if hasZero w.names then throw .zero
  match w.names.getLast? with
  | none => throw .isAFolder
  | some name =>
    let d ← get
    let folder ← ExceptT.mk (pure (d.walk w.start w.names.dropLast))
    if name = Way.back then throw .isAFolder
    let n ← openIn folder name
    modify fun d => d.overwrite n s

/-- Takes a file away. -/
def remove (p : Path) : OnDisk Unit := do
  let d ← get
  match d.entry? p with
  | some (.file _) => set ({ d with entries := d.entries.filter fun e => e.1 != p } : Disk)
  | some .folder => throw .isAFolder
  | none => throw .missing

/-- Moves what stands at a path, with all below it, to another path. -/
def move (p q : Path) : OnDisk Unit := do
  if (q.getLast?).any fun name => nameLimit < name.utf8ByteSize then throw .longName
  modify fun d => { d with
    entries := d.entries.map fun e =>
      if p.isPrefixOf e.1 then (q ++ e.1.drop p.length, e.2) else e }

/-- The lines of a file; its last line has no end. -/
def lines (d : Disk) (n : Nat) : List String :=
  (String.ofList (unifyLines (d.text n).toList)).splitOn "\n"

/-- The path from the working folder and the lines of every file below it. -/
def files (d : Disk) : List (Path × List String) :=
  d.entries.filterMap fun e =>
    match e.2 with
    | .file n =>
      if Path.home.isPrefixOf e.1 then some (e.1.drop Path.home.length, d.lines n) else none
    | .folder => none

end Disk

end TraversalScript
