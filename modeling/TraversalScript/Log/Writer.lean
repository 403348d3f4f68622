import TraversalScript.Json.Basic
import TraversalScript.Log.Disk

/-!
# Writers of log files

A writer appends lines to a file. Before a line that would fill the file, the file is put aside as
the first backup, the first backup becomes the second, and so on. A line that cannot be written is
lost, and the file is opened again for the next one.

* `Writer`: an open file with its limits;
* `Writer.isFull`: whether a line would fill the file;
* `Writer.shift`, `Writer.putAside`, `Writer.renew`: puts the file aside and opens a new one;
* **`Writer.write`**: appends a line.
-/

namespace TraversalScript

/-- A log file: the service that its lines name, its path, its number while it is open, the size at
which it counts as full, and the number of backups, if it is a number. -/
structure Writer where
  service : Json
  path : Path
  file : Option Nat
  limit : Int
  backups : Option Nat

namespace Writer

/-- The path of a backup of a path. -/
def backupPath (p : Path) (i : Nat) : Path :=
  match p.getLast? with
  | some name => p.dropLast ++ [name ++ "." ++ toString i]
  | none => []

/-- Whether a line would fill a file: its bytes, and the characters of the line and its end. No
file is full without a positive limit, or while a folder has its path. -/
def isFull (w : Writer) (n : Nat) (d : Disk) (line : String) : Bool :=
  decide (0 < w.limit) && decide (w.limit ≤ ((d.size n + line.length + 1 : Nat) : Int)) &&
    d.entry? w.path != some .folder

/-- Takes away what stands at a path, if anything does. -/
def clear (p : Path) : OnDisk Unit := do
  if (← get).holds p then Disk.remove p

/-- Moves every backup up one place, the last one first. -/
def shift (p : Path) : Nat → OnDisk Unit
  | 0 => pure ()
  | i + 1 => do
    if (← get).holds (backupPath p (i + 1)) then
      clear (backupPath p (i + 2))
      Disk.move (backupPath p (i + 1)) (backupPath p (i + 2))
    shift p i

/-- Puts the file of a path aside, with so many backups; without any the file stays. -/
def putAside (p : Path) : Nat → OnDisk Unit
  | 0 => pure ()
  | n + 1 => do
    shift p n
    clear (backupPath p 1)
    if (← get).holds p then Disk.move p (backupPath p 1)

/-- Puts the file aside and opens a new one. -/
def renew (w : Writer) : OnDisk Nat := do
  match w.backups with
  | some n => putAside w.path n
  | none => throw .notANumber
  Disk.openAt w.path

/-- The file, which is opened again if it is not open. -/
def opened (w : Writer) : OnDisk Nat :=
  match w.file with
  | some n => pure n
  | none => Disk.openAt w.path

/-- The file that a line goes to. -/
def fileFor (w : Writer) (line : String) : OnDisk Nat := do
  let n ← w.opened
  if w.isFull n (← get) line then w.renew else pure n

/-- **Appends a line.** -/
def write (w : Writer) (line : String) (d : Disk) : Writer × Disk :=
  match (w.fileFor line).run.run d with
  | (.ok n, d) => ({ w with file := some n }, d.append n (line ++ "\n"))
  | (.error _, d) => ({ w with file := none }, d)

end Writer

end TraversalScript
