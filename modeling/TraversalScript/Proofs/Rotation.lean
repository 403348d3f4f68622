import TraversalScript.Log.Writer

/-!
# Texts of log files

Files are made, moved and taken away, but none of this changes a text.

* `Disk.Keeps`: a disk that has the texts of another, and empty ones besides;
* `Disk.KeepsAt`: steps after which a disk has its texts;
* `keepsAt_putAside`, `keepsAt_fileFor`: so it is while a full file is put aside;
* `Disk.Receives`: a disk with a line at the end of at most one of its texts;
* **`write_receives`**: a line is written so.
-/

namespace TraversalScript

namespace Disk

/-- The second disk has the texts of the first, and files that are new are empty. -/
def Keeps (d e : Disk) : Prop := ∃ n, e.texts = d.texts ++ List.replicate n ""

theorem Keeps.refl (d : Disk) : d.Keeps d := ⟨0, (List.append_nil _).symm⟩

theorem Keeps.of_texts {d e : Disk} (h : e.texts = d.texts) : d.Keeps e :=
  ⟨0, h.trans (List.append_nil _).symm⟩

theorem Keeps.trans {d e f : Disk} (h : d.Keeps e) (g : e.Keeps f) : d.Keeps f := by
  obtain ⟨m, hm⟩ := h
  obtain ⟨n, hn⟩ := g
  refine ⟨m + n, ?_⟩
  rw [hn, hm, List.append_assoc, List.replicate_append_replicate]

/-- Steps after which a disk has its texts, whether they fail or not. -/
def KeepsAt {α : Type} (d : Disk) (x : OnDisk α) : Prop := d.Keeps (x.run.run d).2

section

variable {α β : Type} {d : Disk}

theorem keepsAt_pure (a : α) : d.KeepsAt (pure a) := .refl d

theorem keepsAt_throw (fault : DiskFault) : d.KeepsAt (throw fault : OnDisk α) := .refl d

theorem keepsAt_bind {x : OnDisk α} {f : α → OnDisk β} (hx : d.KeepsAt x)
    (hf : ∀ a e, KeepsAt e (f a)) : d.KeepsAt (x >>= f) := by
  unfold KeepsAt at *
  obtain ⟨outcome, e, hrun⟩ : ∃ outcome e, x.run.run d = (outcome, e) := ⟨_, _, rfl⟩
  rw [hrun] at hx
  rw [ExceptT.run_bind, StateT.run_bind, hrun]
  cases outcome with
  | ok a => exact hx.trans (hf a e)
  | error fault => exact hx

theorem keepsAt_ofExcept_bind {x : Except DiskFault α} {f : α → OnDisk β}
    (h : ∀ a, d.KeepsAt (f a)) : d.KeepsAt (ExceptT.mk (pure x) >>= f) := by
  cases x with
  | error fault => exact .refl d
  | ok a => exact h a

theorem keepsAt_get_bind {f : Disk → OnDisk β} (h : d.KeepsAt (f d)) : d.KeepsAt (get >>= f) := h

theorem keepsAt_set {e : Disk} (h : d.Keeps e) : d.KeepsAt (set e : OnDisk PUnit) := h

theorem keepsAt_modify {f : Disk → Disk} (h : d.Keeps (f d)) :
    d.KeepsAt (modify f : OnDisk PUnit) := h

end

theorem keepsAt_openIn (p : Path) (name : String) (d : Disk) : d.KeepsAt (openIn p name) := by
  unfold openIn
  apply keepsAt_get_bind
  apply keepsAt_ofExcept_bind
  intro entry
  cases entry with
  | none => exact keepsAt_set ⟨1, rfl⟩
  | some entry =>
    cases entry with
    | folder => exact keepsAt_throw _
    | file n => exact keepsAt_pure n

theorem keepsAt_openAt (p : Path) (d : Disk) : d.KeepsAt (openAt p) := by
  unfold openAt
  cases hasZero p with
  | true => exact keepsAt_throw _
  | false =>
    cases p.getLast? with
    | none => exact keepsAt_throw _
    | some name =>
      apply keepsAt_get_bind
      apply keepsAt_ofExcept_bind
      intro folder
      exact keepsAt_openIn folder name d

theorem keepsAt_remove (p : Path) (d : Disk) : d.KeepsAt (remove p) := by
  unfold remove
  apply keepsAt_get_bind
  split
  · exact keepsAt_set (.of_texts rfl)
  · exact keepsAt_throw _
  · exact keepsAt_throw _

theorem keepsAt_move (p q : Path) (d : Disk) : d.KeepsAt (move p q) := by
  unfold move
  split
  · exact keepsAt_throw _
  · exact keepsAt_modify (.of_texts rfl)

end Disk

namespace Writer

open Disk

theorem keepsAt_clear (p : Path) (d : Disk) : d.KeepsAt (clear p) := by
  unfold clear
  apply keepsAt_get_bind
  split
  · exact keepsAt_remove p d
  · exact keepsAt_pure _

theorem keepsAt_shift (p : Path) (n : Nat) (d : Disk) : d.KeepsAt (shift p n) := by
  induction n generalizing d with
  | zero => exact keepsAt_pure _
  | succ n ih =>
    unfold shift
    apply keepsAt_get_bind
    split
    · apply keepsAt_bind (keepsAt_clear _ d)
      intro _ e
      exact keepsAt_bind (keepsAt_move _ _ e) fun _ => ih
    · exact ih d

theorem keepsAt_putAside (p : Path) (n : Nat) (d : Disk) : d.KeepsAt (putAside p n) := by
  cases n with
  | zero => exact keepsAt_pure _
  | succ n =>
    unfold putAside
    apply keepsAt_bind (keepsAt_shift p n d)
    intro _ e
    apply keepsAt_bind (keepsAt_clear _ e)
    intro _ f
    apply keepsAt_get_bind
    split
    · exact keepsAt_move _ _ f
    · exact keepsAt_pure _

theorem keepsAt_renew (w : Writer) (d : Disk) : d.KeepsAt w.renew := by
  unfold renew
  cases w.backups with
  | none => exact keepsAt_throw _
  | some n => exact keepsAt_bind (keepsAt_putAside w.path n d) fun _ => keepsAt_openAt w.path

theorem keepsAt_fileFor (w : Writer) (line : String) (d : Disk) : d.KeepsAt (w.fileFor line) := by
  unfold fileFor
  apply keepsAt_bind
  · unfold opened
    cases w.file with
    | none => exact keepsAt_openAt w.path d
    | some n => exact keepsAt_pure n
  · intro n e
    apply keepsAt_get_bind
    split
    · exact keepsAt_renew w e
    · exact keepsAt_pure n

end Writer

/-- The second disk has the texts of the first, at the end of at most one of which a line was
added, and files that are new are empty but for that. -/
inductive Disk.Receives (line : String) (d : Disk) : Disk → Prop
  | lost {e : Disk} (keeps : d.Keeps e) : Receives line d e
  | written {e : Disk} (keeps : d.Keeps e) (n : Nat) : Receives line d (e.append n (line ++ "\n"))

/-- **A line is written at the end of one text, or lost**, and no other text is changed, also when
files are put aside before it. -/
theorem Writer.write_receives (w : Writer) (line : String) (d : Disk) :
    d.Receives line (w.write line d).2 := by
  have hkeeps := w.keepsAt_fileFor line d
  unfold write Disk.KeepsAt at *
  obtain ⟨outcome, e, hrun⟩ : ∃ outcome e, (w.fileFor line).run.run d = (outcome, e) := ⟨_, _, rfl⟩
  rw [hrun] at hkeeps ⊢
  cases outcome with
  | ok n => exact .written hkeeps n
  | error fault => exact .lost hkeeps

end TraversalScript
