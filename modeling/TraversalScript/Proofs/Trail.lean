import TraversalScript.Proofs.Rereading
import TraversalScript.Service.App

/-!
# Lines of the log

What a journal prints and writes while events are noted.

* `Disk.Written`: a disk after lines were written to log files;
* `Journal.Logged`: what is printed and written on the way from one journal to another;
* `handOn_logged`, `emit_logged`: of a record nothing is printed or written but its lines;
* **`noteAll_logged`**: of events nothing is printed or written but the lines of their records;
* `Shows`, **`Record.shows_line`**: a line with an id of a request, and that it is read as one.
-/

namespace TraversalScript

/-- The second disk is the first one after lines that `P` holds of were written to log files. -/
inductive Disk.Written (P : String → Prop) : Disk → Disk → Prop
  | refl (d : Disk) : Written P d d
  | write {d e : Disk} (w : Writer) {line : String} (before : Written P d e) (good : P line) :
    Written P d (w.write line e).2

theorem Disk.Written.trans {P : String → Prop} {d e f : Disk} (h : Written P d e)
    (g : Written P e f) : Written P d f := by
  induction g with
  | refl => exact h
  | write w _ good ih => exact .write w ih good

/-- All lines on the way from one journal to another are such that `P` holds of them, and clock and
id stay as they are. -/
structure Journal.Logged (P : String → Prop) (j k : Journal) (printed : List String) : Prop where
  printed : ∀ line ∈ printed, P line
  written : j.disk.Written P k.disk
  time : k.time = j.time
  correlation : k.correlation = j.correlation

namespace Journal

variable {P : String → Prop} {r : Record}

theorem Logged.refl (j : Journal) : Logged P j j [] := ⟨nofun, .refl _, rfl, rfl⟩

theorem Logged.trans {j k l : Journal} {lines more : List String} (h : Logged P j k lines)
    (g : Logged P k l more) : Logged P j l (lines ++ more) where
  printed := List.forall_mem_append.2 ⟨h.printed, g.printed⟩
  written := h.written.trans g.written
  time := g.time.trans h.time
  correlation := g.correlation.trans h.correlation

theorem take_written (hr : ∀ service, P (r.line service)) (h : Handler) (d : Disk) :
    d.Written P (h.take r d).2.1 ∧ ∀ line ∈ (h.take r d).2.2, P line := by
  unfold Handler.take
  split
  · exact ⟨.refl d, nofun⟩
  · cases h with
    | console service => exact ⟨.refl d, List.forall_mem_singleton.2 (hr service)⟩
    | file level w => exact ⟨.write w (.refl d) (hr w.service), nofun⟩

theorem takeAll_written (hr : ∀ service, P (r.line service)) (hs : List Handler) (d : Disk) :
    d.Written P (Handler.takeAll r hs d).2.1 ∧ ∀ line ∈ (Handler.takeAll r hs d).2.2, P line := by
  induction hs generalizing d with
  | nil => exact ⟨.refl d, nofun⟩
  | cons h hs ih =>
    obtain ⟨hw, hl⟩ := take_written hr h d
    obtain ⟨hw', hl'⟩ := ih (h.take r d).2.1
    exact ⟨hw.trans hw', List.forall_mem_append.2 ⟨hl, hl'⟩⟩

theorem handOn_logged (hr : ∀ service, P (r.line service)) (names : List String) (j : Journal) :
    Logged P j (handOn r names j).1 (handOn r names j).2 := by
  induction names generalizing j with
  | nil => exact .refl j
  | cons name names ih =>
    obtain ⟨hw, hl⟩ := takeAll_written hr (j.logger name).handlers j.disk
    simp only [handOn]
    split
    · refine .trans ?_ (ih _)
      exact ⟨hl, hw, rfl, rfl⟩
    · exact ⟨hl, hw, rfl, rfl⟩

theorem emit_logged {level : Int} {module message : String} {j : Journal}
    (hr : ∀ service, P ((j.record level module message).line service)) (name : String) :
    Logged P j (j.emit name level module message).1 (j.emit name level module message).2 := by
  rw [emit]
  split
  · exact handOn_logged hr _ j
  · exact .refl j

/-- **Of events nothing is printed or written but the lines of their records**, which show the time
and the id of the journal. -/
theorem noteAll_logged {j : Journal} (es : List Event)
    (h : ∀ level module message service, P ((j.record level module message).line service)) :
    Logged P j (j.noteAll es).1 (j.noteAll es).2 := by
  induction es generalizing j with
  | nil => exact .refl j
  | cons e es ih =>
    have he : Logged P j _ _ := emit_logged (h e.level e.module e.words) defaultLogger
    refine he.trans (ih fun level module message service => ?_)
    rw [record, he.time, he.correlation]
    exact h level module message service

end Journal

/-! ## Ids -/

/-- A line of the log with an id of a request: it is the line of a record with this id, and it is
read as an object that has the id as a field. -/
def Shows (id line : String) : Prop :=
  (∃ (service : Json) (r : Record), line = r.line service ∧
      (r.fields service).lookup "correlation_id" = some (.text id)) ∧
    ∃ fields, Json.read line = .ok (.object fields) ∧
      fields.lookup "correlation_id" = some (.text id)

theorem LogLine.nodup_fields (l : LogLine) : (l.fields.map Prod.fst).Nodup := by
  obtain ⟨time, level, service, id, module, message, exception⟩ := l
  cases exception <;> simp [fields]

theorem Record.shows_line {r : Record} {id : String} (h : shownCorrelation r.correlation = .text id)
    (service : Json) : Shows id (r.line service) := by
  have hid : (r.fields service).lookup "correlation_id" = some (.text id) := by
    rw [← h]
    rfl
  obtain ⟨fields, hread, htexts⟩ := Json.read_objectLine_lookup (r.shown service).nodup_fields
  exact ⟨⟨service, r, rfl, hid⟩, fields, hread, htexts _ _ hid⟩

end TraversalScript
