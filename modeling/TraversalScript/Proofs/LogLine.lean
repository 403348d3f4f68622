import TraversalScript.Log.Record
import TraversalScript.Proofs.Rereading

/-!
# What a line of the log says

A line of the log is one line, whatever texts it holds, and all of them can be told from it.

* `LogTexts`: what a line says, its line, and the texts under the names of their fields;
* `text_line`, `read_text`: the line is an object of these texts, and is read back as one;
* `contents_inj`: lines with the same fields say the same;
* `splitOn_lines`: lines written one after the other fall apart into themselves;
* **`logLine_readable`**: a line is read back field by field and in their order, so no text of it
  passes for another field or for another line.
-/

namespace TraversalScript

/-- What a line of the log says; the id of the request and the exception may be missing. -/
structure LogTexts where
  time : DateTime
  level : String
  service : String
  id : Option String
  module : String
  message : String
  exception : Option String

namespace LogTexts

/-- The line that says it. -/
def line (t : LogTexts) : LogLine :=
  ⟨t.time, t.level, .text t.service, t.id.map .text, t.module, t.message, t.exception⟩

/-- The texts of a line under the names of their fields, in their order. -/
def contents (t : LogTexts) : List (String × String) :=
  [("timestamp", t.time.iso "T"), ("level", t.level), ("service", t.service),
    ("correlation_id", t.id.getD "-"), ("module", t.module), ("message", t.message)] ++
    (t.exception.map fun text => ("exception", text)).toList

variable {t u : LogTexts}

theorem text_line (t : LogTexts) : t.line.text = Json.objectLine (Json.ofTexts t.contents) := by
  have hfields : t.line.fields = Json.ofTexts t.contents := by
    obtain ⟨time, level, service, id, module, message, exception⟩ := t
    cases id <;> cases exception <;> rfl
  rw [LogLine.text, hfields]

theorem nodup_contents (t : LogTexts) : (t.contents.map Prod.fst).Nodup := by
  obtain ⟨time, level, service, id, module, message, exception⟩ := t
  cases exception <;> simp [contents]

theorem read_text (t : LogTexts) :
    Json.read t.line.text = .ok (.object (Json.ofTexts t.contents)) := by
  rw [text_line]
  exact Json.read_objectLine t.nodup_contents

theorem le_of_mem_text {c : Char} (h : c ∈ t.line.text.toList) : 32 ≤ c.toNat := by
  rw [text_line] at h
  exact Json.le_of_mem_objectLine h

/-- Lines with the same fields say the same; where there is no id, that is a dash. -/
theorem contents_inj (h : t.contents = u.contents) :
    t.time.iso "T" = u.time.iso "T" ∧ t.level = u.level ∧ t.service = u.service ∧
      t.id.getD "-" = u.id.getD "-" ∧ t.module = u.module ∧ t.message = u.message ∧
      t.exception = u.exception := by
  obtain ⟨time, level, service, id, module, message, exception⟩ := t
  obtain ⟨time', level', service', id', module', message', exception'⟩ := u
  simp only [contents, List.cons_append, List.nil_append, List.cons.injEq, Prod.mk.injEq,
    true_and] at h
  obtain ⟨htime, hlevel, hservice, hid, hmodule, hmessage, hexception⟩ := h
  refine ⟨htime, hlevel, hservice, hid, hmodule, hmessage, ?_⟩
  cases exception <;> cases exception' <;> simp_all

theorem ofTexts_injective : Function.Injective Json.ofTexts := by
  intro s t h
  refine List.map_injective_iff.2 ?_ h
  rintro ⟨name, text⟩ ⟨name', text'⟩ h
  cases h
  rfl

/-- Lines written one after the other fall apart into themselves at the ends of lines. -/
theorem splitOn_lines (ts : List LogTexts) :
    (ts.flatMap fun t => t.line.text.toList ++ ['\n']).splitOn '\n' =
      ts.map (fun t => t.line.text.toList) ++ [[]] := by
  induction ts with
  | nil => rfl
  | cons t ts ih =>
    have hend : '\n' ∉ t.line.text.toList := fun h => absurd (le_of_mem_text h) (by decide)
    rw [List.flatMap_cons, List.append_assoc, List.singleton_append,
      List.splitOn_append_cons_self_of_not_mem hend, ih]
    rfl

end LogTexts

/-- **A line of the log is read back**: it holds no control character, so it is one line; it is an
object of its texts under the names of their fields, in their order; lines that say different things
are different; and lines that are written one after the other are told apart. -/
theorem logLine_readable :
    (∀ t : LogTexts, (∀ c ∈ t.line.text.toList, 32 ≤ c.toNat) ∧
      Json.read t.line.text = .ok (.object (Json.ofTexts t.contents))) ∧
    (∀ t u : LogTexts, t.line.text = u.line.text →
      t.time.iso "T" = u.time.iso "T" ∧ t.level = u.level ∧ t.service = u.service ∧
        t.id.getD "-" = u.id.getD "-" ∧ t.module = u.module ∧ t.message = u.message ∧
        t.exception = u.exception) ∧
    ∀ ts : List LogTexts, (ts.flatMap fun t => t.line.text.toList ++ ['\n']).splitOn '\n' =
      ts.map (fun t => t.line.text.toList) ++ [[]] := by
  refine ⟨fun t => ⟨fun c hc => t.le_of_mem_text hc, t.read_text⟩, fun t u h => ?_,
    LogTexts.splitOn_lines⟩
  have hread : Json.read t.line.text = .ok (.object (Json.ofTexts u.contents)) := by
    rw [h, u.read_text]
  rw [t.read_text] at hread
  exact LogTexts.contents_inj (LogTexts.ofTexts_injective (Json.object.inj (Except.ok.inj hread)))

/-- Texts that would end the line and begin another one, if they were not escaped. -/
def forgery : LogTexts where
  time := ⟨(Date.ofParts? 2020 1 2).get rfl, .start, some .utc⟩
  level := "INFO"
  service := "a\"b\\"
  id := some "\r\n-"
  module := "Zoë\x07"
  message := "done\"\x7d\n\x7b\"level\": \"ERROR"
  exception := some ""

/-- They are the texts of one line. -/
theorem logLine_readable_forgery : '\n' ∉ forgery.line.text.toList ∧
    Json.read forgery.line.text = .ok (.object [("timestamp", .text "2020-01-02T00:00:00+00:00"),
      ("level", .text "INFO"), ("service", .text "a\"b\\"), ("correlation_id", .text "\r\n-"),
      ("module", .text "Zoë\x07"), ("message", .text "done\"\x7d\n\x7b\"level\": \"ERROR"),
      ("exception", .text "")]) := by
  obtain ⟨hplain, hread⟩ := logLine_readable.1 forgery
  have htime : forgery.time.iso "T" = "2020-01-02T00:00:00+00:00" := by decide +kernel
  refine ⟨fun h => absurd (hplain _ h) (by decide), ?_⟩
  rw [hread, ← htime]
  rfl

end TraversalScript
