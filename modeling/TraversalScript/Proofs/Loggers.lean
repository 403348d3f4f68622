import Mathlib.Data.List.Basic
import TraversalScript.Log.Journal

/-!
# Loggers

What handing a record on prints, and what it leaves of the loggers on the way.

* `Handler.shut`, `Logger.shut`: a handler or a logger, but for the number of an open file;
* `Handler.lines`, `Logger.lines`: what is printed of a record, which no disk has a part in;
* `handOn_shut`, `emit_shut`: a record changes nothing of a logger but the numbers of open files;
* `chain_nodup`: no logger is above itself;
* `Journal.reached`, `reached_split`: the loggers that a record comes to, each of them once;
* **`emit_lines`**, `emit_own`: what is printed of a record is printed by these.
-/

namespace TraversalScript

/-! ## Handlers -/

/-- A writer but for the number of its file. -/
def Writer.shut (w : Writer) : Writer := { w with file := none }

theorem Writer.shut_write (w : Writer) (line : String) (d : Disk) :
    (w.write line d).1.shut = w.shut := by
  unfold write
  split <;> rfl

namespace Handler

/-- A handler but for the number of its file. -/
def shut : Handler → Handler
  | console service => console service
  | file level w => file level w.shut

/-- What a handler prints of a record. -/
def lines (r : Record) : Handler → List String
  | console service => if r.level < 0 then [] else [r.line service]
  | file .. => []

variable (r : Record)

theorem lines_shut (h : Handler) : h.shut.lines r = h.lines r := by
  cases h <;> rfl

theorem eq_of_shut_console {h : Handler} {service : Json} (hs : h.shut = .console service) :
    h = .console service := by
  cases h with
  | console s => exact hs
  | file l w => cases hs

theorem eq_of_shut_file {h : Handler} {l : Int} {w : Writer} (hs : h.shut = .file l w) :
    ∃ v : Writer, h = .file l v ∧ v.shut = w := by
  cases h with
  | console s => cases hs
  | file m v =>
    injection hs with hl hv
    exact ⟨v, hl ▸ rfl, hv⟩

theorem take_spec (h : Handler) (d : Disk) :
    (h.take r d).1.shut = h.shut ∧ (h.take r d).2.2 = h.lines r := by
  by_cases hr : r.level < h.level
  · rw [take.eq_def, if_pos hr]
    cases h with
    | console service => exact ⟨rfl, (if_pos hr).symm⟩
    | file l w => exact ⟨rfl, rfl⟩
  · rw [take.eq_def, if_neg hr]
    cases h with
    | console service => exact ⟨rfl, (if_neg hr).symm⟩
    | file l w => exact ⟨congrArg (file l) (w.shut_write _ d), rfl⟩

theorem takeAll_spec (hs : List Handler) (d : Disk) :
    (takeAll r hs d).1.map shut = hs.map shut ∧ (takeAll r hs d).2.2 = hs.flatMap (lines r) := by
  induction hs generalizing d with
  | nil => exact ⟨rfl, rfl⟩
  | cons h hs ih =>
    obtain ⟨hshut, hlines⟩ := take_spec r h d
    obtain ⟨hshuts, hmore⟩ := ih (h.take r d).2.1
    simp only [takeAll, List.map_cons, List.flatMap_cons, hshut, hlines, hshuts, hmore, and_self]

end Handler

namespace Logger

/-- A logger but for the numbers of its files. -/
def shut (l : Logger) : Logger := { l with handlers := l.handlers.map Handler.shut }

/-- What a logger prints of a record. -/
def lines (r : Record) (l : Logger) : List String := l.handlers.flatMap (Handler.lines r)

theorem lines_shut (r : Record) (l : Logger) : l.shut.lines r = l.lines r := by
  simp only [lines, shut, List.flatMap_map, Handler.lines_shut]

end Logger

/-! ## Journals -/

theorem lookup_filter_ne {α : Type} {n name : String} (h : n ≠ name) (es : List (String × α)) :
    (es.filter fun e => e.1 != name).lookup n = es.lookup n := by
  induction es with
  | nil => rfl
  | cons e es ih =>
    by_cases he : e.1 = name
    · have hn : (n == e.1) = false := by rw [he]; exact beq_false_of_ne h
      rw [List.filter_cons_of_neg (by simp [he]), ih, List.lookup_cons, hn]
    · rw [List.filter_cons_of_pos (by simp [he]), List.lookup_cons, List.lookup_cons, ih]

namespace Journal

theorem logger_setLogger (j : Journal) (name : String) (l : Logger) (n : String) :
    (j.setLogger name l).logger n = if n = name then l else j.logger n := by
  by_cases h : n = name
  · subst h
    simp [logger, setLogger]
  · simp only [logger, setLogger, List.lookup_cons, beq_false_of_ne h, if_neg h,
      lookup_filter_ne h]

@[simp] theorem logger_setLogger_self (j : Journal) (name : String) (l : Logger) :
    (j.setLogger name l).logger name = l := by
  rw [logger_setLogger, if_pos rfl]

variable (r : Record)

/-- A record changes nothing of any logger but the numbers of open files. -/
theorem handOn_shut (names : List String) (j : Journal) (n : String) :
    ((handOn r names j).1.logger n).shut = (j.logger n).shut := by
  induction names generalizing j with
  | nil => rfl
  | cons name names ih =>
    have hset (hs : List Handler) (d : Disk)
        (h : hs.map Handler.shut = (j.logger name).handlers.map Handler.shut) :
        ((({ j with disk := d }.setLogger name { j.logger name with handlers := hs })).logger
          n).shut = (j.logger n).shut := by
      rw [logger_setLogger]
      by_cases hn : n = name
      · rw [if_pos hn, hn, Logger.shut, Logger.shut, h]
      · rw [if_neg hn]
        rfl
    have hs := (Handler.takeAll_spec r (j.logger name).handlers j.disk).1
    simp only [handOn]
    split
    · rw [ih]
      exact hset _ _ hs
    · exact hset _ _ hs

theorem emit_shut (j : Journal) (name : String) (level : Int) (module message n : String) :
    ((j.emit name level module message).1.logger n).shut = (j.logger n).shut := by
  rw [emit]
  split
  · exact handOn_shut _ _ j n
  · rfl

/-- The loggers of a list up to one that does not hand records on. -/
def reached (j : Journal) : List String → List String
  | [] => []
  | name :: names => name :: if (j.logger name).propagates then j.reached names else []

theorem reached_congr {j k : Journal} (h : ∀ n, (k.logger n).shut = (j.logger n).shut)
    (names : List String) : k.reached names = j.reached names := by
  induction names with
  | nil => rfl
  | cons name names ih =>
    have hp : (k.logger name).shut.propagates = (j.logger name).shut.propagates := by rw [h]
    change (k.logger name).propagates = (j.logger name).propagates at hp
    rw [reached, reached, hp, ih]

/-- What the loggers of a list print of a record. -/
def linesOf (j : Journal) (r : Record) (names : List String) : List String :=
  names.flatMap fun n => (j.logger n).lines r

theorem linesOf_congr {j k : Journal} {names : List String}
    (h : ∀ n ∈ names, (k.logger n).shut = (j.logger n).shut) :
    k.linesOf r names = j.linesOf r names := by
  apply List.flatMap_congr
  intro n hn
  rw [← Logger.lines_shut, h n hn, Logger.lines_shut]

/-- What is printed of a record that is handed on is what the loggers that it comes to print. -/
theorem handOn_lines (names : List String) (j : Journal) :
    (handOn r names j).2 = j.linesOf r (j.reached names) := by
  induction names generalizing j with
  | nil => rfl
  | cons name names ih =>
    have hl : (Handler.takeAll r (j.logger name).handlers j.disk).2.2 = (j.logger name).lines r :=
      (Handler.takeAll_spec r _ j.disk).2
    -- after one logger the others are as before, but for what they have open
    have hk := handOn_shut r [name] j
    simp only [handOn] at hk ⊢
    by_cases hp : (j.logger name).propagates = true
    · simp only [hp, if_true] at hk ⊢
      rw [ih, hl, reached, if_pos hp, reached_congr hk, linesOf_congr r fun n _ => hk n]
      rfl
    · simp only [hp, hl, reached, linesOf, Bool.false_eq_true, if_false, List.flatMap_cons,
        List.flatMap_nil, List.append_nil]

/-! ## Chains -/

theorem length_rest_lt {cs : List Char} (h : (cs.dropWhile (· != '.')).drop 1 ≠ []) :
    ((cs.dropWhile (· != '.')).drop 1).length < cs.length := by
  have hle := (List.dropWhile_sublist (· != '.') (l := cs)).length_le
  have hpos := List.length_pos_iff.2 h
  simp only [List.length_drop] at hpos ⊢
  omega

section

variable {knows : String → Bool} {cs : List Char}

theorem mem_namesAbove {n : String} (h : n ∈ namesAbove knows cs) :
    knows n = true ∧ n.length < cs.length := by
  fun_induction namesAbove knows cs with
  | case1 => cases h
  | case2 cs rest hrest name hknows ih =>
    have hlt : rest.length < cs.length := length_rest_lt hrest
    obtain rfl | h := List.mem_cons.1 h
    · exact ⟨hknows, by simpa [name] using hlt⟩
    · exact ⟨(ih h).1, Nat.lt_trans (ih h).2 hlt⟩
  | case3 cs rest hrest name hknows ih =>
    have hlt : rest.length < cs.length := length_rest_lt hrest
    have hle : (rest.drop 1).length ≤ rest.length := (List.drop_sublist 1 rest).length_le
    exact ⟨(ih h).1, Nat.lt_trans (Nat.lt_of_lt_of_le (ih h).2 hle) hlt⟩

theorem namesAbove_nodup : (namesAbove knows cs).Nodup := by
  fun_induction namesAbove knows cs with
  | case1 => exact .nil
  | case2 cs rest hrest name hknows ih =>
    refine List.nodup_cons.2 ⟨fun h => ?_, ih⟩
    have hlt := (mem_namesAbove h).2
    simp [name] at hlt
  | case3 cs rest hrest name hknows ih => exact ih

end

theorem reached_subset (j : Journal) (names : List String) : j.reached names ⊆ names := by
  induction names with
  | nil => exact List.Subset.refl _
  | cons name names ih =>
    rw [reached]
    split
    · exact List.cons_subset_cons _ ih
    · exact List.cons_subset_cons _ (List.nil_subset _)

/-- No logger is above itself. -/
theorem chain_nodup (j : Journal) (name : String) : (j.chain name).Nodup := by
  rw [chain]
  split
  case isTrue => simp
  case isFalse h =>
    refine List.nodup_cons.2 ⟨fun hm => ?_, List.nodup_append.2 ⟨namesAbove_nodup, ?_, ?_⟩⟩
    · obtain hm | hm := List.mem_append.1 hm
      · have hlt := (mem_namesAbove hm).2
        simp only [List.length_reverse, String.length_toList, Nat.lt_irrefl] at hlt
      · exact h (List.mem_singleton.1 hm)
    · simp
    · rintro n hn m hm rfl
      rw [List.mem_singleton.1 hm] at hn
      simpa using (mem_namesAbove hn).1

theorem exists_chain (j : Journal) (name : String) :
    ∃ above, j.chain name = name :: above ∧ name ∉ above := by
  have hnodup := j.chain_nodup name
  rw [chain] at hnodup ⊢
  split at hnodup
  case isTrue h => exact ⟨[], by rw [if_pos h, h], List.not_mem_nil⟩
  case isFalse h => exact ⟨_, if_neg h, (List.nodup_cons.1 hnodup).1⟩

theorem levelOf_disk (j : Journal) (d : Disk) (names : List String) :
    ({ j with disk := d } : Journal).levelOf names = j.levelOf names := by
  induction names with
  | nil => rfl
  | cons name names ih => rw [levelOf, levelOf, ih]; rfl

/-- The disk has no part in which records a logger takes. -/
theorem isEnabled_disk (j : Journal) (d : Disk) (name : String) (level : Int) :
    ({ j with disk := d } : Journal).isEnabled name level = j.isEnabled name level := by
  have hchain : ({ j with disk := d } : Journal).chain name = j.chain name := rfl
  rw [isEnabled, isEnabled, Journal.level, Journal.level, hchain, levelOf_disk]

/-- A logger with a level of its own takes records from that level on. -/
theorem isEnabled_eq {j : Journal} {name : String} (h : (j.logger name).level ≠ 0) (level : Int) :
    j.isEnabled name level = (decide (0 < level) && decide ((j.logger name).level ≤ level)) := by
  obtain ⟨above, hchain, -⟩ := j.exists_chain name
  rw [isEnabled, Journal.level, hchain, levelOf, if_neg h]

/-- A record that comes to a logger comes to it once, after those below it and before those above,
of which there are none if it keeps its records to itself. -/
theorem reached_split (j : Journal) {names : List String} (hnodup : names.Nodup) {n : String}
    (h : n ∈ j.reached names) : ∃ below above, j.reached names = below ++ n :: above ∧
      n ∉ below ∧ n ∉ above ∧ ((j.logger n).propagates = false → above = []) := by
  induction names with
  | nil => cases h
  | cons name names ih =>
    obtain ⟨hname, hnames⟩ := List.nodup_cons.1 hnodup
    have hreached : n ∈ j.reached names → n ≠ name := by
      rintro hn rfl
      exact hname (j.reached_subset names hn)
    by_cases hp : (j.logger name).propagates = true
    · rw [reached, if_pos hp] at h ⊢
      obtain rfl | h := List.mem_cons.1 h
      · refine ⟨[], _, rfl, List.not_mem_nil, fun hn => hreached hn rfl, fun hfalse => ?_⟩
        exact absurd (hp.symm.trans hfalse) nofun
      · obtain ⟨below, above, heq, hbelow, habove, hclosed⟩ := ih hnames h
        refine ⟨name :: below, above, by rw [heq, List.cons_append], ?_, habove, hclosed⟩
        intro hn
        obtain hn | hn := List.mem_cons.1 hn
        · exact hreached h hn
        · exact hbelow hn
    · rw [reached, if_neg hp] at h ⊢
      obtain rfl := List.mem_singleton.1 h
      exact ⟨[], [], rfl, List.not_mem_nil, List.not_mem_nil, fun _ => rfl⟩

section

variable {j : Journal} {source : String} {level : Int}

/-- **What is printed of a record is printed by the loggers that it comes to**, and each of them
prints its lines once. -/
theorem emit_lines (h : j.isEnabled source level = true) (module message : String) {n : String}
    (hn : n ∈ j.reached (j.chain source)) : ∃ below above, n ∉ below ∧ n ∉ above ∧
      ((j.logger n).propagates = false → above = []) ∧
      (j.emit source level module message).2 =
        j.linesOf (j.record level module message) below ++
          (j.logger n).lines (j.record level module message) ++
          j.linesOf (j.record level module message) above := by
  obtain ⟨below, above, hreached, hbelow, habove, hclosed⟩ :=
    j.reached_split (j.chain_nodup source) hn
  refine ⟨below, above, hbelow, habove, hclosed, ?_⟩
  rw [emit, if_pos h, handOn_lines, hreached, linesOf, List.flatMap_append, List.flatMap_cons,
    List.append_assoc]
  rfl

/-- A record comes to its own logger first. -/
theorem exists_reached (j : Journal) (source : String) : ∃ above,
    j.reached (j.chain source) = source :: above ∧ source ∉ above ∧
      ((j.logger source).propagates = false → above = []) := by
  obtain ⟨rest, hchain, -⟩ := j.exists_chain source
  have hmem : source ∈ j.reached (j.chain source) := by
    rw [hchain, reached]
    exact List.mem_cons_self
  obtain ⟨below, above, hreached, hbelow, habove, hclosed⟩ :=
    j.reached_split (j.chain_nodup source) hmem
  cases below with
  | nil => exact ⟨above, hreached, habove, hclosed⟩
  | cons m below =>
    rw [hchain, reached] at hreached
    exact absurd (List.mem_cons.2 (.inl (List.cons.inj hreached).1)) hbelow

/-- The logger of a record prints its lines first. -/
theorem emit_own (h : j.isEnabled source level = true) (module message : String) :
    ∃ above, source ∉ above ∧ ((j.logger source).propagates = false → above = []) ∧
      (j.emit source level module message).2 =
        (j.logger source).lines (j.record level module message) ++
          j.linesOf (j.record level module message) above := by
  obtain ⟨above, hreached, habove, hclosed⟩ := j.exists_reached source
  refine ⟨above, habove, hclosed, ?_⟩
  rw [emit, if_pos h, handOn_lines, hreached, linesOf, List.flatMap_cons]
  rfl

end

end Journal

end TraversalScript
