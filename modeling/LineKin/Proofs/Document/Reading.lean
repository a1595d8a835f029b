import LineKin.Block
import LineKin.Relation.Basic

/-!
# Reading a text document

All lines of a `TextDocument` are at hand, so whatever is read of one is read without a failure.
The lemmas say what is read, as a fact about the list of lines: a range of lines
(`range_view`), all lines, the nearest line that a reading finds something on (`nearest_view`), and
the end of a block (`blockFrom_view`). A heuristic that looks at the whole document answers if the
target is one of the lines (`onLines_view`).
-/

namespace LineKin

variable {α : Type}

/-! ### Answers that are no failures -/

theorem mapError_ok {ε ε' : Type} (f : ε → ε') (a : α) :
    (Except.ok a : Except ε α).mapError f = .ok a := rfl

theorem ok_bind {ε β : Type} (a : α) (f : α → Except ε β) : (Except.ok a >>= f) = f a := rfl

theorem eq_ok_of_bind {ε α β : Type} {x : Except ε α} {f : α → Except ε β} {b : β}
    (h : (x >>= f) = .ok b) : ∃ a, x = .ok a ∧ f a = .ok b := by
  cases x with
  | error e => cases h
  | ok a => exact ⟨a, rfl, h⟩

theorem eq_ok_of_mapError {ε ε' α : Type} {x : Except ε α} {f : ε → ε'} {a : α}
    (h : x.mapError f = .ok a) : x = .ok a := by
  cases x with
  | error e => cases h
  | ok b => exact congrArg Except.ok (Except.ok.inj h)

/-! ### Text documents -/

namespace Document

theorem readable_map_ok (lines : List String) : readable (lines.map .ok) = (lines, none) := by
  induction lines with
  | nil => rfl
  | cons line rest ih => rw [List.map_cons, readable_ok_cons, ih]

/-- Among lines that can be read, the first one found is the first one with something to find. -/
theorem firstFound_map_ok (reading : String → Option α) (entries : List (String × Nat)) :
    firstFound reading (entries.map fun entry => (.ok entry.1, entry.2)) =
      .ok (entries.findSome? fun entry => (reading entry.1).map (entry.2, ·)) := by
  induction entries with
  | nil => rfl
  | cons entry rest ih =>
    rw [List.map_cons, firstFound, List.findSome?_cons]
    cases hfound : reading entry.1 with
    | none => simpa using ih
    | some found => rfl

end Document

namespace TextDocument

open Document

variable (d : TextDocument)

theorem lineCount_view : (d : Document).lineCount = d.lineCount := List.length_map ..

theorem range_view (start count : Nat) :
    (d : Document).range start count = .ok ((d.lines.drop start).take count) := by
  rw [Document.range, view, ← List.map_drop, ← List.map_take, readable_map_ok]

theorem slice_view (start count : Nat) :
    (d : Document).slice start count = .ok ((d.lines.drop start).take count) := by
  rw [Document.slice, range_view]
  rfl

theorem allLines_view : (d : Document).allLines = .ok d.lines := by
  rw [Document.allLines, slice_view, lineCount_view, List.drop_zero, lineCount, List.take_length]

variable {d} in
theorem line_view {i : Nat} {text : String} (h : d.lines[i]? = some text) :
    (d : Document).line i = .ok text := by
  rw [Document.line, view, List.getElem?_map, h]
  rfl

variable {d} in
theorem line_behind {i : Nat} (h : d.lineCount ≤ i) :
    (d : Document).line i = .error (.lineOutOfRange i d.lineCount) := by
  have hnone : (d : Document).lines[i]? = none := by
    rw [view, List.getElem?_map, List.getElem?_eq_none h, Option.map_none]
  rw [Document.line, hnone, lineCount_view]

variable {d} in
theorem line_within {i : Nat} (h : i < d.lineCount) :
    (d : Document).line i = .ok (d.lines.getD i "") := by
  have htext : d.lines[i]? = some d.lines[i] := List.getElem?_eq_getElem h
  rw [line_view htext, List.getD_eq_getElem?_getD, htext, Option.getD_some]

/-- The last line at or above a line that a reading finds something on, and what it finds there. -/
def foundAbove (reading : String → Option α) (line : Nat) : Option (Nat × α) :=
  (d.lines.take (line + 1)).zipIdx.reverse.findSome? fun entry =>
    (reading entry.1).map (entry.2, ·)

theorem nearest_view (reading : String → Option α) (line : Nat) :
    (d : Document).nearest reading line = .ok (d.foundAbove reading line) := by
  rw [Document.nearest, view, ← List.map_take, List.zipIdx_map, ← List.map_reverse]
  exact firstFound_map_ok reading _

variable {d} in
theorem lt_lineCount_of_foundAbove {reading : String → Option α} {line i : Nat} {found : α}
    (h : d.foundAbove reading line = some (i, found)) : i < d.lineCount := by
  obtain ⟨entry, hentry, hfound⟩ := List.exists_of_findSome?_eq_some h
  obtain ⟨_, -, heq⟩ := Option.map_eq_some_iff.1 hfound
  obtain ⟨rfl, -⟩ := Prod.mk.inj heq
  have hline := List.mem_zipIdx_iff_getElem?.1 (List.mem_reverse.1 hentry)
  have hlt := (List.getElem?_eq_some_iff.1 hline).1
  rw [List.length_take] at hlt
  exact Nat.lt_of_lt_of_le hlt (Nat.min_le_right ..)

theorem blockFrom_view (start column : Nat) : (d : Document).blockFrom start column =
    .ok ⟨start, (Block.closingFrom column start (d.lines.drop start)).getD
      (max (d.lineCount - 1) start)⟩ := by
  rw [Document.blockFrom, view, ← List.map_drop, readable_map_ok]
  cases hclosing : Block.closingFrom column start (d.lines.drop start) with
  | none => simp [hclosing, Document.lastLine, Document.lineCount, lineCount]
  | some closing => simp [hclosing]

end TextDocument

namespace Relation

variable {d : TextDocument} {target : Nat} {rule : List String → Nat → String → LineSet}

/-- A rule that looks at all lines proposes what it says, for a target that is one of them. -/
theorem onLines_view {text : String} (h : d.lines[target]? = some text) :
    onLines rule d target = .ok (rule d.lines target text) := by
  rw [onLines, allLinesOf, d.allLines_view, mapError_ok, ok_bind, h]

end Relation

end LineKin
