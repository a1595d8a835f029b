import LineKin.Proofs.Document.Reading
import LineKin.Relation.Outline

/-!
# Blocks and nearest lines of an outline

The block of a statement is what a document finds from the column of the statement on
(`blockFrom_column`). A block ends at or behind the line it starts on, and inside the document
(`le_closing`, `closing_lt_size`). The nearest line above a line that passes a test is the last one
(`nearestAbove_eq_some_iff`), and the next significant line is the first one
(`significantFrom_spec`).
-/

namespace LineKin

/-- The outline of the lines of a text document. -/
def TextDocument.outline (d : TextDocument) : Outline := .ofLines d.lines

theorem TextDocument.size_outline (d : TextDocument) : d.outline.size = d.lineCount :=
  d.outline.size_eq

theorem TextDocument.kind_outline (d : TextDocument) (i : Nat) :
    d.outline.kind i = d.lines[i]?.bind Statement.kindOf := by
  rw [Outline.kind, Outline.line?_eq]
  rfl

theorem TextDocument.blockFrom_column {d : TextDocument} {i : Nat} {line : String}
    (h : d.lines[i]? = some line) :
    (d : Document).blockFrom i (Statement.column line) = .ok (d.outline.block i) := by
  have hline : d.outline.line? i = some line := (Outline.line?_eq ..).trans h
  rw [d.blockFrom_view, Outline.block, hline, Outline.rest_eq, d.size_outline]
  rfl

namespace Block

theorem mem_lines {b : Block} {line : Nat} :
    line ∈ b.lines ↔ b.opening ≤ line ∧ line ≤ b.closing := by
  rw [lines, List.range_eq_range', List.drop_range', List.mem_range'_1]
  omega

theorem mem_interior {b : Block} {line : Nat} :
    line ∈ b.interior ↔ b.opening < line ∧ line < b.closing := by
  rw [interior, List.range_eq_range', List.drop_range', List.mem_range'_1]
  simp only [interiorBounds]
  omega

/-- The line on which a count ends is one of those that were counted. -/
theorem closingLine_bounds {progress : Progress} {i closing : Nat} {lines : List String}
    (h : closingLine progress i lines = some closing) : i ≤ closing ∧ closing < i + lines.length := by
  induction lines generalizing progress i with
  | nil => simp [closingLine] at h
  | cons line rest ih =>
    rw [closingLine] at h
    split at h
    · obtain rfl : i = closing := Option.some.inj h
      simp
    · obtain ⟨hlow, hhigh⟩ := ih h
      rw [List.length_cons]
      omega

theorem closingFrom_bounds {column i closing : Nat} {lines : List String}
    (h : closingFrom column i lines = some closing) : i ≤ closing ∧ closing < i + lines.length := by
  cases lines with
  | nil => simp [closingFrom] at h
  | cons first rest =>
    rw [closingFrom] at h
    split at h
    · obtain rfl : i = closing := Option.some.inj h
      simp
    · obtain ⟨hlow, hhigh⟩ := closingLine_bounds h
      rw [List.length_cons]
      omega

end Block

namespace Outline

open Statement

variable {o : Outline} {i j line : Nat} {k : Kind} {test : Nat → Bool}

/-! ### The nearest line above -/

theorem nearestAbove_zero : nearestAbove 0 test = none := rfl

theorem nearestAbove_succ : nearestAbove (line + 1) test =
    if test line then some line else nearestAbove line test := by
  rw [nearestAbove, List.range_succ, List.reverse_append, List.reverse_singleton,
    List.singleton_append, List.find?_cons, nearestAbove]
  cases test line <;> rfl

/-- The nearest line above a line that passes a test is the last of those above. -/
theorem nearestAbove_eq_some_iff : nearestAbove line test = some i ↔
    i < line ∧ test i = true ∧ ∀ j, i < j → j < line → test j = false := by
  induction line with
  | zero => simp [nearestAbove_zero]
  | succ line ih =>
    rw [nearestAbove_succ]
    split
    · rename_i htest
      constructor
      · intro h
        obtain rfl : line = i := Option.some.inj h
        exact ⟨by omega, htest, fun j _ _ => by omega⟩
      · rintro ⟨hi, -, hlast⟩
        rcases Nat.eq_or_lt_of_le (Nat.le_of_lt_succ hi) with rfl | hlt
        · rfl
        · rw [hlast line hlt (by omega)] at htest
          exact Bool.noConfusion htest
    · rename_i htest
      rw [ih]
      constructor
      · rintro ⟨hi, hti, hlast⟩
        refine ⟨by omega, hti, fun j hij hj => ?_⟩
        by_cases hjl : j = line
        · rw [hjl]
          exact Bool.eq_false_iff.2 htest
        · exact hlast j hij (by omega)
      · rintro ⟨hi, hti, hlast⟩
        have hne : i ≠ line := fun h => htest (h ▸ hti)
        exact ⟨by omega, hti, fun j hij hj => hlast j hij (by omega)⟩

theorem nearestAbove_eq_none_iff :
    nearestAbove line test = none ↔ ∀ i < line, test i = false := by
  simp [nearestAbove, List.find?_eq_none]

/-! ### Kinds and blocks -/

theorem lt_size_of_kind (h : o.kind i = some k) : i < o.size := by
  rw [kind, line?_eq, Option.bind_eq_some_iff] at h
  obtain ⟨text, htext, -⟩ := h
  rw [size_eq]
  exact (List.getElem?_eq_some_iff.1 htext).1

theorem significantFrom_spec (h : o.significantFrom i = some j) : i ≤ j ∧ j < o.size := by
  rw [significantFrom, rest_eq, Option.map_eq_some_iff] at h
  obtain ⟨n, hn, rfl⟩ := h
  have := (List.findIdx?_eq_some_iff_getElem.1 hn).1
  rw [List.length_drop] at this
  rw [size_eq]
  omega

theorem opening_block (o : Outline) (i : Nat) : (o.block i).opening = i := rfl

theorem le_closing (o : Outline) (i : Nat) : i ≤ (o.block i).closing := by
  rw [block]
  cases h : Block.closingFrom (((o.line? i).map column).getD 0) i (o.rest i) with
  | none => exact Nat.le_max_right ..
  | some closing => simpa [h] using (Block.closingFrom_bounds h).1

theorem closing_lt_size (h : i < o.size) : (o.block i).closing < o.size := by
  rw [block]
  cases hc : Block.closingFrom (((o.line? i).map column).getD 0) i (o.rest i) with
  | none => simp only [Option.getD_none]; omega
  | some closing =>
    have := (Block.closingFrom_bounds hc).2
    rw [rest_eq, List.length_drop] at this
    rw [size_eq] at h ⊢
    simp only [Option.getD_some]
    omega

end Outline

end LineKin
