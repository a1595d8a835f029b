import LineKin.Proofs.Relation.Enclosing
import LineKin.Proofs.Relation.Imports
import LineKin.Proofs.Relation.Layout

/-!
# Heuristics stay inside the document

Every line that a heuristic proposes for a line of a text document is a line of the document: lines
chosen by a test (`lt_length_of_mem_linesWhere`), lines of statements (`lt_size_of_mem_flowLines`),
lines of imports (`lt_length_of_mem_importLines`, since the index holds the numbers of the lines it was
built from) and lines of a class (`lt_lineCount_of_mem_linesOfClass`).
-/

namespace LineKin

open Statement

variable {i line n : Nat}

/-! ### Lines chosen by a test -/

theorem Relation.lt_length_of_mem_linesWhere {lines : List String} {test : Nat → String → Bool}
    (h : i ∈ linesWhere lines test) : i < lines.length := by
  obtain ⟨text, htext, -⟩ := mem_linesWhere.1 h
  exact (List.getElem?_eq_some_iff.1 htext).1

/-- The lines made of a number that may be missing lie where those made of any number lie. -/
theorem LineSet.lt_of_mem_getD {found : Option Nat} {reach : Nat → LineSet}
    (hreach : ∀ h, found = some h → ∀ i ∈ reach h, i < n) (hi : i ∈ (found.map reach).getD ∅) :
    i < n := by
  cases found with
  | none => exact absurd hi not_mem_empty
  | some h => exact hreach h rfl i hi

/-! ### Lines of statements -/

namespace Outline

open LineKin.Relation

variable {o : Outline} {k : Kind} {h : Nat} {test : Nat → Bool}

theorem lt_size_of_mem_blockWith (hh : h < o.size) (hi : i ∈ o.blockWith k h) : i < o.size := by
  rcases mem_blockWith_iff.1 hi with rfl | rfl | ⟨-, hk⟩
  · exact hh
  · exact closing_lt_size hh
  · exact lt_size_of_kind hk

theorem lt_size_of_mem_guardedLines (hh : h < o.size) (hi : i ∈ o.guardedLines h) : i < o.size := by
  rcases mem_guardedLines_iff.1 hi with ⟨-, -, hk⟩ | hi
  · exact lt_size_of_kind hk
  · exact (le_of_mem_chain hh hi).2

theorem nearestAbove_lt (hfound : nearestAbove line test = some h) : h < line :=
  (nearestAbove_eq_some_iff.1 hfound).1

theorem lt_size_of_mem_alternativeLines (hh : h < o.size) (hi : i ∈ o.alternativeLines h) :
    i < o.size := by
  rw [alternativeLines, LineSet.mem_union] at hi
  rcases hi with hi | hi
  · exact (le_of_mem_chain hh hi).2
  · refine LineSet.lt_of_mem_getD (fun owner howner i hi => ?_) hi
    exact (le_of_mem_chain (Nat.lt_trans (nearestAbove_lt howner) hh) hi).2

theorem lt_size_of_mem_handlerLines (hh : h < o.size) (hi : i ∈ o.handlerLines h) : i < o.size := by
  rw [handlerLines, LineSet.mem_union] at hi
  rcases hi with hi | hi
  · rw [LineSet.mem_ofList, List.mem_pair] at hi
    rcases hi with rfl | rfl
    · exact hh
    · exact closing_lt_size hh
  · refine LineSet.lt_of_mem_getD (fun owner howner i hi => ?_) hi
    exact lt_size_of_mem_guardedLines (Nat.lt_trans (nearestAbove_lt howner) hh) hi

/-- Whatever kind of statement the target is, the lines of its flow of control are lines of the
outline. -/
theorem lt_size_of_mem_flowLines {text : String} (hline : line < o.size)
    (hi : i ∈ flowLines o line text) : i < o.size := by
  have henclosing : ∀ {k h}, o.enclosing k line = some h → h < o.size := fun hfound =>
    Nat.lt_trans (nearestAbove_lt hfound) hline
  rw [flowLines] at hi
  cases hkind : kindOf text with
  | none =>
    rw [hkind] at hi
    exact LineSet.lt_of_mem_getD
      (fun h hfound i hi => lt_size_of_mem_guardedLines (henclosing hfound) hi) hi
  | some k =>
    rw [hkind] at hi
    cases k with
    | loop | selection => exact lt_size_of_mem_blockWith hline hi
    | conditional => exact (le_of_mem_chain hline hi).2
    | alternative => exact lt_size_of_mem_alternativeLines hline hi
    | attempt => exact lt_size_of_mem_guardedLines hline hi
    | handler => exact lt_size_of_mem_handlerLines hline hi
    | label | jump =>
      exact LineSet.lt_of_mem_getD
        (fun h hfound i hi => lt_size_of_mem_blockWith (henclosing hfound) hi) hi
    | result =>
      rw [LineSet.mem_ofList, Option.mem_toList] at hi
      exact Nat.lt_of_le_of_lt (Nat.le_of_lt_succ (nearestAbove_lt hi)) hline

end Outline

/-! ### Lines of imports -/

namespace Relation

theorem lt_length_of_mem_importLines {count : Nat} {names lines : List String}
    (hi : i ∈ importLines count names lines) : i < lines.length := by
  rw [importLines, LineSet.mem_union, LineSet.mem_ofList, List.mem_flatMap] at hi
  rcases hi with ⟨name, -, hi⟩ | hi
  · obtain ⟨form, hfound⟩ := ImportIndex.mem_lookup.1 hi
    rw [ImportIndex.find?_ofLines] at hfound
    obtain ⟨hlt, -⟩ := List.findIdx?_eq_some_iff_getElem.1 hfound
    rw [List.length_take] at hlt
    omega
  · exact lt_length_of_mem_linesWhere hi

/-! ### Lines of a class -/

variable {d : TextDocument} {text : String} {start t : Nat}

theorem lt_lineCount_of_mem_linesOfClass (hstart : start < d.lineCount)
    (hi : i ∈ linesOfClass d text start) : i < d.lineCount := by
  obtain ⟨hlow, hhigh⟩ := closing_bounds (d := d) hstart
  rw [linesOfClass, LineSet.mem_insert, LineSet.mem_ofList, mem_memberLines] at hi
  rcases hi with rfl | ⟨k, member, hmember, -, rfl⟩
  · exact hstart
  · have hlt := (List.getElem?_eq_some_iff.1 hmember).1
    rw [List.length_take] at hlt
    omega

end Relation

end LineKin
