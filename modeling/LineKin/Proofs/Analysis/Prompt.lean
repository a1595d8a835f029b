import LineKin.Analysis.Prompt
import LineKin.Proofs.Analysis.Composition
import LineKin.Proofs.Document.Reading

/-!
# Prompts of text documents

The lines of a text document can be had by number, up to the first number that is none of its lines
(`linesAt_view`). The selected lines that a prompt shows always belong to the document, so a prompt
can be made if the related lines do (`build_of_within`), and those of an analysis of the document do
(`build_of_analyze`). Otherwise the first related line that does not is reported (`build_of_behind`).
-/

namespace LineKin

/-! ### Lines by number -/

namespace TextDocument

variable {d : TextDocument} {numbers : List Nat}

/-- The lines of the given numbers, or the first number that is none of the document's lines. -/
theorem linesAt_view (d : TextDocument) (numbers : List Nat) : (d : Document).linesAt numbers =
    match numbers.find? (d.lineCount ≤ ·) with
    | some i => .error (.lineOutOfRange i d.lineCount)
    | none => .ok (numbers.map (d.lines.getD · "")) := by
  rw [Document.linesAt_eq_mapM]
  induction numbers with
  | nil => rfl
  | cons i rest ih =>
    rw [List.mapM_cons, ih, List.find?_cons]
    rcases Nat.lt_or_ge i d.lineCount with hi | hi
    · rw [line_within hi, decide_eq_false (Nat.not_le.2 hi)]
      cases rest.find? (d.lineCount ≤ ·) <;> rfl
    · rw [line_behind hi, decide_eq_true hi]
      rfl

theorem linesAt_within (h : ∀ i ∈ numbers, i < d.lineCount) :
    (d : Document).linesAt numbers = .ok (numbers.map (d.lines.getD · "")) := by
  have hnone : numbers.find? (d.lineCount ≤ ·) = none :=
    List.find?_eq_none.2 fun i hi => by simpa using h i hi
  rw [linesAt_view, hnone]

end TextDocument

/-! ### Making a prompt -/

namespace Prompt

variable {d : TextDocument} {a : Analysis} {i : Nat}

/-- The selected lines that are shown belong to the document. -/
theorem lt_lineCount_of_mem_shownLines {s : Selection} (hd : 0 < d.lineCount)
    (hi : i ∈ shownLines d s) : i < d.lineCount := by
  have hrange : i < min (max s.last s.first) (d : Document).lastLine + 1 :=
    List.mem_range.1 (List.mem_of_mem_drop hi)
  rw [Document.lastLine, TextDocument.lineCount_view] at hrange
  omega

/-- A prompt can be made if the document has the related lines. -/
theorem build_of_within (hd : 0 < d.lineCount) (hrelated : ∀ i ∈ a.related, i < d.lineCount) :
    ∃ prompt, build d a = .ok prompt := by
  rw [build, TextDocument.linesAt_within fun i hi => lt_lineCount_of_mem_shownLines hd hi, ok_bind,
    numberedLines, TextDocument.linesAt_within hrelated]
  exact ⟨_, rfl⟩

/-- A prompt cannot be made if the document lacks a related line. The first such line is reported. -/
theorem build_of_behind {before after : List Nat} (hd : 0 < d.lineCount)
    (hrelated : a.related = before ++ i :: after) (hbefore : ∀ j ∈ before, j < d.lineCount)
    (hi : d.lineCount ≤ i) : build d a = .error (.lineOutOfRange i d.lineCount) := by
  have hnone : before.find? (d.lineCount ≤ ·) = none :=
    List.find?_eq_none.2 fun j hj => by simpa using hbefore j hj
  have hfirst : a.related.find? (d.lineCount ≤ ·) = some i := by
    rw [hrelated, List.find?_append, hnone, Option.none_or, List.find?_cons_of_pos (by simpa using hi)]
  rw [build, TextDocument.linesAt_within fun j hj => lt_lineCount_of_mem_shownLines hd hj, ok_bind,
    numberedLines, TextDocument.linesAt_view, hfirst]
  rfl

end Prompt

namespace Analyzer

variable {a : Analyzer} {d : Document} {t : TextDocument} {selection : Selection} {analysis : Analysis}
  {i line : Nat}

/-- What an analysis consists of. -/
theorem analyze_eq_ok (h : a.analyze d selection = .ok analysis) :
    analysis.selection = selection ∧
      analysis.related = (a.relatedLines d selection.first).toList ∧
      Context.build d selection.first a.limits = .ok analysis.context := by
  rw [analyze] at h
  split at h
  · rename_i context hcontext
    obtain rfl := Except.ok.inj h
    exact ⟨rfl, rfl, hcontext⟩
  · cases h

/-- What is related to a line of a document are lines of the document. -/
theorem lt_lineCount_of_mem_relatedLines (hline : line < d.lineCount)
    (hi : i ∈ (a.relatedLines d line).toList) : i < d.lineCount := by
  rcases mem_relatedLines.1 hi with rfl | ⟨hlt, -⟩
  · exact hline
  · exact hlt

/-- A prompt of an analysis can be made. -/
theorem build_of_analyze (hline : selection.first < t.lineCount)
    (h : a.analyze t selection = .ok analysis) : ∃ prompt, Prompt.build t analysis = .ok prompt := by
  obtain ⟨-, hrelated, -⟩ := analyze_eq_ok h
  refine Prompt.build_of_within (Nat.zero_lt_of_lt hline) fun i hi => ?_
  rw [hrelated] at hi
  rw [← TextDocument.lineCount_view] at hline ⊢
  exact lt_lineCount_of_mem_relatedLines hline hi

end Analyzer

end LineKin
