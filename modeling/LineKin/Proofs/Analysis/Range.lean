import LineKin.Proofs.Analysis.Composition
import LineKin.Proofs.Relation.Range

/-!
# Which targets are answered

On a text document no heuristic gives up without need: it answers for every line of the document and
for no other number, and what it proposes are lines of the document (`AnswersWithin`).

**`standardHeuristics_answer_within`**: this holds of the five standard heuristics, whatever the
limits are. So nothing is related to a target that the document does not have, and for a line of the
document all five are heard, and none of their lines is left out.
-/

namespace LineKin

open LineKin.Relation TextDocument

variable {d : TextDocument} {t : Nat} {h : Heuristic}

/-- A heuristic answers for a target exactly if the document has this line, and proposes lines of the
document only. -/
def AnswersWithin (h : Heuristic) (d : TextDocument) (t : Nat) : Prop :=
  ((∃ lines, h.propose d t = .ok lines) ↔ t < d.lineCount) ∧
    ∀ lines, h.propose d t = .ok lines → ∀ i ∈ lines, i < d.lineCount

/-- A heuristic gives up on a target behind the end, if all it can say is what it says for a line. -/
theorem answersWithin_of_line {answer : String → LineSet}
    (hline : ∀ text, d.lines[t]? = some text → h.propose d t = .ok (answer text))
    (hwithin : ∀ text, d.lines[t]? = some text → ∀ i ∈ answer text, i < d.lineCount)
    (hbehind : d.lineCount ≤ t → ∃ e, h.propose d t = .error e) : AnswersWithin h d t := by
  rcases Nat.lt_or_ge t d.lineCount with ht | ht
  · have htext : d.lines[t]? = some d.lines[t] := List.getElem?_eq_getElem ht
    have hanswer := hline d.lines[t] htext
    refine ⟨⟨fun _ => ht, fun _ => ⟨_, hanswer⟩⟩, fun lines hlines => ?_⟩
    obtain rfl : answer d.lines[t] = lines := Except.ok.inj (hanswer.symm.trans hlines)
    exact hwithin d.lines[t] htext
  · obtain ⟨e, he⟩ := hbehind ht
    have hnone : ∀ lines, h.propose d t ≠ .ok lines := fun lines hlines => by
      rw [he] at hlines
      cases hlines
    exact ⟨⟨fun ⟨lines, hlines⟩ => absurd hlines (hnone lines), fun hlt => absurd hlt (Nat.not_lt.2 ht)⟩,
      fun lines hlines => absurd hlines (hnone lines)⟩

/-! ### The five heuristics -/

/-- A rule that looks at all lines answers within the document if its lines do. -/
theorem answersWithin_onLines {name : String} {rule : List String → Nat → String → LineSet}
    (hrule : ∀ text, d.lines[t]? = some text → ∀ i ∈ rule d.lines t text, i < d.lineCount) :
    AnswersWithin ⟨name, onLines rule⟩ d t := by
  refine answersWithin_of_line (fun text htext => onLines_view htext) hrule fun ht => ?_
  refine ⟨.noTarget t, ?_⟩
  show onLines rule d t = _
  rw [onLines, allLinesOf, d.allLines_view, mapError_ok, ok_bind, List.getElem?_eq_none ht]

theorem lineOf_behind (ht : d.lineCount ≤ t) :
    lineOf d t = .error (.document (.lineOutOfRange t d.lineCount)) := by
  rw [lineOf, line_behind ht]
  rfl

theorem answersWithin_sharedVariables : AnswersWithin sharedVariables d t :=
  answersWithin_onLines fun _ _ _ hi => lt_length_of_mem_linesWhere hi

theorem answersWithin_functions : AnswersWithin functions d t :=
  answersWithin_onLines fun _ _ _ hi => lt_length_of_mem_linesWhere hi

theorem answersWithin_controlFlow : AnswersWithin controlFlow d t := by
  refine answersWithin_onLines fun text htext i hi => ?_
  have ht : t < d.outline.size := d.size_outline ▸ (List.getElem?_eq_some_iff.1 htext).1
  exact d.size_outline ▸ Outline.lt_size_of_mem_flowLines ht hi

theorem answersWithin_imports (count : Nat) : AnswersWithin (imports count) d t := by
  refine answersWithin_of_line (fun text htext => propose_imports count htext) ?_ fun ht => ?_
  · intro text _ i hi
    split at hi
    · exact absurd hi LineSet.not_mem_empty
    · exact lt_length_of_mem_importLines hi
  · refine ⟨.document (.lineOutOfRange t d.lineCount), ?_⟩
    simp only [imports, lineOf_behind ht]
    rfl

theorem answersWithin_classMembers : AnswersWithin classMembers d t := by
  refine answersWithin_of_line (fun text htext => propose_classMembers htext) ?_ fun ht => ?_
  · intro text _ i hi
    cases hfound : d.foundAbove Line.className? t with
    | none =>
      rw [hfound] at hi
      exact absurd hi LineSet.not_mem_empty
    | some found =>
      rw [hfound] at hi
      exact lt_lineCount_of_mem_linesOfClass (lt_lineCount_of_foundAbove hfound) hi
  · refine ⟨.document (.lineOutOfRange t d.lineCount), ?_⟩
    simp only [classMembers, lineOf_behind ht]
    rfl

namespace Analyzer

theorem answersWithin_standard (limits : AnalysisLimits) :
    ∀ h ∈ standardHeuristics limits, AnswersWithin h d t := by
  simp only [standardHeuristics, List.forall_mem_cons]
  exact ⟨answersWithin_sharedVariables, answersWithin_functions, answersWithin_controlFlow,
    answersWithin_imports _, answersWithin_classMembers, nofun⟩

/-- **The standard heuristics answer exactly for the lines of a text document**, and with lines of the
document only. A target behind the end is related to nothing but itself; the lines related to a line
are that line and everything that is proposed for it. -/
theorem standardHeuristics_answer_within (d : TextDocument) (t : Nat) (limits : AnalysisLimits) :
    (∀ h ∈ standardHeuristics limits, AnswersWithin h d t) ∧
    (d.lineCount ≤ t → ((standard limits).relatedLines d t).toList = [t]) ∧
    (t < d.lineCount → ∀ i, i ∈ (standard limits).relatedLines d t ↔
      i = t ∨ Proposes (standardHeuristics limits) d t i) := by
  have hanswers := answersWithin_standard (d := d) (t := t) limits
  refine ⟨hanswers, fun ht => ?_, fun _ i => ?_⟩
  · symm
    rw [standard, eq_toList_relatedLines_iff]
    refine ⟨List.pairwise_singleton .., fun i => ?_⟩
    have hnone : ¬ Proposes (standardHeuristics limits) d t i := by
      rintro ⟨h, hmem, lines, hlines, -⟩
      exact Nat.not_lt.2 ht ((hanswers h hmem).1.1 ⟨lines, hlines⟩)
    simp [hnone]
  · rw [standard, mem_relatedLines_iff, lineCount_view]
    refine or_congr_right (and_iff_right_of_imp ?_)
    rintro ⟨h, hmem, lines, hlines, hi⟩
    exact (hanswers h hmem).2 lines hlines i hi

/-- A class with a member. -/
def smallClass : TextDocument := ⟨"javascript", ["class A \x7b", "run() \x7b this.x = 1; \x7d", "\x7d"]⟩

/-- The member is answered for, and the line behind the end is not. -/
theorem smallClass_answer_within :
    (1 < smallClass.lineCount ∧ smallClass.lineCount ≤ 3 ∧
      classMembers ∈ standardHeuristics {}) ∧
    AnswersWithin classMembers smallClass 1 ∧
    ((standard {}).relatedLines smallClass 3).toList = [3] ∧
    ∀ i, i ∈ (standard {}).relatedLines smallClass 1 ↔
      i = 1 ∨ Proposes (standardHeuristics {}) smallClass 1 i := by
  have hmem : classMembers ∈ standardHeuristics {} := by simp [standardHeuristics]
  have hline : 1 < smallClass.lineCount := by decide
  have hbehind : smallClass.lineCount ≤ 3 := by decide
  exact ⟨⟨hline, hbehind, hmem⟩, (standardHeuristics_answer_within smallClass 1 {}).1 classMembers hmem,
    (standardHeuristics_answer_within smallClass 3 {}).2.1 hbehind,
    (standardHeuristics_answer_within smallClass 1 {}).2.2 hline⟩

end Analyzer

end LineKin
