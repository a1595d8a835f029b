import LineKin.Relation.Flow
import LineKin.Relation.Functions
import LineKin.Relation.Imports
import LineKin.Relation.Members
import LineKin.Relation.Variables
import LineKin.Settings.Basic

/-!
# The lines related to a line

An `Analyzer` asks its heuristics one after the other. A heuristic that gives up adds nothing, a
proposed line that the document does not have is left out, and the target always belongs to the
answer (`Analyzer.mem_relatedLines`).
-/

namespace LineKin

/-- Heuristics and the limits they keep to. -/
structure Analyzer where
  /-- The heuristics, in the order in which they are asked. -/
  heuristics : List Heuristic
  /-- The limits. -/
  limits : AnalysisLimits

namespace Analyzer

/-- The five heuristics that an analyzer normally has. -/
def standardHeuristics (limits : AnalysisLimits) : List Heuristic :=
  [Relation.sharedVariables, Relation.functions, Relation.controlFlow,
   Relation.imports limits.importScanLines, Relation.classMembers]

/-- The analyzer with the five heuristics. -/
def standard (limits : AnalysisLimits) : Analyzer := ⟨standardHeuristics limits, limits⟩

/-- What a heuristic proposes, nothing if it gives up. -/
def proposals (h : Heuristic) (d : Document) (target : Nat) : LineSet :=
  match h.propose d target with
  | .ok lines => lines
  | .error _ => ∅

/-- The target and the lines related to it. -/
def relatedLines (a : Analyzer) (d : Document) (target : Nat) : LineSet :=
  let proposed := a.heuristics.foldl (fun lines h => lines ∪ proposals h d target) ∅
  let count := d.lineCount
  (proposed.filter fun i => i < count).insert target

theorem mem_foldl_proposals {hs : List Heuristic} {d : Document} {target i : Nat} {s : LineSet} :
    i ∈ hs.foldl (fun lines h => lines ∪ proposals h d target) s ↔
      i ∈ s ∨ ∃ h ∈ hs, i ∈ proposals h d target := by
  induction hs generalizing s with
  | nil => simp
  | cons h hs ih => simp [ih, or_assoc]

/-- Related are the target and the proposed lines that the document has. -/
theorem mem_relatedLines {a : Analyzer} {d : Document} {target i : Nat} :
    i ∈ a.relatedLines d target ↔
      i = target ∨ i < d.lineCount ∧ ∃ h ∈ a.heuristics, i ∈ proposals h d target := by
  simp [relatedLines, mem_foldl_proposals, and_comm]

end Analyzer

end LineKin
