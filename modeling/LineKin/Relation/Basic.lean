import LineKin.Document.Basic
import LineKin.LineSet

/-!
# Relations between lines

A heuristic proposes, for a target line of a document, the lines that belong to it. Proposals are
guesses from the text alone, so a heuristic may also give up, with a `Failure`.

`onLines` is the frame of the heuristics that look at the whole document: all lines are read, and
the target has to be one of them.
-/

namespace LineKin

/-- Why a heuristic gives up. -/
inductive Failure where
  /-- A line cannot be read. -/
  | document (cause : DocumentError)
  /-- There is no target line of this number. -/
  | noTarget (line : Nat)
  /-- Some other reason, in its own words. -/
  | stated (reason : String)
  deriving DecidableEq

/-- The words for the failure. -/
def Failure.message : Failure → String
  | document cause => cause.message
  | noTarget line => s!"Target line {line} is out of range"
  | stated reason => reason

/-- A way to guess which lines belong to a target line. -/
structure Heuristic where
  /-- What the heuristic is called. -/
  name : String
  /-- The lines proposed for a target line. -/
  propose : Document → Nat → Except Failure LineSet

namespace Relation

/-- The numbers of numbered lines ascend. -/
theorem pairwise_zipIdx (lines : List String) :
    lines.zipIdx.Pairwise fun a b => a.2 < b.2 := by
  have h : (lines.zipIdx.map (·.2)).Pairwise (· < ·) := by
    rw [List.zipIdx_map_snd]; exact List.pairwise_lt_range'
  exact List.pairwise_map.1 h

/-- The lines of a list, by number, that pass a test. -/
def linesWhere (lines : List String) (test : Nat → String → Bool) : LineSet where
  toList := (lines.zipIdx.filter fun entry => test entry.2 entry.1).map (·.2)
  ascending := List.pairwise_map.2 ((pairwise_zipIdx lines).filter _)

/-- A line is chosen if the list has it and its text passes the test. -/
theorem mem_linesWhere {lines : List String} {test : Nat → String → Bool} {i : Nat} :
    i ∈ linesWhere lines test ↔ ∃ line, lines[i]? = some line ∧ test i line = true := by
  show i ∈ (lines.zipIdx.filter fun entry => test entry.2 entry.1).map (·.2) ↔ _
  simp [List.mem_zipIdx_iff_getElem?]

/-- A line of a document, for a heuristic. -/
def lineOf (d : Document) (target : Nat) : Except Failure String :=
  (d.line target).mapError .document

/-- All lines of a document, for a heuristic. -/
def allLinesOf (d : Document) : Except Failure (List String) := d.allLines.mapError .document

/-- The proposals of a rule for a document whose lines can all be read, and a target among them. -/
def onLines (rule : List String → Nat → String → LineSet) (d : Document) (target : Nat) :
    Except Failure LineSet := do
  let lines ← allLinesOf d
  match lines[target]? with
  | some text => .ok (rule lines target text)
  | none => .error (.noTarget target)

end Relation

end LineKin
