import LineKin.Line.Name
import LineKin.Relation.Basic

/-!
# Lines that share a variable

The names that a target line uses like a variable are followed, and so are the words of the target
line that some line of the document declares. A line is related if it mentions a followed name as a
whole word. Names are compared as text, without regard to scopes.
-/

namespace LineKin.Relation

open Line

/-- The names followed from a target line. -/
def followedNames (lines : List String) (target : String) : List String :=
  let targetWords := words target
  lines.foldl
    (fun names line => addNames names ((declared line).filter fun name => targetWords.contains name))
    (variableNames target)

/-- The other lines that mention a name followed from the target. -/
def sharingLines (lines : List String) (target : Nat) (text : String) : LineSet :=
  let names := followedNames lines text
  linesWhere lines fun i line => i != target && names.any fun name => mentions name line

/-- Declarations, assignments and uses of the target's variables. -/
def sharedVariables : Heuristic := ⟨"variable", onLines sharingLines⟩

end LineKin.Relation
