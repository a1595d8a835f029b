import LineKin.Line.Definition
import LineKin.Relation.Basic

/-!
# Lines that define what a line calls

Every name that the target line calls is looked up, keywords and built-ins left out, and each line
in the form of a definition of such a name is related. A target that defines what it calls is
related to itself.

`enclosingFunction` looks for the nearest definition at or above a line, whatever its block is.
-/

namespace LineKin.Relation

open Line

/-- The names of the calls that are looked up. -/
def lookedUpCalls (text : String) : List String :=
  (called text).filter fun name => !isIgnoredCall name

/-- The lines that define a function called on the target. -/
def definingLines (lines : List String) (_target : Nat) (text : String) : LineSet :=
  let names := (lookedUpCalls text).eraseDups
  linesWhere lines fun _ line => names.any fun name => defines name line

/-- Calls and the definitions of what they call. -/
def functions : Heuristic := ⟨"function", onLines definingLines⟩

/-- The nearest line at or above a line that defines a function, and the function's name. -/
def enclosingFunction (d : Document) (line : Nat) : Except DocumentError (Option (Nat × String)) :=
  d.nearest functionName? line

/-- The nearest line at or above a line that declares a class, interface or type, and its name. -/
def enclosingClass (d : Document) (line : Nat) : Except DocumentError (Option (Nat × String)) :=
  d.nearest className? line

end LineKin.Relation
