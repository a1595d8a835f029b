import LineKin.Block
import LineKin.Relation.Functions

/-!
# Lines of a class that share a member

The class of a line is the nearest class, interface or type declared at or above it, also if its
block ends before the line. Related are the declaration, the first constructor in its block, and the
lines of the block that use a member named on the target.
-/

namespace LineKin.Relation

open Line

/-- The lines of a class body that are its first constructor or use one of the names. The lines are
numbered from `start`. -/
def memberLines (names : List String) (start : Nat) (body : List String) : List Nat :=
  let constructor? := body.findIdx? isConstructor
  body.zipIdx.filterMap fun (line, i) =>
    if constructor? == some i || names.any (fun name => usesMember name line) then some (start + i)
    else none

/-- The lines that share a member with a text which stands on a line. -/
def membersOf (d : Document) (target : Nat) (text : String) : Except Failure LineSet := do
  match ← (enclosingClass d target).mapError .document with
  | none => .ok ∅
  | some (start, _) =>
    let block ← (d.blockFrom start 0).mapError .document
    let body ← (d.slice block.opening (block.closing + 1 - block.opening)).mapError .document
    .ok ((LineSet.ofList (memberLines (memberNames text) start body)).insert start)

/-- Members of the class around the target. -/
def classMembers : Heuristic :=
  ⟨"class-member", fun d target => do membersOf d target (← lineOf d target)⟩

end LineKin.Relation
