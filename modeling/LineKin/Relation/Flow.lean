import LineKin.Relation.Basic
import LineKin.Relation.Outline

/-!
# Lines that share a flow of control

What is related to a line depends on the kind of its statement. A header is related to its block and
to the clauses that continue it, a jump and a label to the statement they belong to, a `return` to
the function it ends, and a line without a keyword of its own to the guarded block around it.

The clauses that continue a header form a chain (`clauses`): the next clause stands on the closing
line of the one before, as in `} else {`, or is the next line that is neither blank nor a comment.
Each clause of a chain lies behind the one before, so a chain has at most as many clauses as the
document has lines, and walking that many steps reaches its end.
-/

namespace LineKin

namespace Outline

open Statement

/-! ### Chains of clauses -/

/-- The clause of a kind that continues a block. -/
def nextClause (o : Outline) (k : Kind) (b : Block) : Option Nat :=
  if b.closing ≠ b.opening && o.kind b.closing == some k then some b.closing
  else (o.significantFrom (b.closing + 1)).filter fun i => o.kind i == some k

/-- A header and the clauses of a kind that continue it, at most `count` of them. -/
def clausesUpTo (o : Outline) (k : Kind) : Nat → Nat → List Nat
  | 0, _ => []
  | count + 1, header =>
    header :: match o.nextClause k (o.block header) with
      | some clause => o.clausesUpTo k count clause
      | none => []

/-- A header and the clauses of a kind that continue it. -/
def clauses (o : Outline) (k : Kind) (header : Nat) : List Nat := o.clausesUpTo k o.size header

/-- The lines on which a header and its clauses start and end. -/
def chain (o : Outline) (k : Kind) (header : Nat) : LineSet :=
  LineSet.ofList ((o.clauses k header).flatMap fun i => [i, (o.block i).closing])

/-! ### What is related to a statement -/

/-- A header, the end of its block, and the lines of a kind inside the block. -/
def blockWith (o : Outline) (k : Kind) (header : Nat) : LineSet :=
  let b := o.block header
  LineSet.ofList ([b.opening, b.closing] ++ b.interior.filter fun i => o.kind i == some k)

/-- A loop and the jumps in it. -/
def loopLines (o : Outline) (header : Nat) : LineSet := o.blockWith .jump header

/-- A selection and its labels. -/
def selectionLines (o : Outline) (header : Nat) : LineSet := o.blockWith .label header

/-- A conditional and its other branches. -/
def branchLines (o : Outline) (header : Nat) : LineSet := o.chain .alternative header

/-- A branch, what continues it, and the whole conditional that it belongs to. -/
def alternativeLines (o : Outline) (line : Nat) : LineSet :=
  let owner := nearestAbove line fun i =>
    o.kind i == some .conditional && decide (line ∈ o.branchLines i)
  o.branchLines line ∪ (owner.map o.branchLines).getD ∅

/-- A guarded block, the handlers that continue it, and those on its lines. -/
def guardedLines (o : Outline) (header : Nat) : LineSet :=
  LineSet.ofList ((o.block header).lines.filter fun i => o.kind i == some .handler) ∪
    o.chain .handler header

/-- A handler with its block, and the whole guarded block that it belongs to. -/
def handlerLines (o : Outline) (line : Nat) : LineSet :=
  let owner := nearestAbove line fun i =>
    o.kind i == some .attempt && decide (line ∈ o.guardedLines i)
  LineSet.ofList [line, (o.block line).closing] ∪ (owner.map o.guardedLines).getD ∅

end Outline

namespace Relation

open Statement

/-- The lines that share the flow of control of the target. -/
def flowLines (o : Outline) (target : Nat) (text : String) : LineSet :=
  match kindOf text with
  | some .loop => o.loopLines target
  | some .conditional => o.branchLines target
  | some .alternative => o.alternativeLines target
  | some .attempt => o.guardedLines target
  | some .handler => o.handlerLines target
  | some .selection => o.selectionLines target
  | some .label => ((o.enclosing .selection target).map o.selectionLines).getD ∅
  | some .jump => ((o.enclosing .loop target).map o.loopLines).getD ∅
  | some .result => LineSet.ofList (o.definitionAbove target).toList
  | none => ((o.enclosing .attempt target).map o.guardedLines).getD ∅

/-- Blocks, clauses, and the targets of jumps. -/
def controlFlow : Heuristic :=
  ⟨"control-flow", onLines fun lines => flowLines (.ofLines lines)⟩

end Relation

end LineKin
