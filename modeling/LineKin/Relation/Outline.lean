import LineKin.Block
import LineKin.Line.Definition
import LineKin.Line.Statement

/-!
# Outlines

An `Outline` is a list of lines in which the lines from any place on are at hand at once: `rest` is
the list without its first lines (`rest_eq`). The kind of the statement on a line and the block of
that statement (`kind`, `block`) are read from there, and so is the nearest line above a line that
passes a test.
-/

namespace LineKin

/-- The parts of a list from each of its elements on, the whole list first. -/
def suffixes (lines : List String) : List (List String) :=
  lines.foldr (fun line below => (line :: below.headD []) :: below) []

theorem suffixes_cons (line : String) (lines : List String) :
    suffixes (line :: lines) = (line :: (suffixes lines).headD []) :: suffixes lines := rfl

theorem headD_suffixes (lines : List String) : (suffixes lines).headD [] = lines := by
  induction lines with
  | nil => rfl
  | cons line lines ih => rw [suffixes_cons, List.headD_cons, ih]

@[simp] theorem length_suffixes (lines : List String) : (suffixes lines).length = lines.length := by
  induction lines with
  | nil => rfl
  | cons line lines ih => rw [suffixes_cons, List.length_cons, List.length_cons, ih]

theorem getD_suffixes (lines : List String) (i : Nat) :
    (suffixes lines)[i]?.getD [] = lines.drop i := by
  induction lines generalizing i with
  | nil => simp [suffixes]
  | cons line lines ih =>
    cases i with
    | zero => simpa [suffixes_cons] using headD_suffixes lines
    | succ i => simpa [suffixes_cons] using ih i

/-- Lines, with what follows from each of them on. -/
structure Outline where
  /-- The lines. -/
  lines : List String
  /-- The lines from each line on. -/
  rests : Array (List String)
  /-- They are those of the list. -/
  rests_eq : rests = (suffixes lines).toArray

namespace Outline

open Line Statement

/-- The outline of a list of lines. -/
def ofLines (lines : List String) : Outline := ⟨lines, (suffixes lines).toArray, rfl⟩

/-- The number of lines. -/
def size (o : Outline) : Nat := o.rests.size

/-- The lines from a line on. -/
def rest (o : Outline) (i : Nat) : List String := o.rests[i]?.getD []

/-- A line. -/
def line? (o : Outline) (i : Nat) : Option String := (o.rest i).head?

@[simp] theorem lines_ofLines (lines : List String) : (ofLines lines).lines = lines := rfl

theorem size_eq (o : Outline) : o.size = o.lines.length := by simp [size, o.rests_eq]

theorem rest_eq (o : Outline) (i : Nat) : o.rest i = o.lines.drop i := by
  simp [rest, o.rests_eq, getD_suffixes]

theorem line?_eq (o : Outline) (i : Nat) : o.line? i = o.lines[i]? := by
  rw [line?, rest_eq, List.head?_drop]

/-- The kind of the statement on a line. -/
def kind (o : Outline) (i : Nat) : Option Kind := (o.line? i).bind kindOf

/-- The block of the statement on a line, counted from its keyword. A block that is not closed runs
to the last line. -/
def block (o : Outline) (i : Nat) : Block :=
  let start := ((o.line? i).map column).getD 0
  ⟨i, (Block.closingFrom start i (o.rest i)).getD (max (o.size - 1) i)⟩

/-- The first line from a line on that is neither blank nor a comment. -/
def significantFrom (o : Outline) (i : Nat) : Option Nat :=
  ((o.rest i).findIdx? fun line => !isBlankOrComment line).map (· + i)

/-- The nearest line above a line that passes a test. -/
def nearestAbove (line : Nat) (test : Nat → Bool) : Option Nat :=
  (List.range line).reverse.find? test

/-- The nearest header of a kind above a line whose block contains the line. -/
def enclosing (o : Outline) (k : Kind) (line : Nat) : Option Nat :=
  nearestAbove line fun i => o.kind i == some k && (o.block i).contains line

/-- The nearest line at or above a line that defines a function. -/
def definitionAbove (o : Outline) (line : Nat) : Option Nat :=
  nearestAbove (line + 1) fun i => ((o.line? i).bind functionName?).isSome

end Outline

end LineKin
