import LineKin.Document.Basic

/-!
# Blocks

A block is a range of lines from an opening line to a closing line. The block that starts at a place
of a document is found by counting braces, in strings and comments too: it is opened by the first
brace at which more braces are open than closed, and it is closed by the brace that closes that one.
A block that is never opened or never closed runs to the last line.

The count is a single walk over characters (`walk`), continued from line to line (`closingLine`, `closingFrom`).
-/

namespace LineKin

/-- A range of lines. -/
structure Block where
  /-- The line it starts on. -/
  opening : Nat
  /-- The line it ends on. -/
  closing : Nat
  deriving DecidableEq

namespace Block

/-- Whether a line lies in the block. -/
def contains (b : Block) (line : Nat) : Bool := b.opening ≤ line && line ≤ b.closing

/-- The first line behind the opening line, and the closing line, before which the interior ends. -/
def interiorBounds (b : Block) : Nat × Nat := (b.opening + 1, b.closing)

/-- The lines strictly between the opening and the closing line. -/
def interior (b : Block) : List Nat := (List.range b.interiorBounds.2).drop b.interiorBounds.1

/-- All lines of the block. -/
def lines (b : Block) : List Nat := (List.range (b.closing + 1)).drop b.opening

/-- How far the count of braces has come. -/
inductive Progress where
  /-- The block is not closed yet: the number of braces open, and whether it was ever positive. -/
  | counting (depth : Int) (opened : Bool)
  /-- The block was closed. -/
  | closed
  deriving DecidableEq

/-- The count before the first character. -/
def Progress.start : Progress := .counting 0 false

/-- Counts one character. -/
def Progress.step : Progress → Char → Progress
  | .closed, _ => .closed
  | .counting depth opened, c =>
    if c = '{' then .counting (depth + 1) (opened || 0 < depth + 1)
    else if c = '}' then
      if opened && depth - 1 = 0 then .closed else .counting (depth - 1) opened
    else .counting depth opened

/-- Counts the characters of a text. -/
def walk (progress : Progress) (text : List Char) : Progress := text.foldl Progress.step progress

/-- The text behind a number of bytes, if it starts with a whole character there. -/
def behindBytes? : Nat → List Char → Option (List Char)
  | 0, text => some text
  | _, [] => none
  | bytes, c :: rest => if c.utf8Size ≤ bytes then behindBytes? (bytes - c.utf8Size) rest else none

/-- The first of the given lines, numbered from `i`, on which the block is closed. -/
def closingLine (progress : Progress) (i : Nat) : List String → Option Nat
  | [] => none
  | line :: rest =>
    match walk progress line.toList with
    | .closed => some i
    | progress => closingLine progress (i + 1) rest

/-- The line on which the block is closed that starts behind a number of bytes of the first line. If
that place is inside a character or behind the end of the line, nothing of the line counts. -/
def closingFrom (column i : Nat) : List String → Option Nat
  | [] => none
  | first :: rest =>
    match walk .start ((behindBytes? column first.toList).getD []) with
    | .closed => some i
    | progress => closingLine progress (i + 1) rest

end Block

/-- The block that starts on a line, counted from a byte of that line. The lines are read one by one
until the block is closed. -/
def Document.blockFrom (d : Document) (start column : Nat) : Except DocumentError Block :=
  let (lines, failure) := Document.readable (d.lines.drop start)
  match Block.closingFrom column start lines with
  | some closing => .ok ⟨start, closing⟩
  | none =>
    match failure with
    | some e => .error e
    | none => .ok ⟨start, max d.lastLine start⟩

end LineKin
