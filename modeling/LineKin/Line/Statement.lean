import LineKin.Pattern

/-!
# What a line does to the flow of control

The kind of a statement is judged by its leading keyword, once blanks and closing braces in front
of it are passed. At most one kind of `Kind.all` has a keyword that opens a given text, so the order
in which they are tried does not matter.
-/

namespace LineKin.Statement

open Pattern

/-- What a statement does to the flow of control. -/
inductive Kind where
  /-- A loop header: `for`, `while` or `do`. -/
  | loop
  /-- The header of a conditional: `if`. -/
  | conditional
  /-- The other branch of a conditional: `else`. -/
  | alternative
  /-- The header of a guarded block: `try`. -/
  | attempt
  /-- A clause of a guarded block: `catch` or `finally`. -/
  | handler
  /-- The header of a selection: `switch`. -/
  | selection
  /-- A label of a selection: `case` or `default:`. -/
  | label
  /-- A jump inside a loop: `break` or `continue`. -/
  | jump
  /-- The end of a function's run: `return`. -/
  | result
  deriving DecidableEq, Repr

/-- All kinds. -/
def Kind.all : List Kind :=
  [.loop, .conditional, .alternative, .attempt, .handler, .selection, .label, .jump, .result]

/-- What the text of a statement of the kind starts with. -/
def Kind.opening : Kind → Pattern
  | .loop => anyOf ["for", "while", "do"] ++ wordEdge
  | .conditional => text "if" ++ wordEdge
  | .alternative => text "else" ++ wordEdge
  | .attempt => text "try" ++ wordEdge
  | .handler => anyOf ["catch", "finally"] ++ wordEdge
  | .selection => text "switch" ++ wordEdge
  | .label => (text "case" ++ wordEdge) ||| (text "default" ++ blanks ++ Pattern.char ':')
  | .jump => anyOf ["break", "continue"] ++ wordEdge
  | .result => text "return" ++ wordEdge

/-- Whether a character may stand in front of a statement on its line. -/
def isMargin (c : Char) : Bool := Text.isBlank c || c == '}'

/-- The text of a line from the first character that is neither a blank nor a closing brace. -/
def textOf (line : String) : List Char := line.toList.dropWhile isMargin

/-- The number of bytes in front of `textOf line`. -/
def column (line : String) : Nat :=
  (line.toList.takeWhile isMargin).foldr (fun c bytes => c.utf8Size + bytes) 0

/-- The kind of the statement on a line. -/
def kindOf (line : String) : Option Kind :=
  Kind.all.find? fun kind => kind.opening.opens (textOf line)

/-- The marks that a comment line starts with. -/
def commentMarks : List String := ["//", "/*", "*", "#"]

/-- Whether a line is blank or starts with a comment mark. -/
def isBlankOrComment (line : String) : Bool :=
  let text := Text.trim line.toList
  text.isEmpty || commentMarks.any fun mark => mark.toList.isPrefixOf text

end LineKin.Statement
