import LineKin.Text.Blank

/-!
# Documents

A `Document` is what the analyses look at: a language and a list of lines, each of which can be
read or fails with a reason. A `TextDocument` has all its lines at hand; every `TextDocument` is a
`Document` (`TextDocument.view`).

A text is cut into lines at line feeds, and a carriage return at the end of a line belongs to the
line break (`TextDocument.ofText`). Line numbers count from zero. They are numbers of 64 bits, so a sum
goes round at `2 ^ 64` (`wrappingAdd`); this can be seen only where a number need not belong to a line.
-/

namespace LineKin

/-! ### Numbers -/

/-- The sum of two numbers of 64 bits, which goes round at `2 ^ 64`. -/
def wrappingAdd (m n : Nat) : Nat := (m + n) % UInt64.size

theorem wrappingAdd_eq {m n : Nat} (h : m + n < UInt64.size) : wrappingAdd m n = m + n :=
  Nat.mod_eq_of_lt h

/-! ### Documents -/

/-- Why a document or one of its lines cannot be had. -/
inductive DocumentError where
  /-- There is no such line. -/
  | lineOutOfRange (line lineCount : Nat)
  /-- A file could not be read. -/
  | readFailed (file reason : String)
  /-- A file does not hold text. -/
  | binaryFile (file : String)
  /-- A file is larger than allowed. -/
  | fileTooLarge (size limit : Nat)
  deriving DecidableEq

/-- The words for the error. -/
def DocumentError.message : DocumentError → String
  | lineOutOfRange line lineCount =>
    s!"Line {line} is out of range (document has {lineCount} lines)"
  | readFailed file reason => s!"Failed to read file '{file}': {reason}"
  | binaryFile file => s!"File is binary and cannot be analyzed: {file}"
  | fileTooLarge size limit => s!"File size exceeds maximum: {size} > {limit}"

/-- A selection of lines. The first one is the line that an analysis is about. -/
structure Selection where
  /-- The first selected line. -/
  first : Nat
  /-- The last selected line; it may lie before the first one or behind the end. -/
  last : Nat
  deriving DecidableEq

/-- The selection of a single line. -/
def Selection.line (line : Nat) : Selection := ⟨line, line⟩

/-- Lines that can be looked at one by one. -/
structure Document where
  /-- The language the lines are written in. -/
  languageId : String
  /-- The lines, or why they cannot be read. -/
  lines : List (Except DocumentError String)

namespace Document

/-- The number of lines. -/
def lineCount (d : Document) : Nat := d.lines.length

/-- The number of the last line, zero if there is none. -/
def lastLine (d : Document) : Nat := d.lineCount - 1

/-- One line. -/
def line (d : Document) (i : Nat) : Except DocumentError String :=
  match d.lines[i]? with
  | some line => line
  | none => .error (.lineOutOfRange i d.lineCount)

/-- The lines with the given numbers, one after the other. -/
def linesAt (d : Document) (numbers : List Nat) : Except DocumentError (List String) :=
  let lines := d.lines.toArray
  numbers.mapM fun i =>
    match lines[i]? with
    | some line => line
    | none => .error (.lineOutOfRange i lines.size)

theorem linesAt_eq_mapM (d : Document) (numbers : List Nat) :
    d.linesAt numbers = numbers.mapM d.line := by
  simp only [linesAt, List.getElem?_toArray, List.size_toArray]
  rfl

/-- The lines of a list up to the first one that cannot be read, and the reason of that one. -/
def readable (lines : List (Except DocumentError String)) : List String × Option DocumentError :=
  ((lines.takeWhile Except.isOk).filterMap Except.toOption,
    match lines.dropWhile Except.isOk with
    | .error e :: _ => some e
    | _ => none)

@[simp] theorem readable_nil : readable [] = ([], none) := rfl

@[simp] theorem readable_ok_cons (line : String) (rest : List (Except DocumentError String)) :
    readable (.ok line :: rest) = (line :: (readable rest).1, (readable rest).2) := rfl

@[simp] theorem readable_error_cons (e : DocumentError) (rest : List (Except DocumentError String)) :
    readable (.error e :: rest) = ([], some e) := rfl

/-- The `count` lines from a line on, as far as there are that many. A failure comes with the number
of the line that cannot be read. -/
def range (d : Document) (start count : Nat) : Except (Nat × DocumentError) (List String) :=
  match readable ((d.lines.drop start).take count) with
  | (lines, none) => .ok lines
  | (lines, some e) => .error (start + lines.length, e)

/-- The `count` lines from a line on, as far as there are that many. -/
def slice (d : Document) (start count : Nat) : Except DocumentError (List String) :=
  (d.range start count).mapError (·.2)

/-- All lines. -/
def allLines (d : Document) : Except DocumentError (List String) := d.slice 0 d.lineCount

/-- The first line of a list of numbered lines that a reading finds something on, and what it finds
there. The lines passed on the way are read, and the first failure ends the search. -/
def firstFound {α : Type} (reading : String → Option α) :
    List (Except DocumentError String × Nat) → Except DocumentError (Option (Nat × α))
  | [] => .ok none
  | (.error e, _) :: _ => .error e
  | (.ok line, i) :: rest =>
    match reading line with
    | some found => .ok (some (i, found))
    | none => firstFound reading rest

/-- The nearest line at or above a line that a reading finds something on. A line behind the end
counts as the last one. -/
def nearest {α : Type} (d : Document) (reading : String → Option α) (line : Nat) :
    Except DocumentError (Option (Nat × α)) :=
  firstFound reading (d.lines.take (line + 1)).zipIdx.reverse

end Document

/-- Lines that are all at hand. -/
structure TextDocument where
  /-- The language the lines are written in. -/
  languageId : String
  /-- The lines, without their line breaks. -/
  lines : List String
  deriving DecidableEq

namespace TextDocument

/-- The document as the analyses see it. -/
def view (d : TextDocument) : Document := ⟨d.languageId, d.lines.map .ok⟩

instance : Coe TextDocument Document := ⟨view⟩

/-- The number of lines. -/
def lineCount (d : TextDocument) : Nat := d.lines.length

/-- A line without the carriage return at its end. -/
def withoutReturn (line : List Char) : List Char :=
  if line.getLast? = some '\r' then line.dropLast else line

/-- The lines of a text. -/
def linesOf (text : String) : List String :=
  (text.toList.splitOn '\n').map fun line => String.ofList (withoutReturn line)

/-- The document of a text. -/
def ofText (text languageId : String) : TextDocument := ⟨languageId, linesOf text⟩

/-- The lines joined by line feeds. -/
def text (d : TextDocument) : String := "\n".intercalate d.lines

end TextDocument

end LineKin
