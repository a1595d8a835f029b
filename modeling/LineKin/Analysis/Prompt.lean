import LineKin.Analysis.Context

/-!
# The prompt of an analysis

The prompt shows an analysis as text: where the selection stands, the selected lines, and the
related lines with their numbers. Line numbers in the text count from one; the greatest number of 64 bits,
on which a selection may end, is shown as zero. Every part ends with a line feed, and a heading that has
nothing to show is left out.
-/

namespace LineKin.Prompt

/-- A line of the prompt. -/
def entry (text : String) : String := text ++ "\n"

/-- A number at the right end of a field of five characters. -/
def numberField (n : Nat) : String :=
  let digits := toString n
  String.ofList (List.replicate (5 - digits.length) ' ') ++ digits

/-- A line of a document with its number, counted from one. No document has so many lines that the number
would go round. -/
def numbered (i : Nat) (text : String) : String := s!"{numberField (i + 1)}: {text}"

/-- Lines of a document with their numbers. -/
def numberedLines (d : Document) (numbers : List Nat) : Except DocumentError (List String) :=
  (d.linesAt numbers).map (List.zipWith numbered numbers)

/-- A labelled value, or nothing. -/
def labelled (label : String) : Option String → String
  | some value => entry s!"{label}: {value}"
  | none => ""

/-- The part that shows the context. -/
def heading (c : Context) : String :=
  labelled "Language" (some c.languageId) ++
  labelled "Function" c.functionName ++
  labelled "Class" c.className ++
  (if c.scope.isEmpty then ""
   else entry ("Variables in scope: " ++ ", ".intercalate c.scope)) ++
  (if c.imports.isEmpty then ""
   else entry "Imports:" ++ String.join (c.imports.map fun line => entry s!"  {line}"))

/-- The lines of a selection that are shown: those up to its last line or the end. -/
def shownLines (d : Document) (s : Selection) : List Nat :=
  (List.range (min (max s.last s.first) d.lastLine + 1)).drop s.first

/-- The prompt of an analysis. It fails if a line that it shows cannot be read. -/
def build (d : Document) (a : Analysis) : Except DocumentError String := do
  let selected ← d.linesAt (shownLines d a.selection)
  let related ← numberedLines d a.related
  let first := a.selection.first
  let last := max a.selection.last first
  .ok (heading a.context ++
    entry s!"\nSelected code (lines {wrappingAdd first 1}-{wrappingAdd last 1}):" ++
    String.join (selected.map entry) ++
    entry "\nRelated lines:" ++
    String.join (related.map entry))

end LineKin.Prompt
