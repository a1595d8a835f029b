import LineKin.Catalog
import LineKin.Line.Import
import LineKin.Relation.Basic

/-!
# Lines that import what a line uses

The imports in the first lines of a document are indexed by the names they bring in, one index for
each form of import; of several imports of a name in one form the first one counts. A target line
is related to the imports of the names it uses, and to every line that hands names on and contains
such a name as part of its text.
-/

namespace LineKin.Relation

open Line

/-- Where names are imported, by the form of the import. -/
structure ImportIndex where
  /-- Imports by name. -/
  named : Catalog Nat
  /-- Imports of a module's default export. -/
  byDefault : Catalog Nat
  /-- Imports of whole modules. -/
  wholeModule : Catalog Nat
  /-- Results of `require` and parts of them. -/
  required : Catalog Nat

namespace ImportIndex

/-- The index of no lines. -/
def empty : ImportIndex := ⟨∅, ∅, ∅, ∅⟩

/-- A form's index with the names that a line brings in. -/
def addNames (line : Nat) (index : Catalog Nat) (names : List String) : Catalog Nat :=
  names.foldl (fun index name => index.putNew name line) index

/-- The index with one more line. -/
def addLine (index : ImportIndex) (text : String) (line : Nat) : ImportIndex where
  named := addNames line index.named (namedImports text)
  byDefault := addNames line index.byDefault (defaultImports text)
  wholeModule := addNames line index.wholeModule (namespaceImports text)
  required := addNames line index.required (requiredNames text)

/-- The index of a list of lines, numbered from zero. -/
def ofLines (lines : List String) : ImportIndex :=
  lines.zipIdx.foldl (fun index entry => index.addLine entry.1 entry.2) empty

/-- The index of the first lines of a document. -/
def build (d : Document) (scanLines : Nat) : Except DocumentError ImportIndex :=
  (d.slice 0 scanLines).map ofLines

/-- The indexes in the order in which they are asked. -/
def forms (index : ImportIndex) : List (Catalog Nat) :=
  [index.named, index.byDefault, index.wholeModule, index.required]

/-- The lines that import a name, one for each form that has it. -/
def lookup (index : ImportIndex) (name : String) : List Nat :=
  index.forms.filterMap fun form => form.find? name

/-- The number of names, counted once for each form. -/
def size (index : ImportIndex) : Nat := index.forms.foldr (fun form names => form.size + names) 0

end ImportIndex

/-- The lines that import one of the names or hand it on. -/
def importLines (scanLines : Nat) (names : List String) (lines : List String) : LineSet :=
  let index := ImportIndex.ofLines (lines.take scanLines)
  LineSet.ofList (names.flatMap index.lookup) ∪
    linesWhere lines fun _ line => isReExport line && names.any fun name => holdsText name line

/-- The lines that import a name used in a text. A text that uses no name needs no lines read. -/
def importsOf (scanLines : Nat) (d : Document) (text : String) : Except Failure LineSet :=
  let names := importableNames text
  if names.isEmpty then .ok ∅ else (allLinesOf d).map (importLines scanLines names)

/-- Imports of the names that the target uses, looked for in the first lines of the document. -/
def imports (scanLines : Nat) : Heuristic :=
  ⟨"import", fun d target => do importsOf scanLines d (← lineOf d target)⟩

end LineKin.Relation
