import LineKin.Analysis.Basic

/-!
# The context of a line

A `Context` says where a line stands: in which language, function and class, which variables are
declared or assigned near it, and what the document imports. It is built only if all lines that it
depends on can be read; otherwise the `ContextError` says on which way the failure was met.

An analysis of a selection is the related lines of its first line together with that line's context.
-/

namespace LineKin

/-- Where a line stands. -/
structure Context where
  /-- The language of the document. -/
  languageId : String
  /-- The function defined nearest above the line. -/
  functionName : Option String
  /-- The class declared nearest above the line. -/
  className : Option String
  /-- The variables declared or assigned near the line, in order of appearance. -/
  scope : List String
  /-- The import lines at the beginning of the document. -/
  imports : List String
  deriving DecidableEq

/-- What a line is read for when a context is built. -/
inductive ContextStep where
  /-- The line itself. -/
  | target
  /-- The way up to the definition of a function. -/
  | enclosingFunction
  /-- The way up to the declaration of a class. -/
  | enclosingClass
  /-- A line near the target. -/
  | nearby (line : Nat)
  /-- A line at the beginning of the document. -/
  | imports (line : Nat)
  deriving DecidableEq

/-- The words for a step that fails. -/
def ContextStep.message : ContextStep → String
  | target => "Failed to read target line"
  | enclosingFunction => "Failed to resolve enclosing function"
  | enclosingClass => "Failed to resolve enclosing class"
  | nearby line => s!"Failed to read line {line} near the target"
  | imports line => s!"Failed to read line {line} while collecting imports"

/-- Why a context cannot be built. -/
structure ContextError where
  /-- The step that failed. -/
  step : ContextStep
  /-- The reason. -/
  cause : DocumentError
  deriving DecidableEq

/-- The words for the error: the step, then the reason. -/
def ContextError.message (e : ContextError) : String := s!"{e.step.message}: {e.cause.message}"

namespace Context

/-- The variables that lines declare or assign, line by line, declared ones first. -/
def variablesOf (lines : List String) : List String :=
  lines.foldl (fun names line => Line.addNames (Line.addNames names (Line.declared line))
    (Line.assigned line)) []

/-- The import lines among some lines, without the blanks around them. -/
def importsOf (lines : List String) : List String :=
  (lines.filter Line.isImport).map Text.trimmed

/-- The context of a line. The lines near it begin at line zero at the earliest. The number of the last one
is a sum of 64 bits: with a radius so large that it goes round, they end above the line itself. -/
def build (d : Document) (target : Nat) (limits : AnalysisLimits) : Except ContextError Context := do
  let _ ← (d.line target).mapError (⟨.target, ·⟩)
  let function ← (Relation.enclosingFunction d target).mapError (⟨.enclosingFunction, ·⟩)
  let class_ ← (Relation.enclosingClass d target).mapError (⟨.enclosingClass, ·⟩)
  let first := target - limits.contextRadius
  let last := wrappingAdd target limits.contextRadius
  let nearby ← (d.range first (last + 1 - first)).mapError fun (line, cause) => ⟨.nearby line, cause⟩
  let beginning ← (d.range 0 limits.contextImportLines).mapError fun
    (line, cause) => ⟨.imports line, cause⟩
  .ok
    { languageId := d.languageId
      functionName := function.map (·.2)
      className := class_.map (·.2)
      scope := variablesOf nearby
      imports := importsOf beginning }

end Context

/-- The analysis of a selection. -/
structure Analysis where
  /-- What was selected. -/
  selection : Selection
  /-- The lines related to the first selected line. -/
  related : List Nat
  /-- The context of the first selected line. -/
  context : Context
  deriving DecidableEq

/-- Why a selection cannot be analysed. -/
structure AnalysisError where
  /-- The line that the analysis is about. -/
  line : Nat
  /-- The reason. -/
  reason : String
  deriving DecidableEq

/-- The words for the error. -/
def AnalysisError.message (e : AnalysisError) : String :=
  s!"Analysis failed at line {e.line}: {e.reason}"

/-- Analyses a selection. -/
def Analyzer.analyze (a : Analyzer) (d : Document) (selection : Selection) :
    Except AnalysisError Analysis :=
  match Context.build d selection.first a.limits with
  | .ok context => .ok ⟨selection, (a.relatedLines d selection.first).toList, context⟩
  | .error e => .error ⟨selection.first, e.message⟩

end LineKin
