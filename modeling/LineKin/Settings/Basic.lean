/-!
# Settings

The limits that the analyses and the open documents keep to, with their defaults. All but the
context radius have to be positive: `Settings.firstFault` names the first one that is not.
-/

namespace LineKin

/-- The limits of the analyses. -/
structure AnalysisLimits where
  /-- How many lines around a line are searched for variables. -/
  contextRadius : Nat := 5
  /-- How many lines at the beginning are searched for the imports that are shown. -/
  contextImportLines : Nat := 50
  /-- How many lines at the beginning are searched for the imports of used names. -/
  importScanLines : Nat := 100
  /-- The largest number of bytes that a file may have. -/
  maxFileSize : Nat := 1048576
  deriving DecidableEq

/-- The limits of the open documents. -/
structure SessionLimits where
  /-- How many documents may be open. -/
  maxOpenDocuments : Nat := 64
  /-- How many results are remembered for a document. -/
  historyLimit : Nat := 20
  deriving DecidableEq

/-- All limits. -/
structure Settings where
  /-- The limits of the analyses. -/
  analysis : AnalysisLimits := {}
  /-- The limits of the open documents. -/
  session : SessionLimits := {}
  deriving DecidableEq

namespace Settings

/-- The limits that have to be positive, with their names, in the order in which they are checked. -/
def positiveLimits (s : Settings) : List (String × Nat) :=
  [("analysis.context_import_lines", s.analysis.contextImportLines),
   ("analysis.import_scan_lines", s.analysis.importScanLines),
   ("analysis.max_file_size", s.analysis.maxFileSize),
   ("session.max_open_documents", s.session.maxOpenDocuments),
   ("session.history_limit", s.session.historyLimit)]

/-- The name of the first limit that is zero and must not be. -/
def firstFault (s : Settings) : Option String :=
  (s.positiveLimits.find? fun limit => limit.2 == 0).map (·.1)

end Settings

end LineKin
