import LineKin.Settings.File

/-!
# The limits one by one

The six values of the settings are spoken of by name: a `Limit` says in which table of a file a value
stands and under which key, which environment variable overrides it, and where it is kept. Settings are
nothing but their limits (`Settings.ofValues_value`).

Settings are valid if no limit that is checked is zero, and otherwise the first one that is zero is
reported: `validate_eq_ok_iff` and `IsFirstFault.validate_eq`.
-/

namespace LineKin

/-- A limit. -/
inductive Limit where
  /-- How many lines around a line are searched for variables. -/
  | contextRadius
  /-- How many lines at the beginning are searched for the imports that are shown. -/
  | contextImportLines
  /-- How many lines at the beginning are searched for the imports of used names. -/
  | importScanLines
  /-- The largest number of bytes that a file may have. -/
  | maxFileSize
  /-- How many documents may be open. -/
  | maxOpenDocuments
  /-- How many results are remembered for a document. -/
  | historyLimit
  deriving DecidableEq

namespace Limit

/-- The table of a settings file that holds the limit. -/
def table : Limit → String
  | contextRadius | contextImportLines | importScanLines | maxFileSize => "analysis"
  | maxOpenDocuments | historyLimit => "session"

/-- The key of the limit in its table. -/
def key : Limit → String
  | contextRadius => "context_radius"
  | contextImportLines => "context_import_lines"
  | importScanLines => "import_scan_lines"
  | maxFileSize => "max_file_size"
  | maxOpenDocuments => "max_open_documents"
  | historyLimit => "history_limit"

/-- The name of the limit in reports. -/
def name (l : Limit) : String := l.table ++ "." ++ l.key

/-- The environment variable that overrides the limit. -/
def variableName? : Limit → Option String
  | contextRadius => some "RELATED_LINES_CONTEXT_RADIUS"
  | importScanLines => some "RELATED_LINES_IMPORT_SCAN_LINES"
  | maxFileSize => some "RELATED_LINES_MAX_FILE_SIZE"
  | maxOpenDocuments => some "RELATED_LINES_MAX_DOCUMENTS"
  | contextImportLines | historyLimit => none

/-- The limit in some settings. -/
def value (s : Settings) : Limit → Nat
  | contextRadius => s.analysis.contextRadius
  | contextImportLines => s.analysis.contextImportLines
  | importScanLines => s.analysis.importScanLines
  | maxFileSize => s.analysis.maxFileSize
  | maxOpenDocuments => s.session.maxOpenDocuments
  | historyLimit => s.session.historyLimit

/-- The limits that must not be zero, in the order in which they are checked. -/
def checked : List Limit :=
  [contextImportLines, importScanLines, maxFileSize, maxOpenDocuments, historyLimit]

end Limit

namespace Settings

variable {s t : Settings} {l : Limit}

/-- The settings with given limits. -/
def ofValues (value : Limit → Nat) : Settings where
  analysis := ⟨value .contextRadius, value .contextImportLines, value .importScanLines, value .maxFileSize⟩
  session := ⟨value .maxOpenDocuments, value .historyLimit⟩

@[simp] theorem value_ofValues (value : Limit → Nat) (l : Limit) : l.value (ofValues value) = value l := by
  cases l <;> rfl

/-- Settings are nothing but their limits. -/
theorem ofValues_value (s : Settings) : (ofValues fun l => l.value s) = s := rfl

/-! ### Validity -/

/-- No limit that is checked is zero. -/
def AllPositive (s : Settings) : Prop := ∀ l ∈ Limit.checked, l.value s ≠ 0

/-- A limit is zero, and those that are checked before it are not. -/
def IsFirstFault (s : Settings) (l : Limit) : Prop :=
  ∃ before after, Limit.checked = before ++ l :: after ∧ l.value s = 0 ∧ ∀ l' ∈ before, l'.value s ≠ 0

theorem positiveLimits_eq (s : Settings) :
    s.positiveLimits = Limit.checked.map fun l => (l.name, l.value s) := by
  rfl

/-- What is reported is the name of the first limit that is zero. -/
theorem firstFault_eq (s : Settings) :
    s.firstFault = (Limit.checked.find? fun l => l.value s == 0).map Limit.name := by
  rw [firstFault, positiveLimits_eq, List.find?_map, Option.map_map]
  rfl

theorem firstFault_eq_none_iff : s.firstFault = none ↔ s.AllPositive := by
  rw [firstFault_eq, Option.map_eq_none_iff, List.find?_eq_none]
  simp only [beq_iff_eq, AllPositive, ne_eq]

theorem validate_eq_ok_iff : s.validate = .ok t ↔ s.AllPositive ∧ t = s := by
  rw [← firstFault_eq_none_iff, validate]
  cases s.firstFault with
  | none => exact ⟨fun h => ⟨rfl, (Except.ok.inj h).symm⟩, fun h => congrArg Except.ok h.2.symm⟩
  | some key => simp

theorem IsFirstFault.validate_eq (h : s.IsFirstFault l) :
    s.validate = .error (.invalidValue l.name "must be greater than 0") := by
  obtain ⟨before, after, hchecked, hzero, hbefore⟩ := h
  have hfind : (Limit.checked.find? fun l => l.value s == 0) = some l := by
    rw [List.find?_eq_some_iff_append]
    exact ⟨by simpa using hzero, before, after, hchecked, fun l' hl' => by simpa using hbefore l' hl'⟩
  rw [validate, firstFault_eq, hfind]
  rfl

/-- Settings that are not valid have a first fault. -/
theorem exists_isFirstFault (h : ¬ s.AllPositive) : ∃ l, s.IsFirstFault l := by
  cases hfind : Limit.checked.find? fun l => l.value s == 0 with
  | none =>
    rw [List.find?_eq_none] at hfind
    exact absurd (fun l hl => by simpa using hfind l hl) h
  | some l =>
    obtain ⟨hzero, before, after, hchecked, hbefore⟩ := List.find?_eq_some_iff_append.1 hfind
    exact ⟨l, before, after, hchecked, by simpa using hzero, fun l' hl' => by simpa using hbefore l' hl'⟩

end Settings

end LineKin
