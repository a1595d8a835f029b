import LineKin.Settings.Basic
import LineKin.Text.Utf8
import LineKin.File.Tree
import LineKin.Toml.Reader

/-!
# Settings in files and in the environment

Settings are kept in a TOML file with one table for the analyses and one for the open documents. What
the file leaves out has its default, and what it holds besides is passed over. Four environment
variables override single values; a value that is not a number is ignored.

The file lies in a folder of its own below the user's configuration folder.

The library that reads and writes TOML says in words of its own what is wrong with a text, or why settings
cannot be written. These words are left out: `Invalid TOML` and `Failed to serialize config` stand for the
reports that begin with them.
-/

namespace LineKin

/-- What goes wrong with settings. -/
inductive SettingsError where
  /-- The file cannot be read. -/
  | loadFailed (reason : String)
  /-- The file does not hold settings. -/
  | parseFailed (reason : String)
  /-- A value is not allowed. -/
  | invalidValue (key reason : String)
  /-- The file cannot be written. -/
  | saveFailed (reason : String)
  /-- There is no file. -/
  | fileNotFound (path : String)
  deriving DecidableEq

/-- The words for the error. -/
def SettingsError.message : SettingsError → String
  | loadFailed reason => s!"Failed to load configuration file: {reason}"
  | parseFailed reason => s!"Failed to parse configuration: {reason}"
  | invalidValue key reason => s!"Invalid configuration value for '{key}': {reason}"
  | saveFailed reason => s!"Failed to save configuration: {reason}"
  | fileNotFound path => s!"Configuration file not found: {path}"

/-- The environment variables of a run. -/
abbrev Environment := List (String × String)

/-- The value of a variable. -/
def Environment.get? (env : Environment) (name : String) : Option String :=
  (env.find? fun entry => entry.1 == name).map (·.2)

namespace Settings

/-! ### Validity -/

/-- The settings, unless a limit that must be positive is zero. -/
def validate (s : Settings) : Except SettingsError Settings :=
  match s.firstFault with
  | none => .ok s
  | some key => .error (.invalidValue key "must be greater than 0")

/-! ### Reading TOML -/

/-- The greatest number of 64 bits. -/
def greatestNumber : Nat := Nat.pow 2 64 - 1

/-- The values of a table by key, or those of an array in the order of the keys. A date counts as a
table without known keys. -/
def valuesOf (keys : List String) : Toml.Item → Option (List (Option Toml.Item))
  | .table _ entries => some (keys.map (Toml.Entries.get? entries))
  | .array items => some ((List.range keys.length).map fun i => items[i]?)
  | .tables last before =>
    let elements := (last :: before).reverse
    some ((List.range keys.length).map fun i => elements[i]?.map (.table .headed))
  | .scalar .moment => some (keys.map fun _ => none)
  | .scalar _ => none

/-- A limit that may be left out. -/
def limitOr (default : Nat) : Option Toml.Item → Option Nat
  | none => some default
  | some (.scalar (.integer n)) => if 0 ≤ n then some n.toNat else none
  | some _ => none

/-- The keys of the limits of the analyses. -/
def analysisKeys : List String :=
  ["context_radius", "context_import_lines", "import_scan_lines", "max_file_size"]

/-- The keys of the limits of the open documents. -/
def sessionKeys : List String := ["max_open_documents", "history_limit"]

/-- The limits of the analyses in a table. -/
def analysisOf (item : Toml.Item) : Option AnalysisLimits := do
  let standard : AnalysisLimits := {}
  match ← valuesOf analysisKeys item with
  | [radius, importLines, scanLines, fileSize] =>
    some
      { contextRadius := ← limitOr standard.contextRadius radius
        contextImportLines := ← limitOr standard.contextImportLines importLines
        importScanLines := ← limitOr standard.importScanLines scanLines
        maxFileSize := ← limitOr standard.maxFileSize fileSize }
  | _ => none

/-- The limits of the open documents in a table. -/
def sessionOf (item : Toml.Item) : Option SessionLimits := do
  let standard : SessionLimits := {}
  match ← valuesOf sessionKeys item with
  | [documents, history] =>
    some
      { maxOpenDocuments := ← limitOr standard.maxOpenDocuments documents
        historyLimit := ← limitOr standard.historyLimit history }
  | _ => none

/-- The settings in the table of a text. -/
def ofEntries (entries : Toml.Entries) : Option Settings := do
  let analysis ←
    match entries.get? "analysis" with
    | some item => analysisOf item
    | none => some {}
  let session ←
    match entries.get? "session" with
    | some item => sessionOf item
    | none => some {}
  some ⟨analysis, session⟩

/-- The settings in a TOML text, not validated. -/
def ofToml (text : String) : Option Settings := (Toml.parse? text).bind ofEntries

/-! ### Writing TOML -/

/-- A line with a key and its value. -/
def tomlLine (key : String) (value : Nat) : String := s!"{key} = {value}\n"

/-- The values of the limits of the analyses, in the order of their keys. -/
def analysisValues (limits : AnalysisLimits) : List Nat :=
  [limits.contextRadius, limits.contextImportLines, limits.importScanLines, limits.maxFileSize]

/-- The values of the limits of the open documents, in the order of their keys. -/
def sessionValues (limits : SessionLimits) : List Nat :=
  [limits.maxOpenDocuments, limits.historyLimit]

/-- The lines of a table. -/
def tomlTable (name : String) (keys : List String) (values : List Nat) : String :=
  s!"[{name}]\n" ++ String.join ((keys.zip values).map fun entry => tomlLine entry.1 entry.2)

/-- The settings as a TOML text, unless a value is too large for an integer of TOML. -/
def toToml? (s : Settings) : Option String :=
  if (analysisValues s.analysis ++ sessionValues s.session).all (· < Nat.pow 2 63) then
    some (tomlTable "analysis" analysisKeys (analysisValues s.analysis) ++ "\n" ++
      tomlTable "session" sessionKeys (sessionValues s.session))
  else none

/-! ### The environment -/

/-- A number of decimal digits, with or without a plus sign, that fits 64 bits. -/
def number? (text : String) : Option Nat :=
  let digits :=
    match text.toList with
    | '+' :: rest => rest
    | chars => chars
  if digits.isEmpty || !digits.all Char.isDigit then none
  else
    let n := digits.foldl (fun n c => 10 * n + (c.toNat - '0'.toNat)) 0
    if n ≤ greatestNumber then some n else none

/-- The number in a variable, or else another one. -/
def numberIn (env : Environment) (name : String) (otherwise : Nat) : Nat :=
  ((env.get? name).bind number?).getD otherwise

/-- The settings with the values that the environment overrides. -/
def withEnvironment (s : Settings) (env : Environment) : Settings where
  analysis :=
    { s.analysis with
      contextRadius := numberIn env "RELATED_LINES_CONTEXT_RADIUS" s.analysis.contextRadius
      importScanLines := numberIn env "RELATED_LINES_IMPORT_SCAN_LINES" s.analysis.importScanLines
      maxFileSize := numberIn env "RELATED_LINES_MAX_FILE_SIZE" s.analysis.maxFileSize }
  session :=
    { s.session with
      maxOpenDocuments := numberIn env "RELATED_LINES_MAX_DOCUMENTS" s.session.maxOpenDocuments }

/-! ### Files -/

/-- The folder that the settings of all programs lie in. -/
def configFolder (env : Environment) : String :=
  match env.get? "XDG_CONFIG_HOME" with
  | some folder => if folder.isEmpty then home else folder
  | none => home
where
  /-- The folder below the user's home. -/
  home : String :=
    match env.get? "HOME" with
    | some home => Path.join home ".config"
    | none => "."

/-- The folder that the settings lie in. -/
def projectFolder (env : Environment) : String := Path.join (configFolder env) "related-lines"

/-- The file that the settings lie in. -/
def filePath (env : Environment) : String := Path.join (projectFolder env) "config.toml"

/-- The text of a file. -/
def readText (files : FileTree) (path : String) : Except SettingsError String :=
  match files.read path with
  | .error e => .error (.loadFailed ("Failed to read config file: " ++ e.message))
  | .ok bytes =>
    match Text.Utf8.decode bytes with
    | .ok text => .ok text
    | .error _ =>
      .error (.loadFailed "Failed to read config file: stream did not contain valid UTF-8")

/-- The settings in a file. The report on a text that holds none ends where the words of the library that
reads TOML would begin. -/
def ofFile (files : FileTree) (path : String) : Except SettingsError Settings := do
  if !files.pathExists path then .error (.fileNotFound path)
  else
    match ofToml (← readText files path) with
    | some s => s.validate
    | none => .error (.parseFailed "Invalid TOML")

/-- The settings in the user's file, or the defaults if there is no such file. -/
def loadOrDefault (files : FileTree) (env : Environment) : Except SettingsError Settings :=
  if files.pathExists (filePath env) then ofFile files (filePath env) else .ok {}

/-- The settings that a program works with: those of the user's file, with the values that the
environment overrides. -/
def load (files : FileTree) (env : Environment) : Except SettingsError Settings := do
  ((← loadOrDefault files env).withEnvironment env).validate

/-- Writes the settings to a file. Folders on the way to it are made first, and stay if nothing can be
written. The report on settings that are no TOML ends where the words of the library would begin. -/
def trySave (s : Settings) (files : FileTree) (path : String) : FileTree.Attempt SettingsError :=
  let folders := files.tryParents path
  match folders.failure with
  | some e =>
    ⟨folders.tree, some (.saveFailed ("Failed to create config directory: " ++ e.message))⟩
  | none =>
    match s.toToml? with
    | none => ⟨folders.tree, some (.saveFailed "Failed to serialize config")⟩
    | some text =>
      match folders.tree.write path text.toUTF8 with
      | .error e => ⟨folders.tree, some (.saveFailed ("Failed to write config file: " ++ e.message))⟩
      | .ok files => { tree := files }

/-- The files with the settings written to one of them. -/
def save (s : Settings) (files : FileTree) (path : String) : Except SettingsError FileTree :=
  (s.trySave files path).result

end Settings

end LineKin
