import LineKin.Proofs.File.Operations
import LineKin.Proofs.Settings.Limits
import LineKin.Proofs.Toml.NumberTables

/-!
# The settings that a program works with

A settings file gives numbers for some limits and leaves out the others (`FileGives`), which then have their
defaults. For four limits there is an environment variable. It decides if it is set to a number, and counts
for nothing otherwise (`Limit.IsMerged`); what a number is, `IsNumber` says.

**`load_effective`**: the settings of the file are checked first and the merged ones after that. If both are
valid, a program works with the merged ones; otherwise it is told the first limit that is zero.
-/

namespace LineKin

open Json (AreDigits)

/-! ### Numbers in variables -/

/-- A text is a number that fits 64 bits: decimal digits, with or without a plus sign in front. -/
def IsNumber (text : String) (n : Nat) : Prop :=
  ∃ digits, AreDigits digits ∧ (text.toList = digits ∨ text.toList = '+' :: digits) ∧
    Nat.ofDigitChars 10 digits 0 = n ∧ n < 2 ^ 64

namespace Settings

/-- A text without a plus sign in front. -/
def unsigned : List Char → List Char
  | '+' :: rest => rest
  | chars => chars

theorem unsigned_eq_iff {chars digits : List Char} (hdigits : AreDigits digits) :
    unsigned chars = digits ↔ chars = digits ∨ chars = '+' :: digits := by
  have hplus (rest : List Char) : '+' :: rest ≠ digits := by
    rintro rfl
    exact absurd (hdigits.2 '+' List.mem_cons_self) (by decide)
  cases chars with
  | nil => simp [unsigned]
  | cons c rest =>
    by_cases hc : c = '+'
    · subst hc
      simp [unsigned, hplus rest]
    · have hself : unsigned (c :: rest) = c :: rest := by
        rw [unsigned]
        rintro rest' heq
        exact hc (List.cons.inj heq).1
      simp [hself, hc]

theorem number?_eq (text : String) : number? text =
    if (unsigned text.toList).isEmpty || !(unsigned text.toList).all Char.isDigit then none
    else if Nat.ofDigitChars 10 (unsigned text.toList) 0 ≤ greatestNumber then
      some (Nat.ofDigitChars 10 (unsigned text.toList) 0)
    else none :=
  rfl

theorem number?_eq_some_iff {text : String} {n : Nat} : number? text = some n ↔ IsNumber text n := by
  have hgreatest (m : Nat) : m ≤ greatestNumber ↔ m < 2 ^ 64 := by
    rw [greatestNumber]
    exact Nat.le_sub_one_iff_lt (by decide)
  rw [number?_eq]
  constructor
  · intro h
    split at h
    · cases h
    · rename_i hdigits
      split at h
      · rename_i hfits
        obtain rfl := Option.some.inj h
        have hdigits : AreDigits (unsigned text.toList) := by
          simpa [AreDigits, List.isEmpty_iff] using hdigits
        exact ⟨_, hdigits, (unsigned_eq_iff hdigits).1 rfl, rfl, (hgreatest _).1 hfits⟩
      · cases h
  · rintro ⟨digits, hdigits, htext, rfl, hfits⟩
    have htest : (digits.isEmpty || !digits.all Char.isDigit) = false := by
      simpa [AreDigits, List.isEmpty_iff] using hdigits
    rw [(unsigned_eq_iff hdigits).2 htext, htest, if_neg Bool.false_ne_true,
      if_pos ((hgreatest _).2 hfits)]

end Settings

/-! ### Variables and values -/

/-- The variable of a limit is set to a number. -/
def Limit.IsOverridden (env : Environment) (n : Nat) (l : Limit) : Prop :=
  ∃ name text, l.variableName? = some name ∧ env.get? name = some text ∧ IsNumber text n

/-- What becomes of the value that a limit has in the file: it is that of the limit's variable if this is
set to a number, and stays what it is otherwise. -/
def Limit.IsMerged (env : Environment) (fileValue merged : Nat) (l : Limit) : Prop :=
  l.IsOverridden env merged ∨ (∀ n, ¬ l.IsOverridden env n) ∧ merged = fileValue

namespace Settings

theorem numberIn_cases (env : Environment) (name : String) (otherwise : Nat) :
    (∃ text, env.get? name = some text ∧ IsNumber text (numberIn env name otherwise)) ∨
    (∀ text n, env.get? name = some text → ¬ IsNumber text n) ∧
      numberIn env name otherwise = otherwise := by
  rw [numberIn]
  cases hset : env.get? name with
  | none =>
    refine .inr ⟨fun text n h => ?_, rfl⟩
    cases h
  | some text =>
    cases hnumber : number? text with
    | none =>
      refine .inr ⟨?_, by simp [hnumber]⟩
      rintro _ n ⟨⟩ htext
      rw [← number?_eq_some_iff, hnumber] at htext
      cases htext
    | some n => exact .inl ⟨text, rfl, by simpa [hnumber] using number?_eq_some_iff.1 hnumber⟩

theorem value_withEnvironment (s : Settings) (env : Environment) (l : Limit) :
    l.value (s.withEnvironment env) =
      match l.variableName? with
      | some name => numberIn env name (l.value s)
      | none => l.value s := by
  cases l <;> rfl

/-- **The environment overrides limit by limit.** -/
theorem isMerged_withEnvironment (s : Settings) (env : Environment) (l : Limit) :
    l.IsMerged env (l.value s) (l.value (s.withEnvironment env)) := by
  rw [value_withEnvironment]
  cases hvariable : l.variableName? with
  | none =>
    refine .inr ⟨?_, rfl⟩
    rintro n ⟨name, text, hname, -⟩
    rw [hvariable] at hname
    cases hname
  | some name =>
    rcases numberIn_cases env name (l.value s) with ⟨text, hset, hnumber⟩ | ⟨hnone, hself⟩
    · exact .inl ⟨name, text, hvariable, hset, hnumber⟩
    · refine .inr ⟨?_, hself⟩
      rintro n ⟨name', text, hname, hset, hnumber⟩
      obtain rfl := Option.some.inj (hvariable.symm.trans hname)
      exact hnone text n hset hnumber

end Settings

/-! ### What a file gives -/

/-- What stands under the key of a limit. -/
def Limit.item? (entries : Toml.Entries) (l : Limit) : Option Toml.Item :=
  match entries.get? l.table with
  | some (.table _ inner) => Toml.Entries.get? inner l.key
  | _ => none

namespace Settings

variable {files : FileTree} {env : Environment} {path : String} {given : Limit → Option Nat}
  {entries : Toml.Entries} {file : Settings}

/-- A TOML text gives numbers for some limits: what has the name of a table of limits is a table, and each
limit is left out or a number there. -/
structure Gives (entries : Toml.Entries) (given : Limit → Option Nat) : Prop where
  /-- The tables of limits are tables. -/
  isTable : ∀ l item, entries.get? (Limit.table l) = some item → ∃ kind inner, item = .table kind inner
  /-- The limits are numbers. -/
  item_eq : ∀ l, Limit.item? entries l = (given l).map Toml.Item.ofNat

/-- A settings file gives numbers for some limits: there is no such file, or it is a TOML text that gives
them. -/
inductive FileGives (files : FileTree) (path : String) : (Limit → Option Nat) → Prop
  | absent (h : files.pathExists path = false) : FileGives files path fun _ => none
  | written {bytes : ByteArray} {text : String} {entries : Toml.Entries} {given : Limit → Option Nat}
      (hread : files.read path = .ok bytes) (htext : Text.Utf8.decode bytes = .ok text)
      (hentries : Toml.parse? text = some entries) (hgives : Gives entries given) :
      FileGives files path given

/-- The settings of a file: each limit is the number that the file gives, or else has its default. -/
def filled (given : Limit → Option Nat) : Settings := ofValues fun l => (given l).getD (l.value {})

theorem limitOr_map (otherwise : Nat) (n : Option Nat) :
    limitOr otherwise (n.map Toml.Item.ofNat) = some (n.getD otherwise) := by
  cases n with
  | none => rfl
  | some n => simp [limitOr, Toml.Item.ofNat]

/-- A limit in a table that is there. -/
theorem Gives.get?_eq {l : Limit} {kind : Toml.Kind} {inner : Toml.Entries} (h : Gives entries given)
    (htable : entries.get? l.table = some (.table kind inner)) :
    Toml.Entries.get? inner l.key = (given l).map Toml.Item.ofNat := by
  rw [← h.item_eq l, Limit.item?, htable]

/-- A limit in a table that is not there. -/
theorem Gives.eq_none {l : Limit} (h : Gives entries given) (htable : entries.get? l.table = none) :
    given l = none := by
  have hitem := h.item_eq l
  rw [Limit.item?, htable] at hitem
  exact Option.map_eq_none_iff.1 hitem.symm

theorem Gives.analysisOf_eq {kind : Toml.Kind} {inner : Toml.Entries} (h : Gives entries given)
    (htable : entries.get? "analysis" = some (.table kind inner)) :
    analysisOf (.table kind inner) = some (filled given).analysis := by
  have hradius := h.get?_eq (l := .contextRadius) htable
  have himportLines := h.get?_eq (l := .contextImportLines) htable
  have hscanLines := h.get?_eq (l := .importScanLines) htable
  have hfileSize := h.get?_eq (l := .maxFileSize) htable
  simp only [Limit.key] at hradius himportLines hscanLines hfileSize
  simp only [analysisOf, valuesOf, analysisKeys, List.map_cons, List.map_nil, hradius, himportLines,
    hscanLines, hfileSize, Option.bind_eq_bind, Option.bind_some, limitOr_map]
  rfl

theorem Gives.sessionOf_eq {kind : Toml.Kind} {inner : Toml.Entries} (h : Gives entries given)
    (htable : entries.get? "session" = some (.table kind inner)) :
    sessionOf (.table kind inner) = some (filled given).session := by
  have hdocuments := h.get?_eq (l := .maxOpenDocuments) htable
  have hhistory := h.get?_eq (l := .historyLimit) htable
  simp only [Limit.key] at hdocuments hhistory
  simp only [sessionOf, valuesOf, sessionKeys, List.map_cons, List.map_nil, hdocuments, hhistory,
    Option.bind_eq_bind, Option.bind_some, limitOr_map]
  rfl

/-- The two tables are read apart from each other. -/
theorem ofEntries_eq (entries : Toml.Entries) : ofEntries entries =
    ((entries.get? "analysis").elim (some {}) analysisOf).bind fun analysis =>
      ((entries.get? "session").elim (some {}) sessionOf).bind fun session =>
        some ⟨analysis, session⟩ := by
  rw [ofEntries]
  cases entries.get? "analysis" <;> cases entries.get? "session" <;> rfl

/-- **What a TOML text gives** is filled up with the defaults. -/
theorem Gives.ofEntries_eq_filled (h : Gives entries given) :
    ofEntries entries = some (filled given) := by
  have hanalysis : (entries.get? "analysis").elim (some {}) analysisOf = some (filled given).analysis := by
    cases htable : entries.get? "analysis" with
    | none =>
      simp only [filled, ofValues, h.eq_none (l := .contextRadius) htable,
        h.eq_none (l := .contextImportLines) htable, h.eq_none (l := .importScanLines) htable,
        h.eq_none (l := .maxFileSize) htable]
      rfl
    | some item =>
      obtain ⟨kind, inner, rfl⟩ := h.isTable .contextRadius item htable
      exact h.analysisOf_eq htable
  have hsession : (entries.get? "session").elim (some {}) sessionOf = some (filled given).session := by
    cases htable : entries.get? "session" with
    | none =>
      simp only [filled, ofValues, h.eq_none (l := .maxOpenDocuments) htable,
        h.eq_none (l := .historyLimit) htable]
      rfl
    | some item =>
      obtain ⟨kind, inner, rfl⟩ := h.isTable .maxOpenDocuments item htable
      exact h.sessionOf_eq htable
  rw [ofEntries_eq, hanalysis, hsession]
  rfl

/-! ### What a program works with -/

/-- What a file gives is checked at once. -/
theorem ofFile_of_gives {bytes : ByteArray} {text : String} (hread : files.read path = .ok bytes)
    (htext : Text.Utf8.decode bytes = .ok text) (hentries : Toml.parse? text = some entries)
    (hgives : Gives entries given) : ofFile files path = (filled given).validate := by
  have hsettings : readText files path = .ok text := by
    rw [readText, hread]
    simp only [htext]
  rw [ofFile, FileTree.pathExists_of_read hread, hsettings]
  simp [ofToml, hentries, hgives.ofEntries_eq_filled, ok_bind]

theorem FileGives.loadOrDefault_eq (h : FileGives files (filePath env) given) :
    loadOrDefault files env = (filled given).validate := by
  cases h with
  | absent hnone =>
    rw [loadOrDefault, hnone]
    rfl
  | written hread htext hentries hgives =>
    rw [loadOrDefault, if_pos (FileTree.pathExists_of_read hread),
      ofFile_of_gives hread htext hentries hgives]

/-- **The settings that a program works with.** Let the settings file give numbers for some limits, or let
there be none, and let the environment be any. Filled up with defaults, what the file gives are settings,
and merged with the environment these are settings too. If no limit that is checked is zero in either of
them, the program works with the merged ones, and with no others. Otherwise it is told the first limit
that is zero: in the file, and if there is none there, in the merged settings. -/
theorem load_effective (files : FileTree) (env : Environment) (given : Limit → Option Nat)
    (hfile : FileGives files (filePath env) given) :
    ∃ file merged : Settings,
      (∀ l : Limit, l.value file = (given l).getD (l.value {})) ∧
      (∀ l : Limit, l.IsMerged env (l.value file) (l.value merged)) ∧
      (∀ c, load files env = .ok c ↔ file.AllPositive ∧ merged.AllPositive ∧ c = merged) ∧
      (¬ file.AllPositive → ∃ l, file.IsFirstFault l ∧
        load files env = .error (.invalidValue l.name "must be greater than 0")) ∧
      (file.AllPositive → ¬ merged.AllPositive → ∃ l, merged.IsFirstFault l ∧
        load files env = .error (.invalidValue l.name "must be greater than 0")) := by
  let file := filled given
  have hsteps : load files env =
      file.validate >>= fun checked => (checked.withEnvironment env).validate := by
    rw [load, hfile.loadOrDefault_eq]
  have hchecked (hpositive : file.AllPositive) :
      load files env = (file.withEnvironment env).validate := by
    rw [hsteps, validate_eq_ok_iff.2 ⟨hpositive, rfl⟩, ok_bind]
  refine ⟨file, file.withEnvironment env, value_ofValues _, isMerged_withEnvironment file env, fun c => ?_,
    fun hfault => ?_, fun hpositive hfault => ?_⟩
  · constructor
    · intro h
      obtain ⟨checked, hvalid, -⟩ := eq_ok_of_bind (hsteps ▸ h)
      obtain ⟨hpositive, -⟩ := validate_eq_ok_iff.1 hvalid
      exact ⟨hpositive, validate_eq_ok_iff.1 (hchecked hpositive ▸ h)⟩
    · rintro ⟨hpositive, hmerged⟩
      rw [hchecked hpositive]
      exact validate_eq_ok_iff.2 hmerged
  · obtain ⟨l, hl⟩ := exists_isFirstFault hfault
    exact ⟨l, hl, by rw [hsteps, hl.validate_eq]; rfl⟩
  · obtain ⟨l, hl⟩ := exists_isFirstFault hfault
    exact ⟨l, hl, by rw [hchecked hpositive, hl.validate_eq]⟩

/-- A file with one limit, and variables of which one is set to a number, one to a number with a blank in
front and one to a number that is too large. -/
theorem load_effective_oneVariable :
    let text := "[analysis]\nimport_scan_lines = 7\n"
    let files : FileTree :=
      .folder [("cfg", .folder [("related-lines", .folder [("config.toml", .file text.toUTF8)])])]
    let env : Environment :=
      [("XDG_CONFIG_HOME", "cfg"), ("RELATED_LINES_CONTEXT_RADIUS", "+09"),
        ("RELATED_LINES_MAX_FILE_SIZE", " 5"), ("RELATED_LINES_MAX_DOCUMENTS", "18446744073709551616")]
    let given : Limit → Option Nat := fun l => if l = .importScanLines then some 7 else none
    FileGives files (filePath env) given ∧
    load files env = .ok ⟨⟨9, 50, 7, 1048576⟩, ⟨64, 20⟩⟩ ∧
    ∃ file merged : Settings,
      (∀ l : Limit, l.value file = (given l).getD (l.value {})) ∧
      (∀ l : Limit, l.IsMerged env (l.value file) (l.value merged)) ∧
      merged = ⟨⟨9, 50, 7, 1048576⟩, ⟨64, 20⟩⟩ := by
  intro text files env given
  have hgives : Gives [("analysis", .table .headed [("import_scan_lines", .ofNat 7)])] given := by
    refine ⟨fun l item hitem => ?_, fun l => ?_⟩
    · cases l <;> first | exact ⟨_, _, (Option.some.inj hitem).symm⟩ | cases hitem
    · cases l <;> rfl
  have hplain : Toml.NumberTable.IsPlain ⟨"analysis", [("import_scan_lines", 7)]⟩ :=
    ⟨by decide, by decide, by decide⟩
  have hentries : Toml.parse? text =
      some [("analysis", .table .headed [("import_scan_lines", .ofNat 7)])] :=
    Toml.parse?_numberTables [⟨"analysis", [("import_scan_lines", 7)]⟩] (by simpa using hplain)
      (by decide) (by decide)
  have hread : files.read (filePath env) = .ok text.toUTF8 := by
    have hpath : filePath env = "cfg/related-lines/config.toml" := by decide
    rw [hpath]
    rfl
  have hfile : FileGives files (filePath env) given :=
    .written hread (TextDocument.decode_toUTF8 text) hentries hgives
  have hload : load files env = .ok ⟨⟨9, 50, 7, 1048576⟩, ⟨64, 20⟩⟩ := by
    have hvalue : (load files env).toOption = some ⟨⟨9, 50, 7, 1048576⟩, ⟨64, 20⟩⟩ := by decide +kernel
    cases hresult : load files env with
    | error e =>
      rw [hresult] at hvalue
      cases hvalue
    | ok merged =>
      rw [hresult] at hvalue
      exact congrArg Except.ok (Option.some.inj hvalue)
  obtain ⟨file, merged, hfilled, hmerged, hok, -, -⟩ := load_effective files env given hfile
  exact ⟨hfile, hload, file, merged, hfilled, hmerged, ((hok _).1 hload).2.2.symm⟩

end Settings

end LineKin
