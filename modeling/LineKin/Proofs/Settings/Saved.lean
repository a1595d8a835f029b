import LineKin.Proofs.File.Folders
import LineKin.Proofs.Settings.Effective

/-!
# Saved settings

Settings are written as two tables of numbers, which are read as those settings (`ofFile_of_tables`), unless
a number is too large for TOML (`toToml?_eq_none_iff`). That is found out before anything is written.

**`save_then_load`**: settings that were saved are loaded again, whatever the file held before. Settings with
a number that is too large are not saved, and then no file is lost or changed.
-/

namespace LineKin.Settings

open Toml (NumberTable tablesText)

variable {s : Settings} {files made saved : FileTree} {path text : String}

/-! ### The text of settings -/

/-- All limits are integers of TOML. -/
def FitsToml (s : Settings) : Prop := ∀ l : Limit, l.value s ≤ 2 ^ 63 - 1

theorem not_fitsToml_iff : ¬ s.FitsToml ↔ ∃ l : Limit, 2 ^ 63 - 1 < l.value s := by
  simp only [FitsToml, not_forall, Nat.not_le]

/-- The tables that settings are written as. -/
def tables (s : Settings) : List NumberTable :=
  [⟨"analysis", analysisKeys.zip (analysisValues s.analysis)⟩,
    ⟨"session", sessionKeys.zip (sessionValues s.session)⟩]

theorem toList_tomlLine (line : String × Nat) : (tomlLine line.1 line.2).toList = Toml.lineText line := by
  have hnumber : (toString line.2).toList = Nat.toDigits 10 line.2 := by
    rw [Nat.toString_eq_ofList_toDigits, String.toList_ofList]
  simp only [tomlLine, Toml.lineText, String.toList_append, hnumber, List.append_assoc]
  rfl

theorem toList_tomlTable (name : String) (keys : List String) (values : List Nat) :
    (tomlTable name keys values).toList = NumberTable.text ⟨name, keys.zip values⟩ := by
  have hlines : ((keys.zip values).map fun line => tomlLine line.1 line.2).flatMap String.toList =
      (keys.zip values).flatMap Toml.lineText := by
    rw [List.flatMap_map]
    exact List.flatMap_congr fun line _ => toList_tomlLine line
  simp only [tomlTable, NumberTable.text, String.toList_append, String.toList_join, hlines,
    List.append_assoc]
  rfl

theorem fitsToml_iff : s.FitsToml ↔
    ∀ n ∈ analysisValues s.analysis ++ sessionValues s.session, n < Nat.pow 2 63 := by
  have hfits (n : Nat) : n ≤ 2 ^ 63 - 1 ↔ n < Nat.pow 2 63 := Nat.le_sub_one_iff_lt (Nat.two_pow_pos 63)
  simp only [FitsToml, hfits, analysisValues, sessionValues, List.cons_append, List.nil_append,
    List.forall_mem_cons]
  constructor
  · intro h
    exact ⟨h .contextRadius, h .contextImportLines, h .importScanLines, h .maxFileSize,
      h .maxOpenDocuments, h .historyLimit, List.forall_mem_nil _⟩
  · rintro ⟨hradius, himportLines, hscanLines, hfileSize, hdocuments, hhistory, -⟩ l
    cases l <;> assumption

/-- Settings are written as their tables. -/
theorem toToml?_of_fitsToml (h : s.FitsToml) :
    ∃ text, s.toToml? = some text ∧ text.toList = tablesText s.tables := by
  have hall : (analysisValues s.analysis ++ sessionValues s.session).all (· < Nat.pow 2 63) = true := by
    simpa only [List.all_eq_true, decide_eq_true_eq] using fitsToml_iff.1 h
  refine ⟨_, if_pos hall, ?_⟩
  simp only [String.toList_append, toList_tomlTable, tables, tablesText, List.map_cons, List.map_nil,
    List.intercalate_cons_cons, List.intercalate_singleton]
  rfl

/-- Settings with a number that is too large are not written. -/
theorem toToml?_eq_none_iff : s.toToml? = none ↔ ¬ s.FitsToml := by
  constructor
  · intro hnone h
    obtain ⟨text, hsome, -⟩ := toToml?_of_fitsToml h
    rw [hnone] at hsome
    cases hsome
  · intro h
    refine if_neg fun hall => h (fitsToml_iff.2 ?_)
    simpa only [List.all_eq_true, decide_eq_true_eq] using hall

/-! ### Reading the text -/

/-- A table of small numbers can be read if its keys can. -/
theorem isPlain_zip {name : String} {keys : List String} {values : List Nat}
    (hname : Toml.IsBareKey name) (hkeys : ∀ key ∈ keys, Toml.IsBareKey key) (hnodup : keys.Nodup)
    (hlength : keys.length ≤ values.length) (hvalues : ∀ n ∈ values, n < Nat.pow 2 63) :
    NumberTable.IsPlain ⟨name, keys.zip values⟩ := by
  refine ⟨hname, fun line hline => ?_, ?_⟩
  · obtain ⟨hkey, hvalue⟩ := List.of_mem_zip (show (line.1, line.2) ∈ keys.zip values from hline)
    exact ⟨hkeys _ hkey, hvalues _ hvalue⟩
  · rwa [List.map_fst_zip hlength]

theorem isPlain_of_mem_tables (h : s.FitsToml) : ∀ t ∈ s.tables, t.IsPlain := by
  obtain ⟨hanalysis, hsession⟩ := List.forall_mem_append.1 (fitsToml_iff.1 h)
  simp only [tables, List.forall_mem_cons]
  refine ⟨isPlain_zip ?_ ?_ ?_ ?_ hanalysis, isPlain_zip ?_ ?_ ?_ ?_ hsession, List.forall_mem_nil _⟩
  all_goals first | decide | exact Nat.le_refl _

/-- What the tables give are all the limits. -/
theorem gives_tables (s : Settings) :
    Gives (s.tables.map NumberTable.entry) fun l => some (l.value s) := by
  refine ⟨fun l item hitem => ?_, fun l => ?_⟩
  · cases l <;> exact ⟨_, _, (Option.some.inj hitem).symm⟩
  · cases l <;> rfl

/-- **Settings that are written to a file can be read from it**, if no limit is zero that is checked. -/
theorem ofFile_of_tables (h : s.FitsToml) (hpositive : s.AllPositive)
    (htext : text.toList = tablesText s.tables) (hread : files.read path = .ok text.toUTF8) :
    ofFile files path = .ok s := by
  have hnodup : (s.tables.map NumberTable.name).Nodup := by
    simp [tables]
  have hentries := Toml.parse?_numberTables s.tables (isPlain_of_mem_tables h) hnodup htext
  rw [ofFile_of_gives hread (TextDocument.decode_toUTF8 text) hentries (gives_tables s)]
  exact validate_eq_ok_iff.2 ⟨hpositive, rfl⟩

/-! ### Saving -/

theorem save_eq_ok (hmade : files.makeParents path = .ok made) (htext : s.toToml? = some text)
    (hwrite : made.write path text.toUTF8 = .ok saved) : s.save files path = .ok saved := by
  obtain ⟨hnone, rfl⟩ := FileTree.Attempt.result_eq_ok_iff.1 hmade
  simp only [save, trySave, hnone, htext, hwrite]
  rfl

/-- Settings that cannot be written leave only folders behind. -/
theorem trySave_of_not_fitsToml (h : ¬ s.FitsToml) (files : FileTree) (path : String) :
    (s.trySave files path).tree = (files.tryParents path).tree ∧
      ∃ reason, (s.trySave files path).failure = some (.saveFailed reason) := by
  rw [trySave, toToml?_eq_none_iff.2 h]
  cases (files.tryParents path).failure with
  | none => exact ⟨rfl, _, rfl⟩
  | some e => exact ⟨rfl, _, rfl⟩

/-- **Settings that were saved are loaded again.** This holds for all settings whose limits are integers of
TOML and not zero where they are checked, and for each path at which there is a file, whatever it holds, or
at which there can be one once the folders on the way were created. Settings with a limit that is too large
are not saved, and each file that could be read before holds the same bytes afterwards. -/
theorem save_then_load (s : Settings) (files : FileTree) (path : String) (hfiles : files.IsSound) :
    ((∀ l : Limit, l.value s ≤ 2 ^ 63 - 1) → s.AllPositive →
      ((∃ previous, files.read path = .ok previous) ∨
        ∃ made, files.makeParents path = .ok made ∧ made.TakesFile path) →
      ∃ saved, s.save files path = .ok saved ∧ ofFile saved path = .ok s) ∧
    ((∃ l : Limit, 2 ^ 63 - 1 < l.value s) →
      (∃ reason, s.save files path = .error (.saveFailed reason)) ∧
      ∀ other content, files.read other = .ok content →
        (s.trySave files path).tree.read other = .ok content) := by
  constructor
  · intro hfits hpositive hpath
    obtain ⟨made, hmade, hsound, htakes⟩ :
        ∃ made, files.makeParents path = .ok made ∧ made.IsSound ∧ made.TakesFile path := by
      rcases hpath with ⟨previous, hread⟩ | ⟨made, hmade, htakes⟩
      · have htakes := FileTree.takesFile_of_read hfiles hread
        have ⟨_, _, htarget, _⟩ := htakes
        exact ⟨files, FileTree.makeParents_of_target hfiles htarget, hfiles, htakes⟩
      · exact ⟨made, hmade, (FileTree.keeps_makeParents hfiles hmade).isSound, htakes⟩
    obtain ⟨text, hsome, htext⟩ := toToml?_of_fitsToml hfits
    obtain ⟨saved, hwrite⟩ := htakes.exists_write text.toUTF8
    exact ⟨saved, save_eq_ok hmade hsome hwrite,
      ofFile_of_tables hfits hpositive htext (FileTree.read_write hsound hwrite)⟩
  · intro hlarge
    obtain ⟨htree, reason, hfailure⟩ := trySave_of_not_fitsToml (not_fitsToml_iff.2 hlarge) files path
    refine ⟨⟨reason, by rw [save, FileTree.Attempt.result, hfailure]⟩, fun other content hread => ?_⟩
    rw [htree]
    exact (FileTree.keeps_tryParents hfiles path).read_eq hfiles hread

/-- The greatest number that TOML has is saved and loaded again, and the next one is not saved. -/
theorem save_then_load_greatestNumber :
    let files : FileTree := .folder [("c.toml", .file "[analysis]\n".toUTF8)]
    let greatest : Settings := { analysis := { contextRadius := 0, maxFileSize := 9223372036854775807 } }
    let tooLarge : Settings := { analysis := { maxFileSize := 9223372036854775808 } }
    (files.IsSound ∧ (∀ l : Limit, l.value greatest ≤ 2 ^ 63 - 1) ∧ greatest.AllPositive ∧
      (∃ previous, files.read "c.toml" = .ok previous) ∧ ∃ l : Limit, 2 ^ 63 - 1 < l.value tooLarge) ∧
    (∃ saved, greatest.save files "c.toml" = .ok saved ∧ ofFile saved "c.toml" = .ok greatest) ∧
    (∃ reason, tooLarge.save files "c.toml" = .error (.saveFailed reason)) ∧
    (tooLarge.trySave files "c.toml").tree.read "c.toml" = .ok "[analysis]\n".toUTF8 := by
  intro files greatest tooLarge
  have hwritten : FileTree.empty.write "c.toml" "[analysis]\n".toUTF8 = .ok files := rfl
  have hfiles : files.IsSound := FileTree.isSound_empty.write hwritten
  have hread : files.read "c.toml" = .ok "[analysis]\n".toUTF8 :=
    FileTree.read_write FileTree.isSound_empty hwritten
  have hfits : ∀ l : Limit, l.value greatest ≤ 2 ^ 63 - 1 := by
    intro l
    cases l <;> decide
  have hpositive : greatest.AllPositive := by simp [AllPositive, Limit.checked, Limit.value, greatest]
  have hlarge : ∃ l : Limit, 2 ^ 63 - 1 < l.value tooLarge := ⟨.maxFileSize, by decide⟩
  obtain ⟨hsaved, -⟩ := save_then_load greatest files "c.toml" hfiles
  obtain ⟨-, hrefused⟩ := save_then_load tooLarge files "c.toml" hfiles
  obtain ⟨hfailed, hkept⟩ := hrefused hlarge
  exact ⟨⟨hfiles, hfits, hpositive, ⟨_, hread⟩, hlarge⟩, hsaved hfits hpositive (.inl ⟨_, hread⟩), hfailed,
    hkept _ _ hread⟩

end LineKin.Settings
