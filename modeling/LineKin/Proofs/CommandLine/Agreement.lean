import LineKin.CommandLine.Run
import LineKin.Proofs.Tool.Call
import LineKin.Proofs.Workspace.Reopening

/-!
# Three ways to ask about a file

The lines related to a line of a file can be asked for on the command line, with a tool, and in messages.
The command line looks at the document of the file. The tool opens the file, which joins the lines of
that document and cuts them again. A message brings the text itself, in any language. As long as the text
has plain line breaks, all three look at the same lines, and the standard heuristics look at nothing
else (`relatedLines_ofText`).

The command line counts lines from one, the others from zero. Since all related lines belong to the
document, each one is shown with its text, and the tool leaves none out (`withText_within`). So the three
ways give the same lines: **`three_ways_agree`**. Only a file with a blank name is analysed by the command
line and refused by the tool (`blank_name_is_refused`).
-/

namespace LineKin

open TextDocument (HoldsText HasPlainBreaks linesOf ofText)

variable {text languageId file : String} {files : FileTree} {line n : Nat} {config : Settings}

/-! ### The same lines -/

/-- The standard heuristics do not look at the language. -/
theorem Analyzer.relatedLines_ofText (limits : AnalysisLimits) (text languageId languageId' : String)
    (line : Nat) :
    (standard limits).relatedLines (ofText text languageId) line =
      (standard limits).relatedLines (ofText text languageId') line :=
  rfl

/-- Lines of a document with their numbers. -/
theorem Prompt.numberedLines_within {d : TextDocument} {numbers : List Nat}
    (h : ∀ i ∈ numbers, i < d.lineCount) :
    numberedLines d numbers = .ok (numbers.map fun i => numbered i (d.lines.getD i "")) := by
  rw [numberedLines, TextDocument.linesAt_within h]
  show Except.ok _ = _
  rw [List.zipWith_map_right, List.zipWith_self]

namespace Tool.Server

/-- A line of a document with its text, as a tool shows it. -/
def lineEntry (d : TextDocument) (i : Nat) : Json :=
  .object [("line", .ofNat i), ("text", .string (d.lines.getD i ""))]

/-- No line of a document is left out. -/
theorem withText_within {d : TextDocument} {numbers : List Nat} (h : ∀ i ∈ numbers, i < d.lineCount) :
    withText d numbers = .array (numbers.map (lineEntry d)) := by
  rw [withText]
  congr 1
  rw [← List.filterMap_eq_map]
  refine List.filterMap_congr fun i hi => ?_
  simp [lineEntry, List.getD_eq_getElem?_getD, List.getElem?_eq_getElem (h i hi)]

end Tool.Server

/-! ### Open documents -/

namespace Workspace

variable {w : Workspace} {id : String} {now : Timestamp}

/-- What is answered to a question about a line of a document that is open with a text. -/
theorem HasText.relatedLines_eq (h : w.HasText id text languageId) (now : Timestamp)
    (hline : line < (linesOf text).length) : ∃ w', w.relatedLines now id line =
      .ok ((w.analyzer.relatedLines (ofText text languageId) line).toList, w') := by
  obtain ⟨s, hopen, hholds⟩ := h
  have hcount : ¬ s.document.lineCount ≤ line := by
    rw [hholds.document_eq]
    exact Nat.not_le.2 hline
  rw [relatedLines, sessionWithLine_of_open hopen, if_neg hcount, ← hholds.document_eq]
  exact ⟨_, rfl⟩

/-- A file is the first document that is opened. Its text is open then. -/
theorem openFile_empty (hholds : HoldsText files file config.analysis.maxFileSize text)
    (hplain : HasPlainBreaks text) (hroom : 0 < config.session.maxOpenDocuments) (now : Timestamp) :
    ∃ fresh, (ofSettings config).openFile now files file = .ok (.opened, fresh) ∧
      fresh.analyzer = .standard config.analysis ∧ fresh.HasText file text (Language.ofPath file) := by
  obtain ⟨fresh, hopened, hanalyzer, htext⟩ := openText_empty (.standard config.analysis) hroom now file
    text (Language.ofPath file)
  refine ⟨fresh, ?_, hanalyzer, htext⟩
  rw [openFile_eq hholds, (TextDocument.text_ofText_eq_iff ..).2 hplain, ofSettings, hopened, mapError_ok]

end Workspace

/-! ### Settings -/

/-- Settings that a program works with leave room for a document. -/
theorem Settings.maxOpenDocuments_pos {env : Environment} (h : Settings.load files env = .ok config) :
    0 < config.session.maxOpenDocuments := by
  obtain ⟨read, -, h⟩ := eq_ok_of_bind h
  rw [validate] at h
  split at h
  · rename_i hvalid
    obtain rfl := Except.ok.inj h
    rw [firstFault, Option.map_eq_none_iff, List.find?_eq_none] at hvalid
    have hlimit := hvalid ("session.max_open_documents", (read.withEnvironment env).session.maxOpenDocuments)
      (by simp [positiveLimits])
    exact Nat.pos_of_ne_zero (by simpa using hlimit)
  · cases h

/-! ### The three ways -/

namespace CommandLine

variable {s : Surroundings} {args : List String}

theorem settings_of_load (h : Settings.load s.files s.env = .ok config) : settings s = .ok config := by
  rw [settings, h, mapError_ok]

/-- What is printed for some lines of a text. -/
def shown (text : String) (related : List Nat) : String :=
  String.join (related.map fun i => printed (Prompt.numbered i ((linesOf text).getD i "")))

/-- The related lines of a line of a document are shown with their texts. -/
theorem showAnalysis_lines {a : Analyzer} {d : TextDocument} {selection : Selection}
    (hline : selection.first < d.lineCount) : showAnalysis a d selection .lines =
      .ok (String.join ((a.relatedLines d selection.first).toList.map fun i =>
        printed (Prompt.numbered i (d.lines.getD i "")))) := by
  rw [← TextDocument.lineCount_view] at hline
  have hwithin : ∀ i ∈ (a.relatedLines d selection.first).toList, i < d.lineCount := by
    intro i hi
    rw [← TextDocument.lineCount_view]
    exact Analyzer.lt_lineCount_of_mem_relatedLines hline hi
  rw [showAnalysis, if_pos rfl, Prompt.numberedLines_within hwithin, mapError_ok, ok_bind, List.map_map]
  rfl

/-- The command line shows the lines related to a line. -/
theorem run_analyze (hargs : Invocation.ofArgs args = .run (.analyze file n none .lines))
    (hsettings : settings s = .ok config)
    (hholds : HoldsText s.files file config.analysis.maxFileSize text) (hfirst : 1 ≤ n)
    (hlast : n ≤ (linesOf text).length) : run s args =
      ⟨0, shown text ((Analyzer.standard config.analysis).relatedLines
        (ofText text (Language.ofPath file)) (n - 1)).toList, "", s.files⟩ := by
  have hcount : ¬ (ofText text (Language.ofPath file)).lineCount < n := Nat.not_lt.2 hlast
  have hline : n - 1 < (ofText text (Language.ofPath file)).lineCount :=
    Nat.lt_of_lt_of_le (Nat.sub_one_lt_of_lt hfirst) hlast
  have hanalyze : analyze s file n none .lines = .ok (shown text ((Analyzer.standard
      config.analysis).relatedLines (ofText text (Language.ofPath file)) (n - 1)).toList) := by
    simp only [analyze, Option.getD_none, Nat.ne_of_gt hfirst, Nat.lt_irrefl, if_false, hsettings,
      hholds.ofFile_eq, hcount, ok_bind, mapError_ok]
    exact showAnalysis_lines hline
  rw [run, hargs]
  simp only [runCommand, hanalyze]
  rfl

end CommandLine

namespace Tool.Server

/-- The tool finds the lines related to a line of a document that is open. -/
theorem findRelatedLines_of_text {s : Server} (h : s.workspace.HasText file text languageId)
    (hline : line < (linesOf text).length) : ∃ after, s.findRelatedLines ⟨file, line⟩ =
      .ok (foundLines ⟨file, line⟩ (ofText text languageId)
        (s.workspace.analyzer.relatedLines (ofText text languageId) line).toList, after) := by
  obtain ⟨w', hrelated⟩ := h.relatedLines_eq s.now hline
  obtain ⟨session, hopen, hholds⟩ := h
  rcases findRelatedLines_cases s ⟨file, line⟩ with ⟨e, hfails, -⟩ |
    ⟨session', related, w, hopen', hfind, hdone⟩
  · cases hfails.symm.trans hrelated
  · obtain rfl := Option.some.inj (hopen'.symm.trans hopen)
    obtain ⟨rfl, -⟩ := Prod.mk.inj (Except.ok.inj (hfind.symm.trans hrelated))
    rw [hdone, hholds.document_eq]
    exact ⟨_, rfl⟩

/-- A file with a name that is not blank is the first document that a tool is asked about. -/
theorem callTool_find {now : Timestamp} {args : Json}
    (hargs : FindRequest.record.ofMembers (argumentsOf args) = .ok ⟨file, line⟩)
    (hname : Text.isBlankText file = false)
    (hholds : HoldsText files file config.analysis.maxFileSize text) (hplain : HasPlainBreaks text)
    (hroom : 0 < config.session.maxOpenDocuments) (hline : line < (linesOf text).length) :
    ((Server.mk now files (.ofSettings config)).callTool "find_related_lines" args).1 =
      .ok (.answered (foundLines ⟨file, line⟩ (ofText text (Language.ofPath file))
        ((Analyzer.standard config.analysis).relatedLines (ofText text (Language.ofPath file))
          line).toList)) := by
  obtain ⟨fresh, hopened, hanalyzer, htext⟩ := Workspace.openFile_empty hholds hplain hroom now
  let s : Server := ⟨now, files, .ofSettings config⟩
  let opened : Server := ⟨now, files, fresh⟩
  have hensure : s.ensureOpen file = .ok opened := by
    rw [ensureOpen, if_neg (by simp [s, Workspace.ofSettings, Catalog.contains_eq])]
    simp only [s, hopened]
    rfl
  obtain ⟨after, hfound⟩ := findRelatedLines_of_text (s := opened) htext hline
  rw [hanalyzer] at hfound
  have hcheck : FindRequest.check ⟨file, line⟩ = .ok () := by
    simp [FindRequest.check, checkPath, hname]
  show (s.carryOut args FindRequest.record FindRequest.check fun r =>
    s.opening r.path fun s => s.keeping (s.findRelatedLines r)).1 = _
  simp only [carryOut, hargs, hcheck, opening, hensure, hfound, keeping]

end Tool.Server

namespace Workspace

/-- A message asks for the lines related to a line of a text that another message has opened. -/
theorem handleText_find {id opening asking : String} {now later : Timestamp} (words : Decode.Wording)
    (hopening : Decode.ofText Request.decode opening = .ok (.openDocument id text languageId))
    (hasking : Decode.ofText Request.decode asking = .ok (.findRelatedLines id line))
    (hroom : 0 < config.session.maxOpenDocuments) (hline : line < (linesOf text).length) :
    (((ofSettings config).handleText words now opening).2.handleText words later asking).1 =
      .relatedLines id line
        ((Analyzer.standard config.analysis).relatedLines (ofText text languageId) line).toList := by
  obtain ⟨fresh, hopened, hanalyzer, htext⟩ :=
    openText_empty (.standard config.analysis) hroom now id text languageId
  obtain ⟨w', hrelated⟩ := htext.relatedLines_eq later hline
  have hfirst : ((ofSettings config).handleText words now opening).2 = fresh := by
    simp only [handleText, hopening, handle, ofSettings, hopened]
  rw [hfirst]
  simp only [handleText, hasking, handle, hrelated, hanalyzer]

end Workspace

/-- **The three ways agree.** Let a file whose name is not blank hold a text without carriage returns, and
let the settings of a run be right. Then there are lines, in ascending order and all of them lines of the
text, such that: the command line, asked about line `n`, prints exactly these lines, each with its number,
counted from one, and its text; the tool, asked about line `n - 1` of the file, answers exactly these
lines, each with its text; and so is a message about line `n - 1`, after another one has brought the text,
under any identifier and in any language. -/
theorem three_ways_agree {s : CommandLine.Surroundings} {args : List String} {toolArgs : Json}
    (hargs : CommandLine.Invocation.ofArgs args = .run (.analyze file n none .lines))
    (htool : Tool.FindRequest.record.ofMembers (Tool.Server.argumentsOf toolArgs) = .ok ⟨file, n - 1⟩)
    (hsettings : CommandLine.settings s = .ok config)
    (hholds : HoldsText s.files file config.analysis.maxFileSize text) (hreturn : '\r' ∉ text.toList)
    (hfirst : 1 ≤ n) (hlast : n ≤ (linesOf text).length) (hname : Text.isBlankText file = false) :
    ∃ related : List Nat, related.Pairwise (· < ·) ∧ (∀ i ∈ related, i < (linesOf text).length) ∧
      CommandLine.run s args = ⟨0, CommandLine.shown text related, "", s.files⟩ ∧
      ((Tool.Server.mk s.now s.files (.ofSettings config)).callTool "find_related_lines" toolArgs).1 =
        .ok (.answered (.object [("path", .string file), ("line", .ofNat (n - 1)),
          ("related_lines", .array (related.map fun i =>
            .object [("line", .ofNat i), ("text", .string ((linesOf text).getD i ""))]))])) ∧
      ∀ id languageId opening asking words now later,
        Decode.ofText Request.decode opening = .ok (.openDocument id text languageId) →
        Decode.ofText Request.decode asking = .ok (.findRelatedLines id (n - 1)) →
        (((Workspace.ofSettings config).handleText words now opening).2.handleText words later asking).1 =
          .relatedLines id (n - 1) related := by
  have hroom : 0 < config.session.maxOpenDocuments :=
    Settings.maxOpenDocuments_pos (eq_ok_of_mapError hsettings)
  have hline : n - 1 < (linesOf text).length := Nat.lt_of_lt_of_le (Nat.sub_one_lt_of_lt hfirst) hlast
  have hplain := TextDocument.hasPlainBreaks_of_not_mem hreturn
  let d := ofText text (Language.ofPath file)
  let related := (Analyzer.standard config.analysis).relatedLines d (n - 1)
  have hwithin : ∀ i ∈ related.toList, i < d.lineCount := by
    intro i hi
    rw [← TextDocument.lineCount_view]
    refine Analyzer.lt_lineCount_of_mem_relatedLines ?_ hi
    rwa [TextDocument.lineCount_view]
  refine ⟨related.toList, related.ascending, hwithin,
    CommandLine.run_analyze hargs hsettings hholds hfirst hlast, ?_, ?_⟩
  · rw [Tool.Server.callTool_find htool hname hholds hplain hroom hline, Tool.Server.foundLines,
      Tool.Server.withText_within hwithin]
    rfl
  · intro id languageId opening asking words now later hopening hasking
    rw [Workspace.handleText_find words hopening hasking hroom hline]
    rfl

/-- The surroundings of a run with one file, and without words for messages that cannot be read. -/
def besideFile (name text : String) : CommandLine.Surroundings :=
  { env := [], files := .folder [(name, .file text.toUTF8)], input := "", now := "9:00",
    words := ⟨fun _ => "", fun _ _ => ""⟩ }

/-- A message that brings a text of two lines. -/
def bringingText : String :=
  "\x7b\"type\":\"open_document\",\"id\":\"d\",\"text\":\"let a = 1;\\nb(a);\"\x7d"

/-- A message that asks about the second line. -/
def askingAboutLine : String := "\x7b\"type\":\"find_related_lines\",\"id\":\"d\",\"line\":1\x7d"

/-- The second line of a file uses a variable of the first one, and all three ways say so: the command line, the
tool, and messages that bring the text. -/
theorem three_ways_agree_sharedVariable :
    let text := "let a = 1;\nb(a);"
    let s := besideFile "a.js" text
    let args := ["analyze", "a.js", "--line", "2"]
    let toolArgs := (Tool.FindRequest.mk "a.js" 1).toJson
    (CommandLine.Invocation.ofArgs args = .run (.analyze "a.js" 2 none .lines) ∧
      CommandLine.settings s = .ok {} ∧
      HoldsText s.files "a.js" ({} : Settings).analysis.maxFileSize text ∧ '\r' ∉ text.toList ∧
      2 ≤ (linesOf text).length ∧ Text.isBlankText "a.js" = false ∧
      Decode.ofText Request.decode bringingText = .ok (.openDocument "d" text "plaintext") ∧
      Decode.ofText Request.decode askingAboutLine = .ok (.findRelatedLines "d" 1)) ∧
    CommandLine.run s args = ⟨0, CommandLine.shown text [0, 1], "", s.files⟩ ∧
    ((Tool.Server.mk s.now s.files (.ofSettings {})).callTool "find_related_lines" toolArgs).1 =
      .ok (.answered (.object [("path", .string "a.js"), ("line", .ofNat 1),
        ("related_lines", .array ([0, 1].map fun i =>
          .object [("line", .ofNat i), ("text", .string ((linesOf text).getD i ""))]))])) ∧
    ∀ words now later,
      (((Workspace.ofSettings {}).handleText words now bringingText).2.handleText words later
        askingAboutLine).1 = .relatedLines "d" 1 [0, 1] := by
  intro text s args toolArgs
  have hargs : CommandLine.Invocation.ofArgs args = .run (.analyze "a.js" 2 none .lines) := by decide +kernel
  have hsettings : CommandLine.settings s = .ok {} := CommandLine.settings_of_load (by decide +kernel)
  have hholds : HoldsText s.files "a.js" ({} : Settings).analysis.maxFileSize text :=
    TextDocument.holdsText_toUTF8 rfl (by decide) (by decide)
  have htool : Tool.FindRequest.record.ofMembers (Tool.Server.argumentsOf toolArgs) = .ok ⟨"a.js", 1⟩ :=
    rfl
  have hreturn : '\r' ∉ text.toList := by decide
  have hlast : 2 ≤ (linesOf text).length := by decide
  have hname : Text.isBlankText "a.js" = false := by decide
  have hopening : Decode.ofText Request.decode bringingText = .ok (.openDocument "d" text "plaintext") := by
    rfl
  have hasking : Decode.ofText Request.decode askingAboutLine = .ok (.findRelatedLines "d" 1) := by rfl
  obtain ⟨related, -, -, hrun, hcall, hmessages⟩ :=
    three_ways_agree hargs htool hsettings hholds hreturn (by decide) hlast hname
  have hmessage words now later :=
    hmessages "d" "plaintext" bringingText askingAboutLine words now later hopening hasking
  obtain rfl : related = [0, 1] := by
    have hfound : ((Analyzer.standard ({} : Settings).analysis).relatedLines (ofText text "plaintext")
        1).toList = [0, 1] := by decide +kernel
    have hanswer : (((Workspace.ofSettings {}).handleText s.words "" bringingText).2.handleText s.words ""
        askingAboutLine).1 = .relatedLines "d" 1 ((Analyzer.standard ({} : Settings).analysis).relatedLines
          (ofText text "plaintext") 1).toList :=
      Workspace.handleText_find s.words hopening hasking (by decide) (by decide)
    rw [hfound] at hanswer
    exact (Reply.relatedLines.inj ((hmessage s.words "" "").symm.trans hanswer)).2.2
  exact ⟨⟨hargs, hsettings, hholds, hreturn, hlast, hname, hopening, hasking⟩, hrun, hcall, hmessage⟩

/-- **A file with a blank name** is analysed by the command line, and the tool refuses it. -/
theorem blank_name_is_refused :
    let text := "x();"
    let s := besideFile " " text
    let args := ["analyze", " ", "--line", "1"]
    let toolArgs := (Tool.FindRequest.mk " " 0).toJson
    (CommandLine.Invocation.ofArgs args = .run (.analyze " " 1 none .lines) ∧
      CommandLine.settings s = .ok {} ∧
      HoldsText s.files " " ({} : Settings).analysis.maxFileSize text ∧ '\r' ∉ text.toList ∧
      1 ≤ (linesOf text).length) ∧
    CommandLine.run s args = ⟨0, "    1: x();\n", "", s.files⟩ ∧
    ((Tool.Server.mk s.now s.files (.ofSettings {})).callTool "find_related_lines" toolArgs).1 =
      .ok (.refused "Empty path") := by
  intro text s args toolArgs
  have hargs : CommandLine.Invocation.ofArgs args = .run (.analyze " " 1 none .lines) := by decide +kernel
  have hsettings : CommandLine.settings s = .ok {} := CommandLine.settings_of_load (by decide +kernel)
  have hholds : HoldsText s.files " " ({} : Settings).analysis.maxFileSize text :=
    TextDocument.holdsText_toUTF8 rfl (by decide) (by decide)
  have hlast : 1 ≤ (linesOf text).length := by decide
  refine ⟨⟨hargs, hsettings, hholds, by decide, hlast⟩, ?_, rfl⟩
  rw [CommandLine.run_analyze hargs hsettings hholds (Nat.le_refl 1) hlast]
  have hshown : CommandLine.shown text ((Analyzer.standard ({} : Settings).analysis).relatedLines
      (ofText text (Language.ofPath " ")) 0).toList = "    1: x();\n" := by decide +kernel
  rw [hshown]

end LineKin
