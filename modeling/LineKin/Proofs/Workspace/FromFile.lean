import LineKin.Proofs.Document.Breaks
import LineKin.Proofs.Workspace.Reopening

/-!
# Documents opened from files

A workspace opens a file by cutting its text into lines, joining them with line feeds, and opening the text
that this gives, which is cut once more. The first cut takes one carriage return from the end of each line,
and the second one takes another. So what is opened is the document of the file exactly if none of its
lines still ends in a carriage return: **`opened_file_is_stored`**. In a file where two carriage returns
stand in front of a line feed, questions are answered about other lines than those of the file
(`doubledReturn_is_lost`).
-/

namespace LineKin.Workspace

open TextDocument (HoldsText lineWithoutReturn)

variable {files : FileTree} {path : String} {maxFileSize : Nat} {document : TextDocument}

/-- The document of a file has a line, and no line feed in any. -/
theorem lines_of_ofFile (h : TextDocument.ofFile files path maxFileSize = .ok document) :
    document.lines ≠ [] ∧ ∀ line ∈ document.lines, '\n' ∉ line.toList := by
  obtain ⟨text, -, rfl⟩ := TextDocument.ofFile_eq_ok_iff.1 h
  refine ⟨by simp [TextDocument.ofText, TextDocument.linesOf], fun line hline => ?_⟩
  obtain ⟨piece, hpiece, rfl⟩ := List.mem_map.1 hline
  rw [String.toList_ofList]
  exact TextDocument.not_mem_withoutReturn hpiece

/-- A file that is opened can be read, and its joined lines are opened. -/
theorem openText_of_openFile {w opened : Workspace} {now : Timestamp} {outcome : OpenOutcome}
    (h : w.openFile now files path = .ok (outcome, opened)) :
    ∃ document, TextDocument.ofFile files path w.analyzer.limits.maxFileSize = .ok document ∧
      w.openText now path document.text document.languageId = .ok (outcome, opened) := by
  obtain ⟨document, hdocument, hopened⟩ := eq_ok_of_bind h
  exact ⟨document, eq_ok_of_mapError hdocument, eq_ok_of_mapError hopened⟩

/-- **What is stored for a file.** Let a file be opened behind any calls, and let no two texts that were
submitted so far have the same digest. The file has a document then, and what is stored is that document
with one carriage return less on each line that ends in one. So it is the document of the file exactly if
no line of the file ends in a carriage return behind the one that belongs to the line break. -/
theorem opened_file_is_stored (analyzer : Analyzer) (limits : SessionLimits) (before : List Call)
    (now : Timestamp) (files : FileTree) (path : String) (outcome : OpenOutcome) (opened : Workspace)
    (hdistinct : NoCollision
      (submittedTexts analyzer.limits.maxFileSize (before ++ [.openFile now files path])))
    (hopened : (Workspace.run { analyzer, limits } before).2.openFile now files path =
      .ok (outcome, opened)) :
    ∃ document s,
      TextDocument.ofFile files path analyzer.limits.maxFileSize = .ok document ∧
      opened.sessions.find? path = some s ∧
      s.document = ⟨document.languageId, document.lines.map lineWithoutReturn⟩ ∧
      (s.document = document ↔ ∀ line ∈ document.lines, line.toList.getLast? ≠ some '\r') := by
  obtain ⟨document, hdocument, hopenText⟩ := openText_of_openFile hopened
  rw [analyzer_run] at hdocument
  obtain ⟨hsome, hfeeds⟩ := lines_of_ofFile hdocument
  have hsubmits : Call.submission? analyzer.limits.maxFileSize (.openFile now files path) =
      some ⟨path, document.text, document.languageId⟩ := by
    rw [Call.submission?, hdocument]
  have htext : document.text ∈
      submittedTexts analyzer.limits.maxFileSize (before ++ [.openFile now files path]) := by
    rw [submittedTexts_concat hsubmits]
    exact List.mem_append_right _ (List.mem_singleton_self _)
  -- if the digest was known already, the document under it is that of the same text
  have hstored : opened.HasText path document.text document.languageId := by
    refine hasText_of_openText hdistinct htext (fun id s hfound => ?_) hopenText
    obtain ⟨known, hknown, hholds⟩ := exists_holds_of_run analyzer limits before id s hfound
    exact ⟨known, submittedTexts_subset _ _ _ hknown, hholds⟩
  obtain ⟨s, hfound, hholds⟩ := hstored
  refine ⟨document, s, hdocument, hfound, ?_, ?_⟩
  · rw [hholds.document_eq, TextDocument.ofText, TextDocument.linesOf_text_eq_map hsome hfeeds]
  · rw [hholds.document_eq]
    exact TextDocument.ofText_text_eq_self_iff hsome hfeeds

/-- A file with line breaks of two characters is opened in place of another text. Its own document is
stored. -/
theorem opened_file_is_stored_returnFeeds :
    let analyzer : Analyzer := .standard {}
    let limits : SessionLimits := {}
    let files := folderWith "a.js" "x();\r\ny();\r\n"
    let before : List Call := [.openText "9:00" "a.js" "x();" "javascript"]
    NoCollision (submittedTexts analyzer.limits.maxFileSize (before ++ [.openFile "9:01" files "a.js"])) ∧
    ∃ outcome opened,
      (Workspace.run { analyzer, limits } before).2.openFile "9:01" files "a.js" =
        .ok (outcome, opened) ∧
      ∃ s, opened.sessions.find? "a.js" = some s ∧ s.document = ⟨"javascript", ["x();", "y();", ""]⟩ := by
  intro analyzer limits files before
  let w := (Workspace.run { analyzer, limits } before).2
  have hholds : HoldsText files "a.js" w.analyzer.limits.maxFileSize "x();\r\ny();\r\n" :=
    TextDocument.holdsText_toUTF8 rfl (by decide) (by decide)
  have hdistinct : NoCollision (submittedTexts analyzer.limits.maxFileSize
      (before ++ [.openFile "9:01" files "a.js"])) := by
    unfold NoCollision
    decide +kernel
  have hroom : w.sessions.contains "a.js" = true ∨ w.sessions.size < w.limits.maxOpenDocuments :=
    .inr (by decide +kernel)
  obtain ⟨outcome, opened, hopenText⟩ := exists_openText hroom "9:01"
    (TextDocument.ofText "x();\r\ny();\r\n" "javascript").text "javascript"
  have hopened : w.openFile "9:01" files "a.js" = .ok (outcome, opened) := by
    rw [openFile_eq hholds]
    exact congrArg (Except.mapError _) hopenText
  obtain ⟨document, s, hdocument, hfound, -, hsame⟩ :=
    opened_file_is_stored analyzer limits before "9:01" files "a.js" outcome opened hdistinct hopened
  obtain rfl := Except.ok.inj (hdocument.symm.trans hholds.ofFile_eq)
  exact ⟨hdistinct, outcome, opened, hopened, s, hfound, (hsame.2 (by decide)).trans (by decide)⟩

/-- **Of two carriage returns in front of a line feed, opening a file loses both**: the document of the
file keeps one of them, and what is stored for the file has none. -/
theorem doubledReturn_is_lost :
    let w : Workspace := { analyzer := .standard {}, limits := {} }
    let files := folderWith "a.js" "x();\r\r\n"
    ∃ opened s,
      TextDocument.ofFile files "a.js" w.analyzer.limits.maxFileSize =
        .ok ⟨"javascript", ["x();\r", ""]⟩ ∧
      w.openFile "9:00" files "a.js" = .ok (.opened, opened) ∧
      opened.sessions.find? "a.js" = some s ∧ s.document = ⟨"javascript", ["x();", ""]⟩ := by
  intro w files
  have hholds : HoldsText files "a.js" w.analyzer.limits.maxFileSize "x();\r\r\n" :=
    TextDocument.holdsText_toUTF8 rfl (by decide) (by decide)
  have hroom : 0 < w.limits.maxOpenDocuments := by decide
  obtain ⟨opened, hopenText, -, s, hfound, hs⟩ := openText_empty (.standard {}) hroom "9:00" "a.js"
    (TextDocument.ofText "x();\r\r\n" "javascript").text "javascript"
  refine ⟨opened, s, hholds.ofFile_eq.trans (by decide), ?_, hfound, hs.document_eq.trans (by decide)⟩
  rw [openFile_eq hholds]
  exact congrArg (Except.mapError _) hopenText

end LineKin.Workspace
