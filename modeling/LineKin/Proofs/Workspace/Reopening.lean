import LineKin.Proofs.Document.Cutting
import LineKin.Proofs.Workspace.Stored

/-!
# Opening a document again

A document that is opened again is left alone, with all its results, if it is open with the digest of
the submitted text and in its language; otherwise its text is replaced and its results are forgotten
(`IsOpenAs.openText_kept`). What happens to the document in between does not matter, as long as it is
neither opened nor closed (`IsOpenAs.run`).

A text is submitted as it is, and a file as the lines of its text joined by line feeds. So a file and
the text in it are taken for the same thing if joining the lines gives the text back, and that is so
exactly if the text has plain line breaks: **`reopened_kept_iff_plainBreaks`**. Where a line ends in a
carriage return the digests differ, and results are forgotten although neither the file nor its text has
changed (`carriageReturn_forgets_results`).
-/

namespace LineKin.Workspace

open TextDocument (HoldsText HasPlainBreaks)

variable {w w' opened : Workspace} {now later : Timestamp} {id digest text languageId path : String}
  {files : FileTree} {outcome : OpenOutcome} {calls : List Call}

/-! ### What is open -/

/-- A document is open with a digest and in a language. -/
def IsOpenAs (w : Workspace) (id digest languageId : String) : Prop :=
  ∃ s, w.sessions.find? id = some s ∧ s.digest = digest ∧ s.document.languageId = languageId

theorem isOpenAs_of_openText (h : w.openText now id text languageId = .ok (outcome, w')) :
    w'.IsOpenAs id (Digest.ofText text) languageId := by
  rcases openText_eq_ok h with ⟨-, rfl, s, hopen, hdigest, hlanguage⟩ |
    ⟨s, -, rfl, hdocument, hdigest, -⟩
  · exact ⟨s, hopen, hdigest, hlanguage⟩
  · refine ⟨s, ?_, hdigest, ?_⟩
    · rw [Catalog.find?_put, if_pos rfl]
    · rw [hdocument, TextDocument.ofText]

theorem IsOpenAs.run (h : w.IsOpenAs id digest languageId) (calls : List Call)
    (hquiet : ∀ e ∈ (w.run calls).1, e.starts id = false ∧ e.closes id = false) :
    (w.run calls).2.IsOpenAs id digest languageId := by
  obtain ⟨s, hopen, hdigest, hlanguage⟩ := h
  obtain ⟨s', hopen', hsame⟩ := exists_sameText_run hopen calls hquiet
  exact ⟨s', hopen', hsame.digest_eq.trans hdigest, by rw [hsame.document_eq, hlanguage]⟩

/-- A document can be opened if it is open already or there is room for it. -/
theorem exists_openText
    (hroom : w.sessions.contains id = true ∨ w.sessions.size < w.limits.maxOpenDocuments)
    (now : Timestamp) (text languageId : String) :
    ∃ outcome opened, w.openText now id text languageId = .ok (outcome, opened) := by
  by_cases hid : id ∈ w.sessions.names
  · exact openText_of_open now text languageId hid
  · have hnew : ¬ w.sessions.contains id = true := by
      rwa [Catalog.contains_eq, ← Catalog.mem_names_iff]
    have hfree := Nat.not_le.2 (hroom.resolve_left hnew)
    cases hresult : w.openText now id text languageId with
    | ok result => exact ⟨result.1, result.2, rfl⟩
    | error e => exact absurd ((openText_of_new now text languageId hid).1 ⟨e, hresult⟩) hfree

/-! ### Opening again -/

/-- An open document is left alone under a condition. Otherwise its text is replaced, and its results
are forgotten. -/
def KeptIff {ε : Type} (w : Workspace) (id : String) (condition : Prop)
    (result : Except ε (OpenOutcome × Workspace)) : Prop :=
  (condition → result = .ok (.unchanged, w)) ∧
  (¬ condition → ∃ w', result = .ok (.updated, w') ∧ w'.history id = .ok [])

theorem KeptIff.congr {ε : Type} {condition condition' : Prop}
    {result : Except ε (OpenOutcome × Workspace)} (h : w.KeptIff id condition result)
    (hiff : condition ↔ condition') : w.KeptIff id condition' result := by
  rwa [← propext hiff]

theorem KeptIff.mapError {ε ε' : Type} {condition : Prop} {result : Except ε (OpenOutcome × Workspace)}
    (h : w.KeptIff id condition result) (f : ε → ε') : w.KeptIff id condition (result.mapError f) := by
  obtain ⟨hkept, hreplaced⟩ := h
  refine ⟨fun hyes => ?_, fun hno => ?_⟩
  · rw [hkept hyes, mapError_ok]
  · obtain ⟨w', hresult, hhistory⟩ := hreplaced hno
    exact ⟨w', by rw [hresult, mapError_ok], hhistory⟩

/-- **Opening again leaves a document alone exactly if the digest is the same.** -/
theorem IsOpenAs.openText_kept (h : w.IsOpenAs id digest languageId) (now : Timestamp)
    (text : String) :
    w.KeptIff id (Digest.ofText text = digest) (w.openText now id text languageId) := by
  obtain ⟨s, hopen, rfl, rfl⟩ := h
  rw [openText]
  simp only [hopen]
  refine ⟨fun hsame => ?_, fun hother => ?_⟩
  · rw [hsame, beq_self_eq_true, beq_self_eq_true, Bool.and_self, if_pos rfl]
  · have hdigest : (s.digest == Digest.ofText text) = false := beq_eq_false_iff_ne.2 (Ne.symm hother)
    rw [hdigest, Bool.false_and, if_neg Bool.false_ne_true]
    refine ⟨_, rfl, ?_⟩
    rw [history, session, Catalog.find?_put, if_pos rfl]
    rfl

/-! ### A file and its text -/

/-- A file is submitted as the lines of its text, joined. -/
theorem openFile_eq (hholds : HoldsText files path w.analyzer.limits.maxFileSize text) (now : Timestamp) :
    w.openFile now files path =
      (w.openText now path (TextDocument.ofText text (Language.ofPath path)).text
        (Language.ofPath path)).mapError .session := by
  rw [openFile, hholds.ofFile_eq]
  rfl

theorem analyzer_run_openText (h : w.openText now id text languageId = .ok (outcome, opened))
    (calls : List Call) : (opened.run calls).2.analyzer = w.analyzer :=
  (analyzer_run opened calls).trans (moves_openText h).analyzer_eq

/-- The file is opened behind its text. -/
theorem openFile_after_text (hholds : HoldsText files path w.analyzer.limits.maxFileSize text)
    (hopened : w.openText now path text (Language.ofPath path) = .ok (outcome, opened))
    (hquiet : ∀ e ∈ (opened.run calls).1, e.starts path = false ∧ e.closes path = false)
    (later : Timestamp) :
    (opened.run calls).2.KeptIff path
      (Digest.ofText (TextDocument.ofText text (Language.ofPath path)).text = Digest.ofText text)
      ((opened.run calls).2.openFile later files path) := by
  have hopen := (isOpenAs_of_openText hopened).run calls hquiet
  rw [openFile_eq (by rwa [analyzer_run_openText hopened])]
  exact (hopen.openText_kept later _).mapError _

/-- The text is opened behind its file. -/
theorem openText_after_file (hholds : HoldsText files path w.analyzer.limits.maxFileSize text)
    (hopened : w.openFile now files path = .ok (outcome, opened))
    (hquiet : ∀ e ∈ (opened.run calls).1, e.starts path = false ∧ e.closes path = false)
    (later : Timestamp) :
    (opened.run calls).2.KeptIff path
      (Digest.ofText text = Digest.ofText (TextDocument.ofText text (Language.ofPath path)).text)
      ((opened.run calls).2.openText later path text (Language.ofPath path)) := by
  rw [openFile_eq hholds] at hopened
  have hopen := (isOpenAs_of_openText (eq_ok_of_mapError hopened)).run calls hquiet
  exact hopen.openText_kept later text

/-- Without collisions, a text has the digest of its joined lines exactly if its breaks are plain. -/
theorem digest_eq_iff_plainBreaks (languageId : String)
    (hdistinct : NoCollision [text, (TextDocument.ofText text languageId).text]) :
    Digest.ofText text = Digest.ofText (TextDocument.ofText text languageId).text ↔
      HasPlainBreaks text := by
  rw [← TextDocument.text_ofText_eq_iff text languageId]
  constructor
  · intro hdigest
    exact (hdistinct _ (by simp) _ (by simp) hdigest).symm
  · intro htext
    rw [htext]

/-- **A file is taken for the text in it exactly if the text has plain line breaks.** Let a file hold a
text that can be opened under the file's path, and let the text and its joined lines not have the same
digest by chance. After the text was opened, and after any calls that neither open nor close the
document, opening the file leaves the document alone, with all results that were found in the meantime,
if no line of the text ends in a carriage return; otherwise the document is updated and its results are
forgotten. The same is true of opening the text after the file. -/
theorem reopened_kept_iff_plainBreaks (w : Workspace) (files : FileTree) (path text : String)
    (hholds : HoldsText files path w.analyzer.limits.maxFileSize text)
    (hroom : w.sessions.contains path = true ∨ w.sessions.size < w.limits.maxOpenDocuments)
    (hdistinct : NoCollision [text, (TextDocument.ofText text (Language.ofPath path)).text])
    (now later : Timestamp) :
    (∃ outcome opened, w.openText now path text (Language.ofPath path) = .ok (outcome, opened) ∧
      ∀ calls, (∀ e ∈ (opened.run calls).1, e.starts path = false ∧ e.closes path = false) →
        (opened.run calls).2.KeptIff path (HasPlainBreaks text)
          ((opened.run calls).2.openFile later files path)) ∧
    ∃ outcome opened, w.openFile now files path = .ok (outcome, opened) ∧
      ∀ calls, (∀ e ∈ (opened.run calls).1, e.starts path = false ∧ e.closes path = false) →
        (opened.run calls).2.KeptIff path (HasPlainBreaks text)
          ((opened.run calls).2.openText later path text (Language.ofPath path)) := by
  have hplain := digest_eq_iff_plainBreaks (Language.ofPath path) hdistinct
  constructor
  · obtain ⟨outcome, opened, hopened⟩ := exists_openText hroom now text (Language.ofPath path)
    refine ⟨outcome, opened, hopened, fun calls hquiet => ?_⟩
    exact (openFile_after_text hholds hopened hquiet later).congr (eq_comm.trans hplain)
  · obtain ⟨outcome, opened, hopened⟩ := exists_openText hroom now
      (TextDocument.ofText text (Language.ofPath path)).text (Language.ofPath path)
    have hfile : w.openFile now files path = .ok (outcome, opened) := by
      rw [openFile_eq hholds, hopened, mapError_ok]
    refine ⟨outcome, opened, hfile, fun calls hquiet => ?_⟩
    exact (openText_after_file hholds hfile hquiet later).congr hplain

theorem run_openText (hopened : w.openText now id text languageId = .ok (outcome, opened))
    (calls : List Call) :
    (w.run (.openText now id text languageId :: calls)).2 = (opened.run calls).2 := by
  simp only [run, step, hopened, mapError_ok, settle]

theorem run_openFile (hopened : w.openFile now files path = .ok (outcome, opened))
    (calls : List Call) : (w.run (.openFile now files path :: calls)).2 = (opened.run calls).2 := by
  simp only [run, step, hopened, settle]

/-- A question neither opens nor closes a document. -/
theorem quiet_relatedLines (w : Workspace) (now : Timestamp) (name id : String) (line : Nat) :
    ∀ e ∈ (w.run [.relatedLines now name line]).1, e.starts id = false ∧ e.closes id = false := by
  intro e he
  obtain rfl := List.mem_singleton.1 he
  rw [step]
  cases w.relatedLines now name line <;> exact ⟨rfl, rfl⟩

/-- A folder with one file. -/
def folderWith (name text : String) : FileTree := .folder [(name, .file text.toUTF8)]

/-- A text with plain line breaks is opened and asked about. Opening its file then changes nothing. -/
theorem reopened_kept_iff_plainBreaks_lineFeeds :
    let w : Workspace := { analyzer := .standard {}, limits := {} }
    let text := "x();\n"
    let files := folderWith "a.js" text
    (HoldsText files "a.js" w.analyzer.limits.maxFileSize text ∧
      w.sessions.size < w.limits.maxOpenDocuments ∧
      NoCollision [text, (TextDocument.ofText text (Language.ofPath "a.js")).text] ∧
      HasPlainBreaks text) ∧
    ∃ outcome opened, w.openText "9:00" "a.js" text (Language.ofPath "a.js") = .ok (outcome, opened) ∧
      let asked := (opened.run [.relatedLines "9:01" "a.js" 0]).2
      asked.openFile "9:02" files "a.js" = .ok (.unchanged, asked) := by
  intro w text files
  have hholds : HoldsText files "a.js" w.analyzer.limits.maxFileSize text :=
    TextDocument.holdsText_toUTF8 rfl (by decide) (by decide)
  have hroom : w.sessions.size < w.limits.maxOpenDocuments := by decide
  have hplain : HasPlainBreaks text := by decide
  have hdistinct : NoCollision [text, (TextDocument.ofText text (Language.ofPath "a.js")).text] := by
    rw [(TextDocument.text_ofText_eq_iff text _).2 hplain]
    simp [NoCollision]
  obtain ⟨⟨outcome, opened, hopened, hkept⟩, -⟩ :=
    reopened_kept_iff_plainBreaks w files "a.js" text hholds (.inr hroom) hdistinct "9:00" "9:02"
  have hquiet := quiet_relatedLines opened "9:01" "a.js" "a.js" 0
  exact ⟨⟨hholds, hroom, hdistinct, hplain⟩, outcome, opened, hopened, (hkept _ hquiet).1 hplain⟩

/-- **A carriage return makes a file forget the results for its own text**, and its text forget those
for the file, although nothing has changed. -/
theorem carriageReturn_forgets_results :
    let w : Workspace := { analyzer := .standard {}, limits := {} }
    let text := "x();\r\n"
    let files := folderWith "a.js" text
    let asking : Call := .relatedLines "9:01" "a.js" 0
    let textFirst := (w.run [.openText "9:00" "a.js" text (Language.ofPath "a.js"), asking]).2
    let fileFirst := (w.run [.openFile "9:00" files "a.js", asking]).2
    let result : HistoryEntry := ⟨"9:01", .line 0, [0], none⟩
    HoldsText files "a.js" w.analyzer.limits.maxFileSize text ∧
    (textFirst.history "a.js" = .ok [result] ∧
      ∃ again, textFirst.openFile "9:02" files "a.js" = .ok (.updated, again) ∧
        again.history "a.js" = .ok []) ∧
    fileFirst.history "a.js" = .ok [result] ∧
      ∃ again, fileFirst.openText "9:02" "a.js" text (Language.ofPath "a.js") = .ok (.updated, again) ∧
        again.history "a.js" = .ok [] := by
  intro w text files asking textFirst fileFirst result
  let languageId := Language.ofPath "a.js"
  let joined := (TextDocument.ofText text languageId).text
  have hholds : HoldsText files "a.js" w.analyzer.limits.maxFileSize text :=
    TextDocument.holdsText_toUTF8 rfl (by decide) (by decide)
  have hroom : w.sessions.contains "a.js" = true ∨ w.sessions.size < w.limits.maxOpenDocuments :=
    .inr (by decide)
  obtain ⟨outcome, opened, hopened⟩ := exists_openText hroom "9:00" text languageId
  obtain ⟨outcome', opened', hopened'⟩ := exists_openText hroom "9:00" joined languageId
  have hfile : w.openFile "9:00" files "a.js" = .ok (outcome', opened') := by
    rw [openFile_eq hholds, hopened', mapError_ok]
  have htextFirst : textFirst = (opened.run [asking]).2 := run_openText hopened [asking]
  have hfileFirst : fileFirst = (opened'.run [asking]).2 := run_openFile hfile [asking]
  have hdigest : Digest.ofText text ≠ Digest.ofText joined := by decide +kernel
  refine ⟨hholds, ⟨by decide +kernel, ?_⟩, ?_, ?_⟩
  · rw [htextFirst]
    have hquiet := quiet_relatedLines opened "9:01" "a.js" "a.js" 0
    exact (openFile_after_text hholds hopened hquiet "9:02").2 hdigest.symm
  · rw [hfileFirst, ← run_openText hopened' [asking]]
    decide +kernel
  · rw [hfileFirst]
    have hquiet := quiet_relatedLines opened' "9:01" "a.js" "a.js" 0
    exact (openText_after_file hholds hfile hquiet "9:02").2 hdigest

end LineKin.Workspace
