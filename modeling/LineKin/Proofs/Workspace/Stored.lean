import LineKin.Proofs.Workspace.History

/-!
# Which text is open

A document is opened with a text, or with the text of a file; either is a `Submission`. A workspace
compares digests to find out whether a text is new, and leaves a document alone if it seems to be open
with that text already.

What is kept under an identifier always belongs to one submission: the document and the digest are
those of one and the same text (`exists_holds_of_run`). So if no two submitted texts have the same
digest, a document that is left alone was open with the very text. **`opened_text_is_stored`**: behind
every opening that succeeds the document of the submitted text is stored, and stays until the document
is opened or closed again; whatever happens in between, questions about it are answered as in a
workspace where this text is all that was ever opened.
-/

namespace LineKin

/-- The session holds a text, with its language and digest. -/
structure Session.Holds (s : Session) (text languageId : String) : Prop where
  /-- The document is that of the text. -/
  document_eq : s.document = .ofText text languageId
  /-- The digest is that of the text. -/
  digest_eq : s.digest = Digest.ofText text

/-- Another session has the same document and digest. -/
structure Session.SameText (s s' : Session) : Prop where
  /-- The document is the same. -/
  document_eq : s'.document = s.document
  /-- The digest is the same. -/
  digest_eq : s'.digest = s.digest

theorem Session.SameText.trans {s s' s'' : Session} (h : s.SameText s') (h' : s'.SameText s'') :
    s.SameText s'' :=
  ⟨h'.document_eq.trans h.document_eq, h'.digest_eq.trans h.digest_eq⟩

namespace Workspace

variable {w w' : Workspace} {e : Event} {call : Call} {id name text languageId : String} {s : Session}
  {outcome : OpenOutcome}

/-! ### Submissions -/

/-- A text that is to be opened. -/
structure Submission where
  /-- The identifier of the document. -/
  id : String
  /-- The text. -/
  text : String
  /-- The language. -/
  languageId : String

/-- What a call submits; files may only have a certain size. -/
def Call.submission? (maxFileSize : Nat) : Call → Option Submission
  | .openText _ id text languageId => some ⟨id, text, languageId⟩
  | .openFile _ files path =>
    match TextDocument.ofFile files path maxFileSize with
    | .ok document => some ⟨path, document.text, document.languageId⟩
    | .error _ => none
  | _ => none

/-- The texts that calls submit. -/
def submittedTexts (maxFileSize : Nat) (calls : List Call) : List String :=
  calls.filterMap fun call => (call.submission? maxFileSize).map (·.text)

theorem submittedTexts_concat {maxFileSize : Nat} {calls : List Call} {sub : Submission}
    (h : call.submission? maxFileSize = some sub) :
    submittedTexts maxFileSize (calls ++ [call]) = submittedTexts maxFileSize calls ++ [sub.text] := by
  simp [submittedTexts, h]

theorem submittedTexts_subset (maxFileSize : Nat) (calls more : List Call) :
    submittedTexts maxFileSize calls ⊆ submittedTexts maxFileSize (calls ++ more) := by
  rw [submittedTexts, submittedTexts, List.filterMap_append]
  exact List.subset_append_left _ _

/-- No two of some texts have the same digest. -/
def NoCollision (texts : List String) : Prop :=
  ∀ a ∈ texts, ∀ b ∈ texts, Digest.ofText a = Digest.ofText b → a = b

/-- A submission is opened, where it comes from. -/
theorem step_of_submission {sub : Submission}
    (h : call.submission? w.analyzer.limits.maxFileSize = some sub) :
    ∃ now, w.step call = w.settle (.opening sub.id)
      ((w.openText now sub.id sub.text sub.languageId).mapError .session) := by
  cases call with
  | openText now id text languageId =>
    obtain rfl := Option.some.inj h
    exact ⟨now, rfl⟩
  | openFile now files path =>
    rw [Call.submission?] at h
    split at h
    · rename_i document hdocument
      obtain rfl := Option.some.inj h
      exact ⟨now, by rw [step, openFile, hdocument, mapError_ok, ok_bind]⟩
    · cases h
  | _ => cases h

/-- Without a submission no document is opened, and no text replaced. -/
theorem starts_of_no_submission (h : call.submission? w.analyzer.limits.maxFileSize = none)
    (name : String) : (w.step call).1.starts name = false := by
  cases call with
  | openText now id text languageId => cases h
  | openFile now files path =>
    rw [Call.submission?] at h
    split at h
    · cases h
    · rename_i cause hcause
      rw [step, openFile, hcause]
      rfl
  | close id => rfl
  | relatedLines now id line =>
    rw [step]
    cases w.relatedLines now id line <;> rfl
  | analyze now id selection =>
    rw [step]
    cases w.analyze now id selection <;> rfl
  | list => rfl
  | history id => rfl

/-- Where the text of a session comes from: it was there before the call, or the call submitted it. -/
theorem exists_holds_of_step (hopen : (w.step call).2.sessions.find? name = some s) :
    (∃ s', w.sessions.find? name = some s' ∧ s.document = s'.document ∧ s.digest = s'.digest) ∨
    ∃ sub, call.submission? w.analyzer.limits.maxFileSize = some sub ∧
      s.Holds sub.text sub.languageId := by
  cases hsub : call.submission? w.analyzer.limits.maxFileSize with
  | none =>
    have hstarts := starts_of_no_submission hsub name
    rcases (moves_step w call).find?_cases name with ⟨-, hsame⟩ | ⟨hyes, -⟩ | ⟨-, hnone⟩ |
      ⟨s', entry, hfound, -, -, hrecorded⟩
    · exact .inl ⟨s, hsame ▸ hopen, rfl, rfl⟩
    · rw [hstarts] at hyes
      cases hyes
    · rw [hnone] at hopen
      cases hopen
    · obtain rfl := Option.some.inj (hrecorded.symm.trans hopen)
      exact .inl ⟨s', hfound, rfl, rfl⟩
  | some sub =>
    obtain ⟨now, hstep⟩ := step_of_submission hsub
    rw [hstep] at hopen
    cases hresult : w.openText now sub.id sub.text sub.languageId with
    | error e =>
      rw [hresult] at hopen
      exact .inl ⟨s, hopen, rfl, rfl⟩
    | ok opened =>
      obtain ⟨outcome, w'⟩ := opened
      rw [hresult] at hopen
      have hopen : w'.sessions.find? name = some s := hopen
      rcases openText_eq_ok hresult with ⟨-, rfl, -⟩ | ⟨new, -, rfl, hdocument, hdigest, -⟩
      · exact .inl ⟨s, hopen, rfl, rfl⟩
      · rw [Catalog.find?_put] at hopen
        split at hopen
        · obtain rfl := Option.some.inj hopen
          exact .inr ⟨sub, rfl, hdocument, hdigest⟩
        · exact .inl ⟨s, hopen, rfl, rfl⟩

theorem run_concat (w : Workspace) (calls : List Call) (call : Call) :
    (w.run (calls ++ [call])).2 = ((w.run calls).2.step call).2 := by
  rw [run_append]
  rfl

/-- **What is stored belongs to one submitted text**, the document as well as the digest. -/
theorem exists_holds_of_run (analyzer : Analyzer) (limits : SessionLimits) (calls : List Call) :
    ∀ id s, (Workspace.run { analyzer, limits } calls).2.sessions.find? id = some s →
      ∃ text ∈ submittedTexts analyzer.limits.maxFileSize calls, ∃ languageId,
        s.Holds text languageId := by
  induction calls using List.reverseRecOn with
  | nil =>
    intro id s hopen
    rw [run, Catalog.find?_empty] at hopen
    cases hopen
  | append_singleton calls call ih =>
    intro id s hopen
    rw [run_concat] at hopen
    rcases exists_holds_of_step hopen with ⟨s', hfound, hdocument, hdigest⟩ | ⟨sub, hsub, hholds⟩
    · obtain ⟨text, htext, languageId, hholds⟩ := ih id s' hfound
      exact ⟨text, submittedTexts_subset _ _ _ htext, languageId,
        hdocument.trans hholds.document_eq, hdigest.trans hholds.digest_eq⟩
    · rw [analyzer_run] at hsub
      refine ⟨sub.text, ?_, sub.languageId, hholds⟩
      rw [submittedTexts_concat hsub]
      exact List.mem_append_right _ (List.mem_singleton_self _)

/-! ### From one opening to the next -/

/-- A document is open with a text. -/
def HasText (w : Workspace) (id text languageId : String) : Prop :=
  ∃ s, w.sessions.find? id = some s ∧ s.Holds text languageId

/-- A submission that is accepted was opened. -/
theorem openText_of_step
    (hsub : call.submission? w.analyzer.limits.maxFileSize = some ⟨id, text, languageId⟩)
    (hstep : w.step call = (.opening id (.ok outcome), w')) :
    ∃ now, w.openText now id text languageId = .ok (outcome, w') := by
  obtain ⟨now, hopening⟩ := step_of_submission hsub
  refine ⟨now, ?_⟩
  rw [hopening] at hstep
  cases hresult : w.openText now id text languageId with
  | error e =>
    rw [hresult] at hstep
    cases hstep
  | ok opened =>
    rw [hresult] at hstep
    obtain ⟨hevent, hbehind⟩ := Prod.mk.inj hstep
    injection hevent with _ hanswer
    exact congrArg Except.ok (Prod.ext (Except.ok.inj hanswer) hbehind)

/-- An opening that succeeds leaves the submitted text open. Where it finds the document open already,
the digest vouches for the text. -/
theorem hasText_of_openText {texts : List String} {now : Timestamp} (hdistinct : NoCollision texts)
    (htext : text ∈ texts)
    (hstored : ∀ id s, w.sessions.find? id = some s → ∃ text ∈ texts, ∃ languageId,
      s.Holds text languageId)
    (hopened : w.openText now id text languageId = .ok (outcome, w')) :
    w'.HasText id text languageId := by
  rcases openText_eq_ok hopened with ⟨-, rfl, s, hfound, hdigest, hlanguage⟩ |
    ⟨s, -, rfl, hdocument, hdigest, -⟩
  · obtain ⟨known, hknown, language, hholds⟩ := hstored id s hfound
    have hsame : known = text :=
      hdistinct known hknown text htext (hholds.digest_eq.symm.trans hdigest)
    have hspoken : language = languageId := by
      rw [← hlanguage, hholds.document_eq]
      rfl
    subst hsame hspoken
    exact ⟨s, hfound, hholds⟩
  · exact ⟨s, by rw [Catalog.find?_put, if_pos rfl], hdocument, hdigest⟩

/-- A session keeps its text as long as the document is neither opened nor closed. -/
theorem Moves.exists_sameText (hmoves : w.Moves e w') (hopen : w.sessions.find? id = some s)
    (hstarts : e.starts id = false) (hcloses : e.closes id = false) :
    ∃ s', w'.sessions.find? id = some s' ∧ s.SameText s' := by
  rcases hmoves.find?_cases id with ⟨-, hsame⟩ | ⟨hyes, -⟩ | ⟨hyes, -⟩ |
    ⟨s', entry, hfound, -, -, hrecorded⟩
  · exact ⟨s, hsame.trans hopen, rfl, rfl⟩
  · rw [hstarts] at hyes
    cases hyes
  · rw [hcloses] at hyes
    cases hyes
  · obtain rfl := Option.some.inj (hfound.symm.trans hopen)
    exact ⟨_, hrecorded, rfl, rfl⟩

theorem exists_sameText_run (hopen : w.sessions.find? id = some s) (calls : List Call)
    (hquiet : ∀ e ∈ (w.run calls).1, e.starts id = false ∧ e.closes id = false) :
    ∃ s', (w.run calls).2.sessions.find? id = some s' ∧ s.SameText s' := by
  refine @run_induction w (fun trace v => (∀ e ∈ trace, e.starts id = false ∧ e.closes id = false) →
    ∃ s', v.sessions.find? id = some s' ∧ s.SameText s') (fun _ => ⟨s, hopen, rfl, rfl⟩)
    (fun hkept hmoves hquiet => ?_) calls hquiet
  obtain ⟨hstarts, hcloses⟩ := hquiet _ (List.mem_append_right _ (List.mem_singleton_self _))
  obtain ⟨s', hopen', hsame⟩ := hkept fun e he => hquiet e (List.mem_append_left _ he)
  obtain ⟨s'', hopen'', hsame'⟩ := hmoves.exists_sameText hopen' hstarts hcloses
  exact ⟨s'', hopen'', hsame.trans hsame'⟩

theorem HasText.run (h : w.HasText id text languageId) (calls : List Call)
    (hquiet : ∀ e ∈ (w.run calls).1, e.starts id = false ∧ e.closes id = false) :
    (w.run calls).2.HasText id text languageId := by
  obtain ⟨s, hopen, hholds⟩ := h
  obtain ⟨s', hopen', hsame⟩ := exists_sameText_run hopen calls hquiet
  exact ⟨s', hopen', hsame.document_eq.trans hholds.document_eq,
    hsame.digest_eq.trans hholds.digest_eq⟩

/-! ### Questions about a document -/

theorem sessionWithLine_of_open (hopen : w.sessions.find? id = some s) (line : Nat) :
    w.sessionWithLine id line =
      if s.document.lineCount ≤ line then
        .error (.document (.lineOutOfRange line s.document.lineCount))
      else .ok s := by
  rw [sessionWithLine, session, hopen]
  rfl

/-- What is answered to a question about a line of an open document. -/
theorem step_relatedLines_of_open (hopen : w.sessions.find? id = some s) (now : Timestamp)
    (line : Nat) : (w.step (.relatedLines now id line)).1 = .finding now id line
      (if s.document.lineCount ≤ line then
        .error (.document (.lineOutOfRange line s.document.lineCount))
      else .ok (w.analyzer.relatedLines s.document line).toList) := by
  rw [step, relatedLines, sessionWithLine_of_open hopen]
  split <;> rfl

/-- What is answered to the analysis of a selection in an open document. -/
theorem step_analyze_of_open (hopen : w.sessions.find? id = some s) (now : Timestamp)
    (selection : Selection) : (w.step (.analyze now id selection)).1 = .analysing now id selection
      (if s.document.lineCount ≤ selection.first then
        .error (.document (.lineOutOfRange selection.first s.document.lineCount))
      else (w.analyzer.analyze s.document selection).mapError .analysis) := by
  rw [step, analyze, sessionWithLine_of_open hopen]
  split
  · rfl
  · rw [ok_bind]
    cases w.analyzer.analyze s.document selection <;> rfl

/-- Questions about a document are answered from its text. -/
theorem HasText.step_eq {v : Workspace} (hw : w.HasText id text languageId)
    (hv : v.HasText id text languageId) (hanalyzer : w.analyzer = v.analyzer) (now : Timestamp) :
    (∀ line, (w.step (.relatedLines now id line)).1 = (v.step (.relatedLines now id line)).1) ∧
    ∀ selection, (w.step (.analyze now id selection)).1 = (v.step (.analyze now id selection)).1 := by
  obtain ⟨s, hopen, hs⟩ := hw
  obtain ⟨s', hopen', hs'⟩ := hv
  constructor
  · intro line
    rw [step_relatedLines_of_open hopen, step_relatedLines_of_open hopen', hs.document_eq,
      hs'.document_eq, hanalyzer]
  · intro selection
    rw [step_analyze_of_open hopen, step_analyze_of_open hopen', hs.document_eq, hs'.document_eq,
      hanalyzer]

/-! ### A workspace with one text -/

/-- Where one document fits in, a text can be opened first of all. -/
theorem openText_empty (analyzer : Analyzer) {limits : SessionLimits}
    (hroom : 0 < limits.maxOpenDocuments) (now : Timestamp) (id text languageId : String) :
    ∃ fresh, openText { analyzer, limits } now id text languageId = .ok (.opened, fresh) ∧
      fresh.analyzer = analyzer ∧ fresh.HasText id text languageId := by
  let s : Session :=
    { document := .ofText text languageId, digest := Digest.ofText text,
      openedAt := now, updatedAt := now }
  have hempty : ¬ limits.maxOpenDocuments ≤ (∅ : Catalog Session).size := Nat.not_le.2 hroom
  refine ⟨{ analyzer, limits, sessions := Catalog.put ∅ id s }, if_neg hempty, rfl, s, ?_, rfl, rfl⟩
  rw [Catalog.find?_put, if_pos rfl]

theorem HasText.size_pos (h : w.HasText id text languageId) : 0 < w.sessions.size := by
  obtain ⟨s, hopen, -⟩ := h
  exact List.length_pos_of_mem (Catalog.find?_eq_some_iff.1 hopen)

/-- A document is open in a run only if one fits in. -/
theorem HasText.room {analyzer : Analyzer} {limits : SessionLimits} {calls : List Call}
    (h : (Workspace.run { analyzer, limits } calls).2.HasText id text languageId) :
    0 < limits.maxOpenDocuments :=
  Nat.lt_of_lt_of_le h.size_pos (fits_run analyzer limits calls).size_le

/-- **The text that was opened is the text that is stored.** After any calls, let an opening succeed,
and let no two texts that were submitted so far have the same digest. As long as the document is then
neither opened nor closed, the document of the submitted text is open with that text's digest, and
questions about it are answered as in a workspace in which nothing else was ever opened. -/
theorem opened_text_is_stored (analyzer : Analyzer) (limits : SessionLimits) (before after : List Call)
    (opening : Call) (id text languageId : String) (outcome : OpenOutcome) (w : Workspace)
    (hsubmits : opening.submission? analyzer.limits.maxFileSize = some ⟨id, text, languageId⟩)
    (hdistinct : NoCollision (submittedTexts analyzer.limits.maxFileSize (before ++ [opening])))
    (hopened : (Workspace.run { analyzer, limits } before).2.step opening =
      (.opening id (.ok outcome), w))
    (hquiet : ∀ e ∈ (w.run after).1, e.starts id = false ∧ e.closes id = false) :
    (w.run after).2.HasText id text languageId ∧
    ∀ now, ∃ fresh, openText { analyzer, limits } now id text languageId = .ok (.opened, fresh) ∧
      ∀ later,
        (∀ line, ((w.run after).2.step (.relatedLines later id line)).1 =
          (fresh.step (.relatedLines later id line)).1) ∧
        ∀ selection, ((w.run after).2.step (.analyze later id selection)).1 =
          (fresh.step (.analyze later id selection)).1 := by
  have hanalyzer : (Workspace.run { analyzer, limits } before).2.analyzer = analyzer :=
    analyzer_run _ before
  have hrun : (Workspace.run { analyzer, limits } (before ++ [opening])).2 = w := by
    rw [run_concat, hopened]
  have hstored : w.HasText id text languageId := by
    have htext : text ∈ submittedTexts analyzer.limits.maxFileSize (before ++ [opening]) := by
      rw [submittedTexts_concat hsubmits]
      exact List.mem_append_right _ (List.mem_singleton_self _)
    rw [← hanalyzer] at hsubmits
    obtain ⟨now, hopenText⟩ := openText_of_step hsubmits hopened
    refine hasText_of_openText hdistinct htext (fun id s hfound => ?_) hopenText
    obtain ⟨known, hknown, hholds⟩ := exists_holds_of_run analyzer limits before id s hfound
    exact ⟨known, submittedTexts_subset _ _ _ hknown, hholds⟩
  have hroom : 0 < limits.maxOpenDocuments := (hrun ▸ hstored).room
  have hlater : (w.run after).2.analyzer = analyzer := by
    rw [analyzer_run, ← hrun, analyzer_run]
  refine ⟨hstored.run after hquiet, fun now => ?_⟩
  obtain ⟨fresh, hfresh, hfreshAnalyzer, hfreshText⟩ :=
    openText_empty analyzer hroom now id text languageId
  have hsame : (w.run after).2.analyzer = fresh.analyzer := hlater.trans hfreshAnalyzer.symm
  exact ⟨fresh, hfresh, (hstored.run after hquiet).step_eq hfreshText hsame⟩

/-- Two documents are opened, and the first one is asked about. -/
def twoOpened : List Call :=
  [.openText "9:00" "a.js" "x();" "javascript", .openText "9:01" "b.js" "y();" "javascript",
    .relatedLines "9:02" "a.js" 0]

/-- A third document is refused, the first one is asked about again, and the second one is closed. -/
def otherDocuments : List Call :=
  [.openText "9:04" "c.js" "z();" "javascript", .relatedLines "9:05" "a.js" 0, .close "b.js"]

/-- A document that is opened once more with its text is left alone, and its text is stored behind
calls about others as it was. -/
theorem opened_text_is_stored_openedTwice :
    let analyzer : Analyzer := .standard {}
    let limits : SessionLimits := ⟨2, 1⟩
    let opening : Call := .openText "9:03" "a.js" "x();" "javascript"
    let opened := (Workspace.run { analyzer, limits } twoOpened).2.step opening
    opened.1 = .opening "a.js" (.ok .unchanged) ∧
    NoCollision (submittedTexts analyzer.limits.maxFileSize (twoOpened ++ [opening])) ∧
    (∀ e ∈ (opened.2.run otherDocuments).1, e.starts "a.js" = false ∧ e.closes "a.js" = false) ∧
    (opened.2.run otherDocuments).2.HasText "a.js" "x();" "javascript" ∧
    ∃ fresh, openText { analyzer, limits } "9:00" "a.js" "x();" "javascript" = .ok (.opened, fresh) ∧
      ((opened.2.run otherDocuments).2.step (.relatedLines "9:06" "a.js" 0)).1 =
        (fresh.step (.relatedLines "9:06" "a.js" 0)).1 := by
  intro analyzer limits opening opened
  let w := (Workspace.run { analyzer, limits } twoOpened).2
  have hanswer : (w.openText "9:03" "a.js" "x();" "javascript").toOption.map (·.1) =
      some .unchanged := by decide +kernel
  have hopened : opened.1 = .opening "a.js" (.ok .unchanged) := by
    show (w.settle (.opening "a.js")
      ((w.openText "9:03" "a.js" "x();" "javascript").mapError .session)).1 = _
    cases hresult : w.openText "9:03" "a.js" "x();" "javascript" with
    | error e =>
      rw [hresult] at hanswer
      cases hanswer
    | ok settled =>
      rw [hresult] at hanswer
      have houtcome : settled.1 = .unchanged := Option.some.inj hanswer
      rw [← houtcome]
      rfl
  have hdistinct : NoCollision
      (submittedTexts analyzer.limits.maxFileSize (twoOpened ++ [opening])) := by
    unfold NoCollision
    decide +kernel
  have hquiet : ∀ e ∈ (opened.2.run otherDocuments).1,
      e.starts "a.js" = false ∧ e.closes "a.js" = false := by decide +kernel
  obtain ⟨htext, hanswers⟩ := opened_text_is_stored analyzer limits twoOpened otherDocuments opening
    "a.js" "x();" "javascript" .unchanged opened.2 rfl hdistinct (by rw [← hopened]) hquiet
  obtain ⟨fresh, hfresh, hsame⟩ := hanswers "9:00"
  exact ⟨hopened, hdistinct, hquiet, htext, fresh, hfresh, (hsame "9:06").1 0⟩

end Workspace

end LineKin
