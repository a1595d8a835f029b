import LineKin.Message.Basic
import LineKin.Proofs.Workspace.Frame

/-!
# What a message does

A message does to the workspace what the operation does that it asks for (`handle_snd`), so what is
known of operations and of runs holds of messages too.

An operation that fails leaves the workspace as it was. A message that asks for an analysis with a
prompt is the one that takes two steps, and the first one is remembered before the second one is tried;
but the prompt of an analysis can always be made (`promptFor_of_analyze`), so such a message fails only
if the analysis does (`analyzeFor_cases`). Hence **`handle_error_leaves_workspace`**: a message that is
answered with an error changes nothing.
-/

namespace LineKin

/-- The identifier that a request is about. -/
def Request.id? : Request → Option String
  | .openDocument id _ _ | .closeDocument id | .findRelatedLines id _ | .analyzeSelection id _ _
  | .history id => some id
  | .listDocuments => none

/-- The operation that a request asks for. -/
def Request.call (now : Timestamp) : Request → Workspace.Call
  | .openDocument id text languageId => .openText now id text languageId
  | .closeDocument id => .close id
  | .findRelatedLines id line => .relatedLines now id line
  | .analyzeSelection id selection _ => .analyze now id selection
  | .listDocuments => .list
  | .history id => .history id

theorem Request.id?_call (now : Timestamp) (r : Request) : (r.call now).id? = r.id? := by
  cases r <;> rfl

namespace Workspace

variable {w w' : Workspace} {now : Timestamp} {id : String} {selection : Selection} {r : Request}
  {analysis : Analysis} {withPrompt : Bool} {s : Session} {entry : HistoryEntry}

/-! ### An analysis with a prompt -/

/-- What a prompt shows does not depend on what is remembered. -/
theorem promptFor_remember : (w.remember id s entry).promptFor id analysis =
    (Prompt.build s.document analysis).mapError fun e =>
      .analysis ⟨analysis.selection.first, e.message⟩ := by
  rw [promptFor, session, find?_remember, if_pos rfl]
  rfl

/-- The prompt can be made behind every analysis. -/
theorem promptFor_of_analyze (h : w.analyze now id selection = .ok (analysis, w')) :
    ∃ prompt, w'.promptFor id analysis = .ok prompt := by
  obtain ⟨s, -, hline, hanalysis, rfl⟩ := analyze_eq_ok h
  obtain ⟨prompt, hprompt⟩ := Analyzer.build_of_analyze hline hanalysis
  exact ⟨prompt, by rw [promptFor_remember, hprompt, mapError_ok]⟩

/-- An analysis with or without a prompt fails if the analysis does, and otherwise gives what it gives.
The workspace behind it is that of the analysis. -/
theorem analyzeFor_cases (w : Workspace) (now : Timestamp) (id : String) (selection : Selection)
    (withPrompt : Bool) :
    (∃ e, w.analyze now id selection = .error e ∧
      w.analyzeFor now id selection withPrompt = (.error e, w)) ∨
    ∃ analysis w' prompt, w.analyze now id selection = .ok (analysis, w') ∧
      w.analyzeFor now id selection withPrompt = (.ok (analysis, prompt), w') := by
  cases h : w.analyze now id selection with
  | error e => exact .inl ⟨e, rfl, by rw [analyzeFor, h]⟩
  | ok found =>
    obtain ⟨analysis, w'⟩ := found
    cases withPrompt with
    | false => exact .inr ⟨analysis, w', none, rfl, by rw [analyzeFor, h]; rfl⟩
    | true =>
      obtain ⟨prompt, hprompt⟩ := promptFor_of_analyze h
      refine .inr ⟨analysis, w', some prompt, rfl, ?_⟩
      rw [analyzeFor, h]
      simp only [if_true, hprompt]
      rfl

/-! ### Messages and operations -/

/-- **A message does what its operation does.** -/
theorem handle_snd (w : Workspace) (now : Timestamp) (r : Request) :
    (w.handle now r).2 = (w.step (r.call now)).2 := by
  cases r with
  | openDocument id text languageId =>
    rw [handle, Request.call, step]
    cases w.openText now id text languageId <;> rfl
  | closeDocument id => rfl
  | findRelatedLines id line =>
    rw [handle, Request.call, step]
    cases w.relatedLines now id line <;> rfl
  | analyzeSelection id selection withPrompt =>
    rw [handle, Request.call, step]
    rcases analyzeFor_cases w now id selection withPrompt with
      ⟨e, hanalyze, hfor⟩ | ⟨analysis, w', prompt, hanalyze, hfor⟩
    · rw [hfor, hanalyze]
      rfl
    · rw [hfor, hanalyze]
      rfl
  | listDocuments => rfl
  | history id =>
    rw [handle, Request.call, step]
    cases w.history id <;> rfl

theorem moves_handle (w : Workspace) (now : Timestamp) (r : Request) :
    ∃ e : Event, e.id? = r.id? ∧ w.Moves e (w.handle now r).2 := by
  refine ⟨(w.step (r.call now)).1, ?_, ?_⟩
  · rw [id?_step, Request.id?_call]
  · rw [handle_snd]
    exact moves_step w _

/-! ### Messages that fail -/

/-- A request that is answered with an error changes nothing. -/
theorem eq_of_handle_error {message : String} (h : w.handle now r = (.error message, w')) :
    w' = w := by
  cases r with
  | openDocument id text languageId =>
    rw [handle] at h
    split at h
    · cases h
    · exact (Prod.mk.inj h).2.symm
  | closeDocument id => cases h
  | findRelatedLines id line =>
    rw [handle] at h
    split at h
    · cases h
    · exact (Prod.mk.inj h).2.symm
  | analyzeSelection id selection withPrompt =>
    rw [handle] at h
    rcases analyzeFor_cases w now id selection withPrompt with ⟨e, -, hfor⟩ | ⟨_, _, _, -, hfor⟩
    · rw [hfor] at h
      exact (Prod.mk.inj h).2.symm
    · -- the analysis is remembered by now, but its prompt has not failed
      rw [hfor] at h
      cases h
  | listDocuments => cases h
  | history id =>
    rw [handle] at h
    split at h
    · cases h
    · exact (Prod.mk.inj h).2.symm

/-- **A message that fails changes nothing**, be it a request or a text: what is open, the texts, their
digests and times and all results are the same as before. -/
theorem handle_error_leaves_workspace (w : Workspace) (now : Timestamp) :
    (∀ (r : Request) (message : String) (w' : Workspace),
      w.handle now r = (.error message, w') → w' = w) ∧
    ∀ (words : Decode.Wording) (text message : String) (w' : Workspace),
      w.handleText words now text = (.error message, w') → w' = w := by
  refine ⟨fun r message w' h => eq_of_handle_error h, fun words text message w' h => ?_⟩
  rw [handleText] at h
  split at h
  · exact eq_of_handle_error h
  · exact (Prod.mk.inj h).2.symm

/-- A document of one line that was asked about once. -/
def askedOnce : Workspace :=
  (Workspace.run { analyzer := .standard {}, limits := {} }
    [.openText "9:00" "a.js" "x();" "javascript", .relatedLines "9:01" "a.js" 0]).2

/-- A question about a line behind the end, as a text. -/
def questionBehindEnd : String :=
  "\x7b\"type\":\"find_related_lines\",\"id\":\"a.js\",\"line\":7\x7d"

/-- An analysis with a prompt that starts behind the end is refused, as is a question about such a line
that comes as a text. -/
theorem handle_error_leaves_workspace_behindEnd :
    let request : Request := .analyzeSelection "a.js" ⟨7, 0⟩ true
    let message := "Document error: Line 7 is out of range (document has 1 lines)"
    ((askedOnce.handle "9:02" request).1 = .error message ∧
      ∀ words, (askedOnce.handleText words "9:02" questionBehindEnd).1 = .error message) ∧
    (askedOnce.handle "9:02" request).2 = askedOnce ∧
    ∀ words, (askedOnce.handleText words "9:02" questionBehindEnd).2 = askedOnce := by
  intro request message
  have hrequest : (askedOnce.handle "9:02" request).1 = .error message := by rfl
  have hdecode : Decode.ofText Request.decode questionBehindEnd = .ok (.findRelatedLines "a.js" 7) := by
    rfl
  have htext : ∀ words, (askedOnce.handleText words "9:02" questionBehindEnd).1 = .error message := by
    intro words
    rw [handleText, hdecode]
    rfl
  obtain ⟨hhandle, hhandleText⟩ := handle_error_leaves_workspace askedOnce "9:02"
  exact ⟨⟨hrequest, htext⟩, hhandle request message _ (Prod.ext hrequest rfl),
    fun words => hhandleText words questionBehindEnd message _ (Prod.ext (htext words) rfl)⟩

end Workspace

end LineKin
