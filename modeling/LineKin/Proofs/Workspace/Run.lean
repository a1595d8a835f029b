import LineKin.Message.Encode
import LineKin.Proofs.Catalog
import LineKin.Proofs.Document.Reading
import Mathlib.Data.List.Induction

/-!
# Runs of a workspace

A `Call` is one of the operations on a workspace, and an `Event` is what its caller sees: what was
asked, and the answer. `Workspace.step` carries out a call, and `Workspace.run` one call after the
other.

All that an event can do to a workspace is said once, in `Workspace.Moves`: a document is opened or its
text replaced, one is closed, a result is remembered, or everything stays as it is (`moves_step`). A
property of traces and workspaces that every such move keeps holds after any run (`run_induction`).
-/

namespace LineKin.Workspace

/-- A call of an operation, with the time and the files that it meets. -/
inductive Call where
  /-- To open a document, or to replace its text. -/
  | openText (now : Timestamp) (id text languageId : String)
  /-- To open the document of a file under the file's path. -/
  | openFile (now : Timestamp) (files : FileTree) (path : String)
  /-- To close a document. -/
  | close (id : String)
  /-- To find the lines related to a line. -/
  | relatedLines (now : Timestamp) (id : String) (line : Nat)
  /-- To analyse a selection. -/
  | analyze (now : Timestamp) (id : String) (selection : Selection)
  /-- To list the open documents. -/
  | list
  /-- To list the results for a document. -/
  | history (id : String)

/-- A call and its answer, as the caller sees them. -/
inductive Event where
  /-- A document was to be opened. -/
  | opening (id : String) (answer : Except Problem OpenOutcome)
  /-- A document was closed, or was not open. -/
  | closing (id : String) (wasOpen : Bool)
  /-- The lines related to a line were asked for. -/
  | finding (now : Timestamp) (id : String) (line : Nat) (answer : Except Problem (List Nat))
  /-- A selection was to be analysed. -/
  | analysing (now : Timestamp) (id : String) (selection : Selection)
    (answer : Except Problem Analysis)
  /-- The open documents were listed. -/
  | listing (summaries : List Json)
  /-- The results for a document were asked for. -/
  | recalling (id : String) (answer : Except SessionError (List HistoryEntry))

/-! ### Calls one after the other -/

/-- The event of an operation that may fail, and the workspace after it. -/
def settle {ε α : Type} (w : Workspace) (event : Except ε α → Event) :
    Except ε (α × Workspace) → Event × Workspace
  | .ok (answer, w') => (event (.ok answer), w')
  | .error e => (event (.error e), w)

/-- Carries out a call. -/
def step (w : Workspace) : Call → Event × Workspace
  | .openText now id text languageId =>
    w.settle (.opening id) ((w.openText now id text languageId).mapError .session)
  | .openFile now files path => w.settle (.opening path) (w.openFile now files path)
  | .close id => (.closing id (w.close id).1, (w.close id).2)
  | .relatedLines now id line => w.settle (.finding now id line) (w.relatedLines now id line)
  | .analyze now id selection =>
    w.settle (.analysing now id selection) (w.analyze now id selection)
  | .list => (.listing w.summaries, w)
  | .history id => (.recalling id (w.history id), w)

/-- Carries out calls one after the other: what their callers saw, and the workspace in the end. -/
def run (w : Workspace) : List Call → List Event × Workspace
  | [] => ([], w)
  | call :: calls =>
    let next := w.step call
    let later := next.2.run calls
    (next.1 :: later.1, later.2)

theorem run_append (w : Workspace) (calls more : List Call) : w.run (calls ++ more) =
    ((w.run calls).1 ++ ((w.run calls).2.run more).1, ((w.run calls).2.run more).2) := by
  induction calls generalizing w with
  | nil => rfl
  | cons call calls ih =>
    simp only [List.cons_append, run, ih]

/-! ### Operations that succeed -/

variable {w w' : Workspace} {now : Timestamp} {id path text languageId : String} {line : Nat}
  {selection : Selection} {files : FileTree} {outcome : OpenOutcome}

/-- What opening a document does: nothing, if it is open with this digest and language; otherwise a
session without results is put in its place. A new session needs room. -/
theorem openText_eq_ok (h : w.openText now id text languageId = .ok (outcome, w')) :
    (outcome = .unchanged ∧ w' = w ∧ ∃ s, w.sessions.find? id = some s ∧
      s.digest = Digest.ofText text ∧ s.document.languageId = languageId) ∨
    ∃ s : Session, outcome ≠ .unchanged ∧ w' = { w with sessions := w.sessions.put id s } ∧
      s.document = .ofText text languageId ∧ s.digest = Digest.ofText text ∧ s.history = [] ∧
      (w.sessions.contains id ∨ w.sessions.size < w.limits.maxOpenDocuments) := by
  rw [openText] at h
  cases hfound : w.sessions.find? id with
  | none =>
    simp only [hfound] at h
    split at h
    · cases h
    · rename_i hroom
      obtain ⟨rfl, rfl⟩ := Prod.mk.inj (Except.ok.inj h)
      exact .inr ⟨_, nofun, rfl, rfl, rfl, rfl, .inr (Nat.lt_of_not_le hroom)⟩
  | some s =>
    have hopen : w.sessions.contains id := by rw [Catalog.contains_eq, hfound, Option.isSome_some]
    simp only [hfound] at h
    split at h
    · rename_i hsame
      rw [Bool.and_eq_true, beq_iff_eq, beq_iff_eq] at hsame
      obtain ⟨rfl, rfl⟩ := Prod.mk.inj (Except.ok.inj h)
      exact .inl ⟨rfl, rfl, s, rfl, hsame.1, hsame.2⟩
    · obtain ⟨rfl, rfl⟩ := Prod.mk.inj (Except.ok.inj h)
      exact .inr ⟨_, nofun, rfl, rfl, rfl, rfl, .inl hopen⟩

/-- A file is opened by opening the text of its document. -/
theorem openFile_eq_ok (h : w.openFile now files path = .ok (outcome, w')) :
    ∃ document : TextDocument,
      TextDocument.ofFile files path w.analyzer.limits.maxFileSize = .ok document ∧
      w.openText now path document.text document.languageId = .ok (outcome, w') := by
  obtain ⟨document, hdocument, h⟩ := eq_ok_of_bind h
  exact ⟨document, eq_ok_of_mapError hdocument, eq_ok_of_mapError h⟩

theorem sessionWithLine_eq_ok {s : Session} (h : w.sessionWithLine id line = .ok s) :
    w.sessions.find? id = some s ∧ line < s.document.lineCount := by
  obtain ⟨s', hs, h⟩ := eq_ok_of_bind h
  have hfound := eq_ok_of_mapError hs
  split at h
  · cases h
  · rename_i hline
    obtain rfl := Except.ok.inj h
    rw [session] at hfound
    split at hfound
    · rename_i hfind
      obtain rfl := Except.ok.inj hfound
      exact ⟨hfind, Nat.lt_of_not_le hline⟩
    · cases hfound

/-- Lines are found for a line of an open document, and remembered. -/
theorem relatedLines_eq_ok {related : List Nat}
    (h : w.relatedLines now id line = .ok (related, w')) :
    ∃ s, w.sessions.find? id = some s ∧ line < s.document.lineCount ∧
      related = (w.analyzer.relatedLines s.document line).toList ∧
      w' = w.remember id s ⟨now, .line line, related, none⟩ := by
  obtain ⟨s, hs, h⟩ := eq_ok_of_bind h
  obtain ⟨hfound, hline⟩ := sessionWithLine_eq_ok hs
  obtain ⟨rfl, rfl⟩ := Prod.mk.inj (Except.ok.inj h)
  exact ⟨s, hfound, hline, rfl, rfl⟩

/-- A selection is analysed that starts on a line of an open document, and the analysis is
remembered. -/
theorem analyze_eq_ok {analysis : Analysis} (h : w.analyze now id selection = .ok (analysis, w')) :
    ∃ s, w.sessions.find? id = some s ∧ selection.first < s.document.lineCount ∧
      w.analyzer.analyze s.document selection = .ok analysis ∧
      w' = w.remember id s ⟨now, selection, analysis.related, some analysis.context⟩ := by
  obtain ⟨s, hs, h⟩ := eq_ok_of_bind h
  obtain ⟨hfound, hline⟩ := sessionWithLine_eq_ok hs
  obtain ⟨analysis', hanalysis, h⟩ := eq_ok_of_bind h
  obtain ⟨rfl, rfl⟩ := Prod.mk.inj (Except.ok.inj h)
  exact ⟨s, hfound, hline, eq_ok_of_mapError hanalysis, rfl⟩

/-! ### What an event does -/

namespace Event

/-- A document was opened, or its text replaced. -/
def starts (id : String) : Event → Bool
  | opening name (.ok outcome) => name == id && outcome != .unchanged
  | _ => false

/-- A document was closed. -/
def closes (id : String) : Event → Bool
  | closing name _ => name == id
  | _ => false

/-- The result that was found for a document. -/
def result? (id : String) : Event → Option HistoryEntry
  | finding now name line (.ok related) =>
    if name = id then some ⟨now, .line line, related, none⟩ else none
  | analysing now name selection (.ok analysis) =>
    if name = id then some ⟨now, selection, analysis.related, some analysis.context⟩ else none
  | _ => none

/-- The identifier that an event is about. -/
def id? : Event → Option String
  | opening id _ | closing id _ | finding _ id _ _ | analysing _ id _ _ | recalling id _ => some id
  | listing _ => none

/-- Nothing was opened, closed or found for a document. -/
structure Spares (e : Event) (id : String) : Prop where
  /-- It was not opened, and its text was not replaced. -/
  starts_eq : e.starts id = false
  /-- It was not closed. -/
  closes_eq : e.closes id = false
  /-- No result was found for it. -/
  result?_eq : e.result? id = none

/-- An event that is about another document spares this one. -/
theorem spares_of_id?_ne {e : Event} {id : String} (h : e.id? ≠ some id) : e.Spares id := by
  have hne : ∀ {name}, e.id? = some name → name ≠ id := by
    rintro name hname rfl
    exact h hname
  cases e with
  | opening name answer =>
    cases answer <;> exact ⟨by simp [starts, hne rfl], rfl, rfl⟩
  | closing name wasOpen => exact ⟨rfl, by simp [closes, hne rfl], rfl⟩
  | finding now name line answer =>
    cases answer <;> exact ⟨rfl, rfl, by simp [result?, hne rfl]⟩
  | analysing now name selection answer =>
    cases answer <;> exact ⟨rfl, rfl, by simp [result?, hne rfl]⟩
  | listing summaries => exact ⟨rfl, rfl, rfl⟩
  | recalling name answer => exact ⟨rfl, rfl, rfl⟩

end Event

/-- What an event makes of a workspace. -/
inductive Moves (w : Workspace) : Event → Workspace → Prop where
  /-- A document was opened, or its text replaced. -/
  | started {id : String} {outcome : OpenOutcome} {s : Session} (hchanged : outcome ≠ .unchanged)
      (hhistory : s.history = [])
      (hroom : w.sessions.contains id ∨ w.sessions.size < w.limits.maxOpenDocuments) :
      Moves w (.opening id (.ok outcome)) { w with sessions := w.sessions.put id s }
  /-- A document was closed. -/
  | closed {id : String} :
      Moves w (.closing id (w.sessions.contains id)) { w with sessions := w.sessions.drop id }
  /-- Related lines were found. -/
  | found {now : Timestamp} {id : String} {line : Nat} {s : Session} {related : List Nat}
      (hopen : w.sessions.find? id = some s) (hline : line < s.document.lineCount)
      (hrelated : related = (w.analyzer.relatedLines s.document line).toList) :
      Moves w (.finding now id line (.ok related)) (w.remember id s ⟨now, .line line, related, none⟩)
  /-- A selection was analysed. -/
  | analysed {now : Timestamp} {id : String} {selection : Selection} {s : Session}
      {analysis : Analysis} (hopen : w.sessions.find? id = some s)
      (hline : selection.first < s.document.lineCount)
      (hanalysis : w.analyzer.analyze s.document selection = .ok analysis) :
      Moves w (.analysing now id selection (.ok analysis))
        (w.remember id s ⟨now, selection, analysis.related, some analysis.context⟩)
  /-- Nothing was done. -/
  | idle {e : Event} (hspares : ∀ id, e.Spares id) : Moves w e w

theorem moves_openText (h : w.openText now id text languageId = .ok (outcome, w')) :
    w.Moves (.opening id (.ok outcome)) w' := by
  rcases openText_eq_ok h with ⟨rfl, rfl, -⟩ | ⟨s, hchanged, rfl, -, -, hhistory, hroom⟩
  · exact .idle fun name => ⟨by simp [Event.starts], rfl, rfl⟩
  · exact .started hchanged hhistory hroom

theorem moves_settle {ε α : Type} {event : Except ε α → Event} {result : Except ε (α × Workspace)}
    (hok : ∀ answer w', result = .ok (answer, w') → w.Moves (event (.ok answer)) w')
    (herror : ∀ e id, (event (.error e)).Spares id) :
    w.Moves (w.settle event result).1 (w.settle event result).2 := by
  cases result with
  | ok settled => exact hok settled.1 settled.2 rfl
  | error e => exact .idle (herror e)

/-- **All that a call can do.** -/
theorem moves_step (w : Workspace) (call : Call) : w.Moves (w.step call).1 (w.step call).2 := by
  cases call with
  | openText now id text languageId =>
    refine moves_settle (fun outcome w' hopen => ?_) fun _ _ => ⟨rfl, rfl, rfl⟩
    exact moves_openText (eq_ok_of_mapError hopen)
  | openFile now files path =>
    refine moves_settle (fun outcome w' hopen => ?_) fun _ _ => ⟨rfl, rfl, rfl⟩
    obtain ⟨document, -, htext⟩ := openFile_eq_ok hopen
    exact moves_openText htext
  | close id => exact .closed
  | relatedLines now id line =>
    refine moves_settle (fun related w' hfind => ?_) fun _ _ => ⟨rfl, rfl, rfl⟩
    obtain ⟨s, hopen, hline, hrelated, rfl⟩ := relatedLines_eq_ok hfind
    exact .found hopen hline hrelated
  | analyze now id selection =>
    refine moves_settle (fun analysis w' hanalyze => ?_) fun _ _ => ⟨rfl, rfl, rfl⟩
    obtain ⟨s, hopen, hline, hanalysis, rfl⟩ := analyze_eq_ok hanalyze
    exact .analysed hopen hline hanalysis
  | list => exact .idle fun _ => ⟨rfl, rfl, rfl⟩
  | history id => exact .idle fun _ => ⟨rfl, rfl, rfl⟩

/-- What holds at first and is kept by all that events do holds after any run. -/
theorem run_induction {holds : List Event → Workspace → Prop} (hstart : holds [] w)
    (hmoves : ∀ {trace w e w'}, holds trace w → Moves w e w' → holds (trace ++ [e]) w')
    (calls : List Call) : holds (w.run calls).1 (w.run calls).2 := by
  induction calls using List.reverseRecOn with
  | nil => exact hstart
  | append_singleton calls call ih =>
    rw [run_append]
    exact hmoves ih (moves_step _ call)

end LineKin.Workspace
