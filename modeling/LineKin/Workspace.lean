import LineKin.Analysis.Prompt
import LineKin.Catalog
import LineKin.Digest
import LineKin.Document.File
import LineKin.Problem

/-!
# Open documents

A `Workspace` keeps the documents that are open, each under an identifier, with the results that
were found for it. A document that is opened again with the same text and language stays as it is;
with another one its results are forgotten. No more documents and no more results are kept than the
limits allow, and the oldest results go first.

An operation that fails leaves the workspace as it was, so it gives no new one. What time it is comes
from outside and is only written down.
-/

namespace LineKin

/-- A moment, as it is written down. -/
abbrev Timestamp := String

/-- A result that was found for a document. -/
structure HistoryEntry where
  /-- When it was found. -/
  recordedAt : Timestamp
  /-- What was asked about. -/
  selection : Selection
  /-- The related lines. -/
  related : List Nat
  /-- The context, if it was asked for. -/
  context : Option Context
  deriving DecidableEq

/-- An open document. -/
structure Session where
  /-- The document. -/
  document : TextDocument
  /-- The digest of the text it was opened with. -/
  digest : String
  /-- When it was first opened. -/
  openedAt : Timestamp
  /-- When its text was last replaced. -/
  updatedAt : Timestamp
  /-- The results since then, the latest one last. -/
  history : List HistoryEntry := []
  deriving DecidableEq

/-- What opening a document did. -/
inductive OpenOutcome where
  /-- It was not open before. -/
  | opened
  /-- It was open with another text or language. -/
  | updated
  /-- It was open with this text and language. -/
  | unchanged
  deriving DecidableEq

/-- The last `limit` elements of a list. -/
def lastOf {α : Type} (limit : Nat) (list : List α) : List α := list.drop (list.length - limit)

/-- The session with one more result, of at most `limit`. -/
def Session.record (s : Session) (entry : HistoryEntry) (limit : Nat) : Session :=
  { s with history := lastOf limit (s.history ++ [entry]) }

/-- The documents that are open. -/
structure Workspace where
  /-- What finds the related lines. -/
  analyzer : Analyzer
  /-- The limits. -/
  limits : SessionLimits
  /-- The open documents by identifier. -/
  sessions : Catalog Session := ∅

namespace Workspace

/-- A workspace without documents. -/
def ofSettings (s : Settings) : Workspace :=
  { analyzer := Analyzer.standard s.analysis, limits := s.session }

/-- An open document. -/
def session (w : Workspace) (id : String) : Except SessionError Session :=
  match w.sessions.find? id with
  | some s => .ok s
  | none => .error (.notOpen id)

/-- Opens a document, or replaces its text. -/
def openText (w : Workspace) (now : Timestamp) (id text languageId : String) :
    Except SessionError (OpenOutcome × Workspace) :=
  let digest := Digest.ofText text
  match w.sessions.find? id with
  | some s =>
    if s.digest == digest && s.document.languageId == languageId then .ok (.unchanged, w)
    else
      let s : Session :=
        { document := .ofText text languageId, digest, openedAt := s.openedAt, updatedAt := now }
      .ok (.updated, { w with sessions := w.sessions.put id s })
  | none =>
    if w.limits.maxOpenDocuments ≤ w.sessions.size then
      .error (.limitReached id w.limits.maxOpenDocuments)
    else
      let s : Session :=
        { document := .ofText text languageId, digest, openedAt := now, updatedAt := now }
      .ok (.opened, { w with sessions := w.sessions.put id s })

/-- Opens the document of a file under the file's path. -/
def openFile (w : Workspace) (now : Timestamp) (files : FileTree) (path : String) :
    Except Problem (OpenOutcome × Workspace) := do
  let document ←
    (TextDocument.ofFile files path w.analyzer.limits.maxFileSize).mapError .document
  (w.openText now path document.text document.languageId).mapError .session

/-- Closes a document; also says whether it was open. -/
def close (w : Workspace) (id : String) : Bool × Workspace :=
  (w.sessions.contains id, { w with sessions := w.sessions.drop id })

/-- The results for a document, the latest one last. -/
def history (w : Workspace) (id : String) : Except SessionError (List HistoryEntry) :=
  (w.session id).map (·.history)

/-- The session of a document that has a given line. -/
def sessionWithLine (w : Workspace) (id : String) (line : Nat) : Except Problem Session := do
  let s ← (w.session id).mapError .session
  if s.document.lineCount ≤ line then
    .error (.document (.lineOutOfRange line s.document.lineCount))
  else .ok s

/-- The workspace with one more result for a session. -/
def remember (w : Workspace) (id : String) (s : Session) (entry : HistoryEntry) : Workspace :=
  { w with sessions := w.sessions.put id (s.record entry w.limits.historyLimit) }

/-- Finds the lines related to a line of a document. -/
def relatedLines (w : Workspace) (now : Timestamp) (id : String) (line : Nat) :
    Except Problem (List Nat × Workspace) := do
  let s ← w.sessionWithLine id line
  let related := (w.analyzer.relatedLines s.document line).toList
  .ok (related, w.remember id s ⟨now, .line line, related, none⟩)

/-- Analyses a selection in a document. -/
def analyze (w : Workspace) (now : Timestamp) (id : String) (selection : Selection) :
    Except Problem (Analysis × Workspace) := do
  let s ← w.sessionWithLine id selection.first
  let analysis ← (w.analyzer.analyze s.document selection).mapError .analysis
  .ok (analysis,
    w.remember id s ⟨now, selection, analysis.related, some analysis.context⟩)

/-- The prompt of an analysis of a document. -/
def promptFor (w : Workspace) (id : String) (analysis : Analysis) : Except Problem String := do
  let s ← (w.session id).mapError .session
  (Prompt.build s.document analysis).mapError fun e =>
    .analysis ⟨analysis.selection.first, e.message⟩

end Workspace

end LineKin
