import LineKin.Json.Writer
import LineKin.Workspace

/-!
# Results as JSON

How selections, contexts, analyses and the state of open documents are written. Line numbers count
from zero.
-/

namespace LineKin

/-- A selection. -/
def Selection.toJson (s : Selection) : Json :=
  .object [("start_line", .ofNat s.first), ("end_line", .ofNat s.last)]

/-- A context. -/
def Context.toJson (c : Context) : Json :=
  .object
    [("language_id", .string c.languageId),
     ("function_name", .ofString? c.functionName),
     ("class_name", .ofString? c.className),
     ("variables", .ofStrings c.scope),
     ("imports", .ofStrings c.imports)]

/-- An analysis. -/
def Analysis.toJson (a : Analysis) : Json :=
  .object
    [("selection", a.selection.toJson),
     ("related_lines", .ofNats a.related),
     ("context", a.context.toJson)]

/-- A result in the history of a document. -/
def HistoryEntry.toJson (e : HistoryEntry) : Json :=
  .object
    ([("recorded_at", .string e.recordedAt),
      ("selection", e.selection.toJson),
      ("related_lines", .ofNats e.related)] ++
     e.context.toList.map fun context => ("context", context.toJson))

/-- What opening a document did. -/
def OpenOutcome.toJson : OpenOutcome → Json
  | opened => .string "opened"
  | updated => .string "updated"
  | unchanged => .string "unchanged"

/-- An open document with its identifier. -/
def Session.toJson (id : String) (s : Session) : Json :=
  .object
    [("id", .string id),
     ("language_id", .string s.document.languageId),
     ("line_count", .ofNat s.document.lineCount),
     ("content_hash", .string s.digest),
     ("opened_at", .string s.openedAt),
     ("updated_at", .string s.updatedAt),
     ("history_len", .ofNat s.history.length)]

/-- The open documents in the order of their identifiers. -/
def Workspace.summaries (w : Workspace) : List Json :=
  w.sessions.entries.map fun (id, s) => s.toJson id

end LineKin
