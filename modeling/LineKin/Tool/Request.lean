import LineKin.Message.Basic

/-!
# What tools are asked

Each tool takes one kind of request. A request is decoded from JSON, then its values are checked, and
only then is it carried out. The checks are the same for all tools: a path must not be blank, a
language that is given must not be blank, and a selection must not end before it starts.
-/

namespace LineKin.Tool

open Decode

/-- Asks for a document to be opened, with the given text or from disk. -/
structure OpenRequest where
  /-- The path of the document. -/
  path : String
  /-- Its text, if it is not to be read from disk. -/
  text : Option String
  /-- Its language, if it does not follow from the path. -/
  languageId : Option String

/-- Asks for a document to be closed. -/
structure CloseRequest where
  /-- The path of the document. -/
  path : String

/-- Asks for the open documents. -/
structure ListRequest where

/-- Asks for the lines related to a line. -/
structure FindRequest where
  /-- The path of the document. -/
  path : String
  /-- The line. -/
  line : Nat

/-- Asks for the analysis of a selection. -/
structure AnalyzeRequest where
  /-- The path of the document. -/
  path : String
  /-- The first selected line. -/
  startLine : Nat
  /-- The last selected line, if it is not the first one. -/
  endLine : Option Nat
  /-- Whether the prompt is wanted. -/
  includePrompt : Bool

/-- The selection that an analysis is asked for. -/
def AnalyzeRequest.selection (r : AnalyzeRequest) : Selection :=
  ⟨r.startLine, r.endLine.getD r.startLine⟩

/-! ### Checks -/

/-- Refuses a blank path. -/
def checkPath (path : String) : Except String Unit :=
  if Text.isBlankText path then .error (InputError.empty "path").message else .ok ()

/-- Checks a request to open a document. -/
def OpenRequest.check (r : OpenRequest) : Except String Unit := do
  checkPath r.path
  if r.languageId.any Text.isBlankText then .error "language_id cannot be empty when provided"
  else .ok ()

/-- Checks a request to close a document. -/
def CloseRequest.check (r : CloseRequest) : Except String Unit := checkPath r.path

/-- Checks a request for the open documents. -/
def ListRequest.check (_ : ListRequest) : Except String Unit := .ok ()

/-- Checks a request for related lines. -/
def FindRequest.check (r : FindRequest) : Except String Unit := checkPath r.path

/-- Checks a request for an analysis. -/
def AnalyzeRequest.check (r : AnalyzeRequest) : Except String Unit := do
  checkPath r.path
  match r.endLine with
  | some last =>
    if last < r.startLine then
      .error (InputError.outOfBounds "end_line" s!"at least start_line ({r.startLine})"
        (toString last)).message
    else .ok ()
  | none => .ok ()

/-! ### Decoding -/

/-- Reads a request to open a document. -/
def OpenRequest.record : Record OpenRequest where
  title := "struct OpenDocumentRequest"
  fields :=
    [field "path" Decode.text, field "text" (orNull Decode.text),
     field "language_id" (orNull Decode.text)]
  read s := do
    .ok
      { path := ← s.required "path" 0 Decode.text
        text := ← s.withDefault "text" 1 (orNull Decode.text) none
        languageId := ← s.withDefault "language_id" 2 (orNull Decode.text) none }

/-- Reads a request to close a document. -/
def CloseRequest.record : Record CloseRequest where
  title := "struct CloseDocumentRequest"
  fields := [field "path" text]
  read s := do .ok { path := ← s.required "path" 0 text }

/-- Reads a request for the open documents. -/
def ListRequest.record : Record ListRequest where
  title := "struct ListDocumentsRequest"
  fields := []
  read _ := .ok {}

/-- Reads a request for related lines. -/
def FindRequest.record : Record FindRequest where
  title := "struct FindRelatedLinesRequest"
  fields := [field "path" text, field "line" count]
  read s := do
    .ok { path := ← s.required "path" 0 text, line := ← s.required "line" 1 count }

/-- Reads a request for an analysis. The prompt is wanted unless the request says otherwise. -/
def AnalyzeRequest.record : Record AnalyzeRequest where
  title := "struct AnalyzeSelectionRequest"
  fields :=
    [field "path" text, field "start_line" count, field "end_line" (orNull count),
     field "include_prompt" flag]
  read s := do
    .ok
      { path := ← s.required "path" 0 text
        startLine := ← s.required "start_line" 1 count
        endLine := ← s.withDefault "end_line" 2 (orNull count) none
        includePrompt := ← s.withDefault "include_prompt" 3 flag true }

/-! ### Encoding -/

/-- A request to open a document, as JSON. -/
def OpenRequest.toJson (r : OpenRequest) : Json :=
  .object
    [("path", .string r.path), ("text", .ofString? r.text),
     ("language_id", .ofString? r.languageId)]

/-- A request to close a document, as JSON. -/
def CloseRequest.toJson (r : CloseRequest) : Json := .object [("path", .string r.path)]

/-- A request for the open documents, as JSON. -/
def ListRequest.toJson (_ : ListRequest) : Json := .object []

/-- A request for related lines, as JSON. -/
def FindRequest.toJson (r : FindRequest) : Json :=
  .object [("path", .string r.path), ("line", .ofNat r.line)]

/-- A request for an analysis, as JSON. -/
def AnalyzeRequest.toJson (r : AnalyzeRequest) : Json :=
  .object
    [("path", .string r.path), ("start_line", .ofNat r.startLine),
     ("end_line", (r.endLine.map Json.ofNat).getD .null),
     ("include_prompt", .bool r.includePrompt)]

end LineKin.Tool
