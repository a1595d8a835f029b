import LineKin.Json.Decode
import LineKin.Message.Encode

/-!
# Messages

A host talks to a workspace in messages. A `Request` asks for one operation, and `Workspace.handle`
answers with a `Reply` and the workspace behind it; an operation that fails is answered with an error.
A request is written as a JSON object whose member `type` says which one it is. `Request.decode`
reads it, and `Reply.toJson` writes the answer.
-/

namespace LineKin

/-- What a host asks for. -/
inductive Request where
  /-- To open a document, or to replace its text. -/
  | openDocument (id text languageId : String)
  /-- To close a document. -/
  | closeDocument (id : String)
  /-- To find the lines related to a line. -/
  | findRelatedLines (id : String) (line : Nat)
  /-- To analyse a selection, with a prompt or without. -/
  | analyzeSelection (id : String) (selection : Selection) (withPrompt : Bool)
  /-- To list the open documents. -/
  | listDocuments
  /-- To list the results for a document. -/
  | history (id : String)
  deriving DecidableEq

/-- What a host is told. -/
inductive Reply where
  /-- A document was opened. -/
  | opened (id : String) (outcome : OpenOutcome)
  /-- A document is not open any more. -/
  | closed (id : String) (wasOpen : Bool)
  /-- The lines related to a line. -/
  | relatedLines (id : String) (line : Nat) (related : List Nat)
  /-- The analysis of a selection. -/
  | analysis (id : String) (result : Analysis) (prompt : Option String)
  /-- The open documents. -/
  | documents (summaries : List Json)
  /-- The results for a document. -/
  | history (id : String) (entries : List HistoryEntry)
  /-- What went wrong. -/
  | error (message : String)

/-! ### Answers -/

/-- The analysis of a selection, and the prompt if it is wanted. The analysis is remembered before the
prompt is made. -/
def Workspace.analyzeFor (w : Workspace) (now : Timestamp) (id : String) (selection : Selection)
    (withPrompt : Bool) : Except Problem (Analysis × Option String) × Workspace :=
  match w.analyze now id selection with
  | .error e => (.error e, w)
  | .ok (analysis, w) =>
    if withPrompt then ((w.promptFor id analysis).map fun prompt => (analysis, some prompt), w)
    else (.ok (analysis, none), w)

/-- Answers a request. -/
def Workspace.handle (w : Workspace) (now : Timestamp) : Request → Reply × Workspace
  | .openDocument id text languageId =>
    match w.openText now id text languageId with
    | .ok (outcome, w) => (.opened id outcome, w)
    | .error e => (.error e.message, w)
  | .closeDocument id =>
    let (wasOpen, w) := w.close id
    (.closed id wasOpen, w)
  | .findRelatedLines id line =>
    match w.relatedLines now id line with
    | .ok (related, w) => (.relatedLines id line related, w)
    | .error e => (.error e.message, w)
  | .analyzeSelection id selection withPrompt =>
    match w.analyzeFor now id selection withPrompt with
    | (.ok (result, prompt), w) => (.analysis id result prompt, w)
    | (.error e, w) => (.error e.message, w)
  | .listDocuments => (.documents w.summaries, w)
  | .history id =>
    match w.history id with
    | .ok entries => (.history id entries, w)
    | .error e => (.error e.message, w)

/-- A reply as JSON. -/
def Reply.toJson : Reply → Json
  | opened id outcome =>
    .object [("type", .string "opened"), ("id", .string id), ("outcome", outcome.toJson)]
  | closed id wasOpen =>
    .object [("type", .string "closed"), ("id", .string id), ("was_open", .bool wasOpen)]
  | relatedLines id line related =>
    .object
      [("type", .string "related_lines"), ("id", .string id), ("line", .ofNat line),
       ("related_lines", .ofNats related)]
  | analysis id result prompt =>
    .object
      ([("type", .string "analysis"), ("id", .string id), ("result", result.toJson)] ++
       prompt.toList.map fun text => ("prompt", .string text))
  | documents summaries =>
    .object [("type", .string "documents"), ("documents", .array summaries)]
  | history id entries =>
    .object
      [("type", .string "history"), ("id", .string id),
       ("entries", .array (entries.map HistoryEntry.toJson))]
  | error message => .object [("type", .string "error"), ("message", .string message)]

/-! ### Reading requests -/

open Decode

/-- A selection. -/
def Selection.record : Record Selection where
  title := "struct Selection"
  fields := [field "start_line" count, field "end_line" count]
  read s := do .ok ⟨← s.required "start_line" 0 count, ← s.required "end_line" 1 count⟩

namespace Request

/-- A selection within a request. -/
def selection : Decoder Selection := Selection.record.decode .wrongLength

/-- The record behind a tag. -/
def records : List (String × Record Request) :=
  [("open_document",
    { title := "struct variant Request::OpenDocument"
      fields := [field "id" text, field "text" text, field "language_id" text]
      read s := do
        .ok (.openDocument (← s.required "id" 0 text) (← s.required "text" 1 text)
          (← s.withDefault "language_id" 2 text Language.plainText)) }),
   ("close_document",
    { title := "struct variant Request::CloseDocument"
      fields := [field "id" text]
      read s := do .ok (.closeDocument (← s.required "id" 0 text)) }),
   ("find_related_lines",
    { title := "struct variant Request::FindRelatedLines"
      fields := [field "id" text, field "line" count]
      read s := do .ok (.findRelatedLines (← s.required "id" 0 text) (← s.required "line" 1 count)) }),
   ("analyze_selection",
    { title := "struct variant Request::AnalyzeSelection"
      fields := [field "id" text, field "selection" selection, field "include_prompt" flag]
      read s := do
        .ok (.analyzeSelection (← s.required "id" 0 text) (← s.required "selection" 1 selection)
          (← s.withDefault "include_prompt" 2 flag false)) }),
   ("list_documents",
    { title := "unit variant Request::ListDocuments"
      fields := []
      read _ := .ok .listDocuments }),
   ("history",
    { title := "struct variant Request::History"
      fields := [field "id" text]
      read s := do .ok (.history (← s.required "id" 0 text)) })]

/-- The record that a tag stands for. -/
def recordOf : Decoder (Record Request)
  | .string tag =>
    match records.find? fun entry => entry.1 == tag with
    | some entry => .ok entry.2
    | none => .error (.unknownTag tag (records.map (·.1)))
  | found => .error (.wrongKind found "variant identifier")

/-- Finds the tag among the members of an object; a tag that is wrong or there twice is reported. -/
def tagOf (found : Option (Record Request)) :
    List (String × Json) → Except DecodeError (Record Request)
  | [] =>
    match found with
    | some record => .ok record
    | none => .error (.missingField "type")
  | (name, value) :: rest =>
    if name == "type" then
      if found.isSome then .error (.duplicateField "type")
      else do tagOf (some (← recordOf value)) rest
    else tagOf found rest

/-- A request. An object has the tag among its members, an array as its first item. -/
def decode : Decoder Request
  | .object members => do
    let record ← tagOf none members
    record.ofMembers (members.filter fun entry => entry.1 != "type")
  | .array [] => .error (.missingField "type")
  | .array (tag :: items) => do (← recordOf tag).ofItems .wrongLength items
  | found => .error (.wrongKind found "internally tagged enum Request")

end Request

/-- Answers a request that comes as a JSON text. What is wrong with a text that is not understood is said in
words of the library that reads it. -/
def Workspace.handleText (words : Wording) (w : Workspace) (now : Timestamp) (text : String) :
    Reply × Workspace :=
  match Decode.ofText Request.decode text with
  | .ok request => w.handle now request
  | .error e => (.error ("Invalid request: " ++ e.message words text), w)

end LineKin
