import LineKin.Tool.Request

/-!
# The tool server

An assistant calls tools by name with an object of arguments, and asks for prompts by name. A call
that the server does not understand is a `CallError`; a call that it understands and cannot carry out
is `refused` with a reason. Documents are read from disk when they are needed and not open.
-/

namespace LineKin.Tool

/-- The answer to the call of a tool. -/
inductive Outcome where
  /-- What the tool found. -/
  | answered (value : Json)
  /-- Why the tool could not do it. -/
  | refused (reason : String)

/-- A call that is not understood. -/
structure CallError where
  /-- The number of the error. -/
  code : Int
  /-- The words for it. -/
  message : String

/-- The error for arguments that are not right. -/
def invalidArguments (message : String) : CallError := ⟨-32602, message⟩

/-- The server's description of itself. -/
structure Info where
  /-- The short name. -/
  name : String
  /-- The full name. -/
  title : String
  /-- The version. -/
  version : String
  /-- How to use the server. -/
  instructions : String

/-- The version of the program. -/
def version : String := "0.1.0"

/-- The server's description of itself. -/
def info : Info where
  name := "related-lines"
  title := "Related Lines - Heuristic Code Relationship Analysis"
  version := version
  instructions :=
    "Finds the lines of a source file related to a target line. " ++
    "Use find_related_lines for a quick lookup and analyze_selection for related lines plus context " ++
    "and a ready-made prompt. Line numbers are 0-based."

/-- What is behind a call: the time, the files, and the open documents. -/
structure Server where
  /-- What time it is. -/
  now : Timestamp
  /-- The files. -/
  files : FileTree
  /-- The open documents. -/
  workspace : Workspace

namespace Server

/-- The server with its documents changed. -/
def withWorkspace (s : Server) (w : Workspace) : Server := { s with workspace := w }

/-- Opens a document from disk unless it is open. -/
def ensureOpen (s : Server) (path : String) : Except Problem Server :=
  if s.workspace.sessions.contains path then .ok s
  else (s.workspace.openFile s.now s.files path).map fun (_, w) => s.withWorkspace w

/-- The document at a path, which is open. -/
def document (s : Server) (path : String) : Except Problem TextDocument :=
  ((s.workspace.session path).map (·.document)).mapError .session

/-- Lines of a document with their texts; lines that the document does not have are left out. -/
def withText (d : TextDocument) (lines : List Nat) : Json :=
  let texts := d.lines.toArray
  .array (lines.filterMap fun i => texts[i]?.map fun text =>
    .object [("line", .ofNat i), ("text", .string text)])

/-- Opens a document with the text of the request, or from disk. -/
def openDocument (s : Server) (r : OpenRequest) : Except Problem (Json × Server) := do
  let (outcome, w) ←
    match r.text with
    | some text =>
      let languageId := r.languageId.getD (Language.ofPath r.path)
      (s.workspace.openText s.now r.path text languageId).mapError fun e => .other e.message
    | none => s.workspace.openFile s.now s.files r.path
  let s := s.withWorkspace w
  let d ← s.document r.path
  .ok (.object
    [("path", .string r.path), ("outcome", outcome.toJson),
     ("language_id", .string d.languageId), ("line_count", .ofNat d.lineCount)], s)

/-- Closes a document. -/
def closeDocument (s : Server) (r : CloseRequest) : Json × Server :=
  let (wasOpen, w) := s.workspace.close r.path
  (.object [("path", .string r.path), ("was_open", .bool wasOpen)], s.withWorkspace w)

/-- Lists the open documents. -/
def listDocuments (s : Server) : Json := .object [("documents", .array s.workspace.summaries)]

/-- Finds the lines related to a line of a document that is open. -/
def findRelatedLines (s : Server) (r : FindRequest) : Except Problem (Json × Server) := do
  let (related, w) ← s.workspace.relatedLines s.now r.path r.line
  let s := s.withWorkspace w
  let d ← s.document r.path
  .ok (.object
    [("path", .string r.path), ("line", .ofNat r.line), ("related_lines", withText d related)], s)

/-- The analysis of a selection in a document that is open: the answer, the selection, and the
prompt if it is wanted. -/
structure Answer where
  /-- The answer as JSON. -/
  value : Json
  /-- The selection. -/
  selection : Selection
  /-- The prompt. -/
  prompt : Option String

/-- Analyses a selection in a document that is open. -/
def analyzeSelection (s : Server) (r : AnalyzeRequest) : Except Problem Answer × Server :=
  let (result, w) := s.workspace.analyzeFor s.now r.path r.selection r.includePrompt
  let s := s.withWorkspace w
  let answer := do
    let (analysis, prompt) ← result
    let d ← s.document r.path
    let value : Json := .object
      ([("path", .string r.path), ("selection", analysis.selection.toJson),
        ("related_lines", withText d analysis.related), ("context", analysis.context.toJson)] ++
       prompt.toList.map fun text => ("prompt", .string text))
    .ok ⟨value, analysis.selection, prompt⟩
  (answer, s)

/-- Opens a document from disk unless it is open, and goes on with it. -/
def opening {α : Type} (s : Server) (path : String)
    (next : Server → Except Problem α × Server) : Except Problem α × Server :=
  match s.ensureOpen path with
  | .ok s => next s
  | .error e => (.error e, s)

/-- Goes on with the server behind a successful operation, or with the server before it. -/
def keeping {α : Type} (s : Server) (result : Except Problem (α × Server)) :
    Except Problem α × Server :=
  match result with
  | .ok (value, s) => (.ok value, s)
  | .error e => (.error e, s)

/-! ### Calls -/

/-- The members of an object in the order of their names, the last of each name. -/
def argumentsOf (args : Json) : List (String × Json) :=
  match args with
  | .object members =>
    (members.foldl (fun c member => c.put member.1 member.2) (∅ : Catalog Json)).entries
  | _ => []

/-- Decodes and checks the arguments of a call, and carries it out. -/
def carryOut {α : Type} (s : Server) (args : Json) (record : Decode.Record α)
    (check : α → Except String Unit) (run : α → Except Problem Json × Server) :
    Except CallError Outcome × Server :=
  match record.ofMembers (argumentsOf args) with
  | .error e => (.error (invalidArguments ("failed to deserialize parameters: " ++ e.message)), s)
  | .ok request =>
    match check request with
    | .error reason => (.ok (.refused reason), s)
    | .ok () =>
      match run request with
      | (.ok value, s) => (.ok (.answered value), s)
      | (.error e, s) => (.ok (.refused e.message), s)

/-- A tool. -/
structure Entry where
  /-- The name it is called by. -/
  name : String
  /-- What it does. -/
  description : String
  /-- Calls it. -/
  call : Server → Json → Except CallError Outcome × Server

/-- The tools in the order of their names. -/
def tools : List Entry :=
  [{ name := "analyze_selection"
     description := "Analyze a selection: related lines, enclosing function and class, nearby variables, imports, and a prompt for explaining the code. Opens the file if needed."
     call := fun s args => s.carryOut args AnalyzeRequest.record AnalyzeRequest.check fun r =>
       s.opening r.path fun s =>
         let (answer, s) := s.analyzeSelection r
         (answer.map (·.value), s) },
   { name := "close_document"
     description := "Close a document and discard its analysis history"
     call := fun s args => s.carryOut args CloseRequest.record CloseRequest.check fun r =>
       let (value, s) := s.closeDocument r
       (.ok value, s) },
   { name := "find_related_lines"
     description := "Find the lines related to a target line (shared variables, called functions, enclosing control flow, imports, class members). Opens the file if needed."
     call := fun s args => s.carryOut args FindRequest.record FindRequest.check fun r =>
       s.opening r.path fun s => s.keeping (s.findRelatedLines r) },
   { name := "list_documents"
     description := "List the open documents"
     call := fun s args => s.carryOut args ListRequest.record ListRequest.check fun _ =>
       (.ok s.listDocuments, s) },
   { name := "open_document"
     description := "Open a document for analysis, or refresh it if already open. Reads the file from disk unless text is supplied."
     call := fun s args => s.carryOut args OpenRequest.record OpenRequest.check fun r =>
       s.keeping (s.openDocument r) }]

/-- Calls a tool. -/
def callTool (s : Server) (name : String) (args : Json) : Except CallError Outcome × Server :=
  match tools.find? fun tool => tool.name == name with
  | some tool => tool.call s args
  | none => (.error (invalidArguments "tool not found"), s)

/-! ### Prompts -/

/-- A prompt that is ready to be sent. -/
structure ReadyPrompt where
  /-- What it is about. -/
  description : String
  /-- The message of the user. -/
  text : String

/-- The name of the prompt that explains a selection. -/
def explainName : String := "explain-selection"

/-- What the prompt that explains a selection does. -/
def explainDescription : String :=
  "Explain a selection of code together with the lines related to it"

/-- A number in the arguments of a prompt; anything else counts as left out. -/
def numberArgument (members : List (String × Json)) (name : String) : Option Nat :=
  match Json.member? name (.object members) with
  | some (.integer n) => if 0 ≤ n then some n.toNat else none
  | _ => none

/-- The prompt that explains a selection. -/
def explainSelection (s : Server) (args : Json) : Except CallError ReadyPrompt × Server :=
  let members := argumentsOf args
  match Json.member? "path" (.object members) with
  | some (.string path) =>
    let r : AnalyzeRequest :=
      { path, startLine := (numberArgument members "start_line").getD 0
        endLine := numberArgument members "end_line", includePrompt := true }
    match r.check with
    | .error reason => (.error (invalidArguments reason), s)
    | .ok () =>
      match s.opening path fun s => s.analyzeSelection r with
      | (.error e, s) => (.error (invalidArguments e.message), s)
      | (.ok answer, s) =>
        let first := wrappingAdd answer.selection.first 1
        let last := wrappingAdd answer.selection.last 1
        (.ok
          { description := s!"Explain lines {first}-{last} of {path}"
            text :=
              s!"Explain what the selected code in '{path}' does and how the related lines connect to it.\n\n" ++
                answer.prompt.getD "" }, s)
  | _ => (.error (invalidArguments "Missing 'path' argument"), s)

/-- Makes a prompt. -/
def callPrompt (s : Server) (name : String) (args : Json) :
    Except CallError ReadyPrompt × Server :=
  if name == explainName then s.explainSelection args
  else (.error (invalidArguments s!"prompt '{name}' not found"), s)

end Server

end LineKin.Tool
