import LineKin.CommandLine.Command
import LineKin.Message.Basic
import LineKin.Tool.Conversation

/-!
# Running a command

A run is a function of what it is given: the environment, the files, the standard input, the time, and the
words of the library that reads JSON texts. Its result is what it prints, how it ends, and the files as it
leaves them. A run that fails ends with a report; a command line that is wrong ends with the number two,
and what is wrong is said elsewhere.
-/

namespace LineKin.CommandLine

/-- What a run is given. -/
structure Surroundings where
  /-- The environment variables. -/
  env : Environment
  /-- The files. -/
  files : FileTree
  /-- The standard input. -/
  input : String
  /-- What time it is. -/
  now : Timestamp
  /-- What is said about a message that cannot be read. -/
  words : Decode.Wording

/-- What a run leaves. -/
structure Result where
  /-- The number that it ends with. -/
  exitCode : Nat
  /-- What it printed. -/
  output : String
  /-- The report of a failure. -/
  report : String
  /-- The files. -/
  files : FileTree

/-- Why a run fails: what is said first, and what is behind it. -/
structure Failed where
  /-- What is said first. -/
  message : String
  /-- What is behind it, one thing behind the other. -/
  causes : List String := []
  /-- What was printed before. -/
  printed : String := ""

/-- The failure for a problem. -/
def Failed.ofProblem (p : Problem) : Failed := { message := p.message, causes := p.cause?.toList }

/-- The failure of something larger, of which this was a part. -/
def Failed.within (f : Failed) (message : String) : Failed :=
  { f with message, causes := f.message :: f.causes }

/-- A text of which every line but the first one is moved to the right. -/
def indented (width : Nat) (text : String) : String :=
  let shown (c : Char) : List Char :=
    if c == '\n' then c :: List.replicate width ' ' else [c]
  String.ofList (text.toList.flatMap shown)

/-- The part of a report that lists what is behind a failure. A single cause has no number. -/
def causeLines : List String → String
  | [] => ""
  | [cause] => s!"\nCaused by:\n    {indented 4 cause}\n"
  | causes =>
    let line (cause : String) (i : Nat) : String :=
      s!"{Prompt.numberField i}: {indented 7 cause}\n"
    "\nCaused by:\n" ++ String.join (causes.zipIdx.map fun (cause, i) => line cause i)

/-- The report of a failure. -/
def Failed.report (f : Failed) : String := s!"Error: {f.message}\n" ++ causeLines f.causes

/-- The settings of a run. -/
def settings (s : Surroundings) : Except Failed Settings :=
  (Settings.load s.files s.env).mapError fun e => .ofProblem (.settings e)

/-! ### The analysis -/

/-- A line of what is printed. -/
def printed (text : String) : String := text ++ "\n"

/-- Shows what is related to a selection of a document. -/
def showAnalysis (a : Analyzer) (d : TextDocument) (selection : Selection) (view : View) :
    Except Failed String := do
  let failed (e : DocumentError) : Failed := { message := e.message }
  if view = .lines then
    let related ← (Prompt.numberedLines d (a.relatedLines d selection.first).toList).mapError failed
    .ok (String.join (related.map printed))
  else
    let analysis ← (a.analyze d selection).mapError fun e => { message := e.message }
    match view with
    | .json => .ok (printed analysis.toJson.pretty)
    | _ => (Prompt.build d analysis).mapError failed

/-- Analyses lines of a file, counted from one. -/
def analyze (s : Surroundings) (file : String) (line : Nat) (endLine : Option Nat) (view : View) :
    Except Failed String := do
  let last := endLine.getD line
  if line = 0 then .error { message := "--line is 1-based" }
  else if last < line then
    .error { message := s!"--end-line ({last}) must not be before --line ({line})" }
  else
    let limits := (← settings s).analysis
    let d ← (TextDocument.ofFile s.files file limits.maxFileSize).mapError fun e =>
      { message := e.message }
    if d.lineCount < line then
      .error { message := s!"{file} has {d.lineCount} lines, cannot analyze line {line}" }
    else showAnalysis (.standard limits) d ⟨line - 1, last - 1⟩ view

/-! ### Messages -/

/-- The lines of an input. The text behind the last line break is a line if it is not empty. -/
def inputLines (input : String) : List String :=
  let pieces := input.toList.splitOn '\n'
  let whole := pieces.dropLast.map TextDocument.withoutReturn
  let last := pieces.getLast?.getD []
  (whole ++ if last.isEmpty then [] else [last]).map String.ofList

/-- Answers a line with a line. A blank one has no answer. -/
def answerLine (words : Decode.Wording) (now : Timestamp) (w : Workspace) (line : String) :
    Option String × Workspace :=
  if Text.isBlankText line then (none, w)
  else
    let (reply, w) := w.handleText words now line
    (some reply.toJson.compact, w)

/-- Answers lines one after the other. -/
def answerAll (words : Decode.Wording) (now : Timestamp) (w : Workspace) : List String → List String
  | [] => []
  | line :: rest =>
    let (answer, w) := answerLine words now w line
    answer.toList ++ answerAll words now w rest

/-- The workspace that a run starts with. -/
def workspace (s : Surroundings) : Except Failed Workspace := (settings s).map .ofSettings

/-- Answers the requests of the standard input. -/
def messages (s : Surroundings) : Except Failed String := do
  let w ← workspace s
  .ok (String.join ((answerAll s.words s.now w (inputLines s.input)).map printed))

/-! ### Settings -/

/-- Shows the settings, or writes the defaults to the settings file if there is none. -/
def config (s : Surroundings) (init : Bool) : Except Failed (String × FileTree) := do
  let path := Settings.filePath s.env
  let current ← settings s
  if init then
    if s.files.pathExists path then .ok (printed s!"Config file already exists: {path}", s.files)
    else
      let files ← (Settings.save {} s.files path).mapError fun e => .ofProblem (.settings e)
      .ok (printed s!"Wrote default config to {path}", files)
  else
    let title := printed s!"# {path}"
    match current.toToml? with
    | some text => .ok (title ++ text, s.files)
    | none =>
      .error
        { message := "Failed to render config"
          causes := ["out-of-range value for u64 type"]
          printed := title }

/-! ### The tool server -/

/-- The conversation that a run of the tool server starts. -/
def conversation (s : Surroundings) : Except Failed Tool.Conversation := do
  let settings ← (settings s).mapError fun f =>
    (f.within "Failed to load configuration").within "Failed to create MCP server"
  .ok { server := ⟨s.now, s.files, .ofSettings settings⟩ }

/-- The end of a run of the tool server that has printed something. -/
def endOf (printed : String) : Option Tool.BrokenOff → Except Failed String
  | none => .ok printed
  | some reason => .error { message := reason.message, printed }

/-- Runs the tool server on the standard input. -/
def serve (s : Surroundings) : Except Failed String := do
  let (replies, reason) := (← conversation s).hold (inputLines s.input)
  endOf (String.join (replies.map printed)) reason

/-! ### All commands -/

/-- Runs a command. -/
def runCommand (s : Surroundings) : Command → Except Failed (String × FileTree)
  | .serve => (serve s).map fun output => (output, s.files)
  | .analyze file line endLine view =>
    (analyze s file line endLine view).map fun output => (output, s.files)
  | .messages => (messages s).map fun output => (output, s.files)
  | .config init => config s init

/-- What a run leaves that printed something and left some files, or failed. -/
def Result.ofOutcome (s : Surroundings) : Except Failed (String × FileTree) → Result
  | .ok (output, files) => ⟨0, output, "", files⟩
  | .error failed => ⟨1, failed.printed, failed.report, s.files⟩

/-- Runs a command line. -/
def run (s : Surroundings) (args : List String) : Result :=
  match Invocation.ofArgs args with
  | .wrong => ⟨2, "", "", s.files⟩
  | .version => ⟨0, printed s!"{Tool.info.name} {Tool.version}", "", s.files⟩
  | .run command => Result.ofOutcome s (runCommand s command)

end LineKin.CommandLine
