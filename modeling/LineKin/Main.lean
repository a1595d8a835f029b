import LineKin.CommandLine.Run
import LineKin.Moment
import Std.Time.DateTime.Timestamp

/-!
# The program

What a run does is decided by `CommandLine.run` and the functions it is made of. Here the environment,
the clock and the files that a run asks for are looked up, and what it leaves is printed and stored.
The two commands that talk to someone answer each line as soon as it is there.
-/

namespace LineKin.CommandLine

/-- The environment variables that a run looks at. -/
def variableNames : List String :=
  ["XDG_CONFIG_HOME", "HOME", "RELATED_LINES_CONTEXT_RADIUS", "RELATED_LINES_IMPORT_SCAN_LINES",
   "RELATED_LINES_MAX_FILE_SIZE", "RELATED_LINES_MAX_DOCUMENTS"]

/-- The environment of this run. -/
def readEnvironment : IO Environment :=
  variableNames.filterMapM fun name => do return (← IO.getEnv name).map fun value => (name, value)

/-- What time it is. -/
def readClock : IO Timestamp := do
  let now ← Std.Time.Timestamp.now
  return Moment.text now.toNanosecondsSinceUnixEpoch.toInt.toNat

/-- What this program says about a message that cannot be read. It does not say where in the message. -/
def words : Decode.Wording where
  malformed _ := "not a JSON text"
  place _ _ := ""

/-- The files with what is found on the way to a path. -/
def lookUp (files : FileTree) (path : String) : IO FileTree := do
  let pieces := Path.pieces path
  let mut files := files
  for count in List.range pieces.length do
    let part := Path.ofPieces (pieces.take (count + 1))
    match ← (IO.FS.readBinFile part).toBaseIO with
    | .ok content => if let .ok found := files.write part content then files := found
    | .error (.inappropriateType _ _ _) => if let .ok found := files.makeFolder part then files := found
    | .error _ => pure ()
  return files

/-- What this run is given, with the files at some paths and the settings file. -/
def readSurroundings (paths : List String) : IO Surroundings := do
  let env ← readEnvironment
  let files ← (Settings.filePath env :: paths).foldlM lookUp ∅
  return { env, files, input := "", now := ← readClock, words }

/-- Stores the settings file if the run has made one. -/
def store (s : Surroundings) (files : FileTree) : IO Unit := do
  let path := Settings.filePath s.env
  if !s.files.pathExists path then
    if let .ok content := files.read path then
      IO.FS.createDirAll (Settings.projectFolder s.env)
      IO.FS.writeBinFile path content

/-- Prints what a run leaves, and gives the number that it ends with. -/
def finish (s : Surroundings) (r : Result) : IO UInt32 := do
  store s r.files
  IO.print r.output
  IO.eprint r.report
  return r.exitCode.toUInt32

/-- Ends a run that printed as it went along. -/
def finishTalk (s : Surroundings) (outcome : Except Failed Unit) : IO UInt32 :=
  finish s (Result.ofOutcome s (outcome.map fun _ => ("", s.files)))

/-- Prints a line at once. -/
def say (line : String) : IO Unit := do
  let out ← IO.getStdout
  out.putStr (printed line)
  out.flush

/-- The next line of the standard input, if there is one. -/
def nextLine : IO (Option String) := do
  let line ← (← IO.getStdin).getLine
  return (inputLines line).head?

/-- Answers messages until the input ends. -/
partial def talk (w : Workspace) : IO Unit := do
  if let some line ← nextLine then
    let (answer, w) := answerLine words (← readClock) w line
    if let some answer := answer then say answer
    talk w

/-- Serves tools until the conversation is over. -/
partial def serveOn (c : Tool.Conversation) : IO (Option Tool.BrokenOff) := do
  match ← nextLine with
  | none => return c.close
  | some line =>
    let files ← (Tool.pathIn? line).toList.foldlM lookUp ∅
    let c := { c with server := { c.server with now := ← readClock, files } }
    match c.hear line with
    | .ended reason => return reason
    | .goesOn reply c =>
      if let some reply := reply then say reply
      serveOn c

/-- Runs a command line. -/
def runProgram (args : List String) : IO UInt32 := do
  match Invocation.ofArgs args with
  | .run .messages =>
    let s ← readSurroundings []
    match workspace s with
    | .ok w =>
      talk w
      finishTalk s (.ok ())
    | .error failed => finishTalk s (.error failed)
  | .run .serve =>
    let s ← readSurroundings []
    match conversation s with
    | .ok c => finishTalk s ((endOf "" (← serveOn c)).map fun _ => ())
    | .error failed => finishTalk s (.error failed)
  | .run (.analyze file _ _ _) =>
    let s ← readSurroundings [file]
    finish s (run s args)
  | _ =>
    let s ← readSurroundings []
    finish s (run s args)

end LineKin.CommandLine

/-- The program. -/
def main (args : List String) : IO UInt32 := LineKin.CommandLine.runProgram args
