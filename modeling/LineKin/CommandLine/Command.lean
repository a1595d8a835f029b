import LineKin.CommandLine.Arguments
import LineKin.Settings.File

/-!
# Commands

The first operand of a command line names the command, and what follows belongs to it. Without a
command the tool server is run. `Invocation.ofArgs` says what a command line asks for, or that it is
wrong.
-/

namespace LineKin.CommandLine

/-- How the result of an analysis is shown. -/
inductive View where
  /-- The related lines with their texts. -/
  | lines
  /-- The whole analysis as JSON. -/
  | json
  /-- The prompt. -/
  | prompt
  deriving DecidableEq

/-- What a command does. -/
inductive Command where
  /-- Runs the tool server. -/
  | serve
  /-- Analyses lines of a file, counted from one. -/
  | analyze (file : String) (line : Nat) (endLine : Option Nat) (view : View)
  /-- Answers messages. -/
  | messages
  /-- Shows the settings, or writes the defaults to the settings file. -/
  | config (init : Bool)
  deriving DecidableEq

/-- What a command line asks for. -/
inductive Invocation where
  /-- A command. -/
  | run (command : Command)
  /-- The version. -/
  | version
  /-- Nothing that can be done. -/
  | wrong
  deriving DecidableEq

/-- The option that makes the program talk more; every command has it. -/
def verbose : Switch := { long := "verbose", letter := some 'v' }

/-- The options of the analysis. -/
def analyzeSwitches : List Switch :=
  [verbose,
   { long := "line", letter := some 'l', hasValue := true },
   { long := "end-line", letter := some 'e', hasValue := true },
   { long := "json" },
   { long := "prompt" }]

/-- The analysis that words ask for. -/
def analyzeOf (w : Words) : Option Command := do
  let view ←
    match w.has "json", w.has "prompt" with
    | true, true => none
    | true, false => some View.json
    | false, true => some View.prompt
    | false, false => some View.lines
  let line ← (w.value? "line").bind Settings.number?
  let endLine ←
    match w.value? "end-line" with
    | some text => (Settings.number? text).map some
    | none => some none
  match w.operands with
  | [file] => if file.isEmpty then none else some (.analyze file line endLine view)
  | _ => none

/-- The command that words without operands ask for. -/
def withoutOperands (w : Words) (command : Command) : Option Command :=
  if w.operands.isEmpty then some command else none

/-- The command of a name with the words behind it. -/
def commandOf (name : String) (rest : List String) : Option Command :=
  match name with
  | "serve" => do withoutOperands (← ({} : Words).read [verbose] rest) .serve
  | "messages" => do withoutOperands (← ({} : Words).read [verbose] rest) .messages
  | "config" => do
    let w ← ({} : Words).read [verbose, { long := "init" }] rest
    withoutOperands w (.config (w.has "init"))
  | "analyze" => do analyzeOf (← ({} : Words).read analyzeSwitches rest)
  | _ => none

/-- Reads the letters of a word in front of the command: whether they ask for the version, or talk
more. -/
def readFrontLetters (seen : Bool) : List Char → Option (Bool ⊕ Unit)
  | [] => some (.inl seen)
  | 'V' :: _ => some (.inr ())
  | 'v' :: rest => if seen then none else readFrontLetters true rest
  | _ => none

/-- What a command line asks for, once it is known whether it asked to talk more. -/
def readFront (seen : Bool) : List String → Invocation
  | [] => .run .serve
  | word :: rest =>
    if word == "--" then (if rest.isEmpty then .run .serve else .wrong)
    else if word == "--verbose" then (if seen then .wrong else readFront true rest)
    else if isOptionWord word then
      match readFrontLetters seen (word.toList.drop 1) with
      | some (.inl seen) => readFront seen rest
      | some (.inr ()) => .version
      | none => .wrong
    else
      match commandOf word rest with
      | some command => .run command
      | none => .wrong

/-- What a command line asks for. -/
def Invocation.ofArgs (args : List String) : Invocation := readFront false args

end LineKin.CommandLine
