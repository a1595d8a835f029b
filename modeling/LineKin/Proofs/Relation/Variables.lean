import LineKin.Proofs.Document.Reading
import LineKin.Proofs.Line.Words
import LineKin.Relation.Variables

/-!
# Which lines share a variable

The names followed from a target line are collected in two rounds, each of which leaves out keywords and
names that are there already. As a set they have no such history (`mem_followedNames`): a name is
followed if it is no keyword and either the target line uses it like a variable, or it is a word of the
target line and some line of the document declares it.

* **`mem_propose_sharedVariables`**: the lines proposed for a target line are exactly the other lines
  that have a followed name among their words.
-/

namespace LineKin

open Line

variable {line target name : String} {lines : List String}

/-! ### Names that are followed -/

namespace Line

/-- A line declares a name, assigns to it, calls it, or reaches into it with a dot or a bracket. -/
def UsesLikeVariable (line name : String) : Prop :=
  name ∈ declared line ∨ name ∈ assigned line ∨ name ∈ called line ∨ name ∈ accessed line ∨
    name ∈ indexed line

theorem mem_variableNames :
    name ∈ variableNames line ↔ isKeyword name = false ∧ UsesLikeVariable line name := by
  rw [variableNames, mem_foldl_addNames]
  simp [UsesLikeVariable]

theorem UsesLikeVariable.isIdentifier (h : UsesLikeVariable line name) :
    IsIdentifier name.toList := by
  rcases h with h | h | h | h | h <;> exact isIdentifier_of_mem_namesIn rfl h

end Line

namespace Relation

/-- A name is followed from a target line among some lines. -/
structure Follows (lines : List String) (target name : String) : Prop where
  /-- It is no keyword. -/
  not_keyword : isKeyword name = false
  /-- It is a variable of the target line, by its use there or by its declaration elsewhere. -/
  variable_of_target : UsesLikeVariable target name ∨
    name ∈ words target ∧ ∃ line ∈ lines, name ∈ declared line

theorem mem_followedNames : name ∈ followedNames lines target ↔ Follows lines target name := by
  -- each line adds those of its declared names that are words of the target
  have hfold : followedNames lines target =
      (lines.map fun line => (declared line).filter fun name => (words target).contains name).foldl
        addNames (variableNames target) := by
    rw [followedNames, List.foldl_map]
  rw [hfold, mem_foldl_addNames, mem_variableNames, ← and_or_left]
  simp only [List.mem_map, exists_exists_and_eq_and, List.mem_filter, List.contains_iff_mem]
  constructor
  · rintro ⟨hkey, huses | ⟨line, hline, hdeclared, hword⟩⟩
    · exact ⟨hkey, .inl huses⟩
    · exact ⟨hkey, .inr ⟨hword, line, hline, hdeclared⟩⟩
  · rintro ⟨hkey, huses | ⟨hword, line, hline, hdeclared⟩⟩
    · exact ⟨hkey, .inl huses⟩
    · exact ⟨hkey, .inr ⟨line, hline, hdeclared, hword⟩⟩

theorem Follows.isIdentifier (h : Follows lines target name) : IsIdentifier name.toList := by
  rcases h.variable_of_target with huses | ⟨hword, -⟩
  · exact huses.isIdentifier
  · exact isIdentifier_of_mem_namesIn rfl hword

/-! ### Lines that mention them -/

theorem mem_sharingLines {t i : Nat} : i ∈ sharingLines lines t target ↔
    i ≠ t ∧ ∃ line, lines[i]? = some line ∧ ∃ name ∈ words line, Follows lines target name := by
  simp only [sharingLines, mem_linesWhere, Bool.and_eq_true, bne_iff_ne, List.any_eq_true,
    mem_followedNames]
  constructor
  · rintro ⟨line, hline, hne, name, hfollows, hmentions⟩
    exact ⟨hne, line, hline, name, (mentions_iff_mem_words hfollows.isIdentifier).1 hmentions,
      hfollows⟩
  · rintro ⟨hne, line, hline, name, hword, hfollows⟩
    exact ⟨line, hline, hne, name, hfollows, (mentions_iff_mem_words hfollows.isIdentifier).2 hword⟩

/-- **The lines that share a variable** with a line of a text document: another line is proposed if and
only if some name among its words is no keyword and is either used like a variable on the target line,
or is a word of the target line that some line of the document declares. -/
theorem mem_propose_sharedVariables (d : TextDocument) {t : Nat} (ht : t < d.lineCount) :
    ∃ target lines, d.lines[t]? = some target ∧ sharedVariables.propose d t = .ok lines ∧
      ∀ i, i ∈ lines ↔ i ≠ t ∧ i < d.lineCount ∧ ∃ line, d.lines[i]? = some line ∧
        ∃ name, isKeyword name = false ∧ name ∈ words line ∧
          (UsesLikeVariable target name ∨
            name ∈ words target ∧ ∃ other ∈ d.lines, name ∈ declared other) := by
  have htarget : d.lines[t]? = some d.lines[t] := List.getElem?_eq_getElem ht
  refine ⟨d.lines[t], sharingLines d.lines t d.lines[t], htarget, onLines_view htarget, fun i => ?_⟩
  rw [mem_sharingLines]
  refine and_congr_right fun _ => ?_
  constructor
  · rintro ⟨line, hline, name, hword, hkey, hvariable⟩
    exact ⟨(List.getElem?_eq_some_iff.1 hline).1, line, hline, name, hkey, hword, hvariable⟩
  · rintro ⟨-, line, hline, name, hkey, hword, hvariable⟩
    exact ⟨line, hline, name, hword, hkey, hvariable⟩

/-- A declaration further down makes a variable of a name that is returned. The name may stand in a
comment, but not as a part of another one. -/
theorem mem_propose_sharedVariables_total :
    ∃ lines, sharedVariables.propose
        (TextDocument.mk "javascript" ["return total", "let total = 0", "subtotal", "// total"]) 0 =
          .ok lines ∧ 1 ∈ lines ∧ 2 ∉ lines ∧ 3 ∈ lines := by
  obtain ⟨target, lines, htarget, hlines, hmem⟩ := mem_propose_sharedVariables
    ⟨"javascript", ["return total", "let total = 0", "subtotal", "// total"]⟩ (t := 0) (by decide)
  obtain rfl : "return total" = target := Option.some.inj htarget
  have htotal : "total" ∈ words "return total" ∧ "total" ∈ declared "let total = 0" := by
    decide +kernel
  have hdeclared : ∃ other ∈ ["return total", "let total = 0", "subtotal", "// total"],
      "total" ∈ declared other := ⟨"let total = 0", by simp, htotal.2⟩
  refine ⟨lines, hlines, (hmem 1).2 ?_, ?_, (hmem 3).2 ?_⟩
  · exact ⟨by decide, by decide, "let total = 0", rfl, "total", by decide, by decide +kernel,
      .inr ⟨htotal.1, hdeclared⟩⟩
  · intro h
    obtain ⟨-, -, line, hline, name, -, hword, hvariable⟩ := (hmem 2).1 h
    obtain rfl : "subtotal" = line := Option.some.inj hline
    obtain rfl : name = "subtotal" := by
      have hwords : words "subtotal" = ["subtotal"] := by decide +kernel
      rwa [hwords, List.mem_singleton] at hword
    have hnone : ¬ UsesLikeVariable "return total" "subtotal" ∧ "subtotal" ∉ words "return total" := by
      rw [UsesLikeVariable]
      decide +kernel
    exact hvariable.elim hnone.1 fun h => hnone.2 h.1
  · exact ⟨by decide, by decide, "// total", rfl, "total", by decide, by decide +kernel,
      .inr ⟨htotal.1, hdeclared⟩⟩

end Relation

end LineKin
