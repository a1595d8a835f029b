import LineKin.Proofs.Line.Definitions
import LineKin.Proofs.Relation.Variables
import LineKin.Relation.Functions

/-!
# Which lines define what a line calls

A line is proposed for a target if it is recognised as a definition of a name that the target calls and
that is looked up (`mem_definingLines`).

* **`definitions_stand_as_words`**: a recognised name is a whole word of the line, so that the line also
  shares a variable with the target, unless the keyword `function` is glued to the name.
* **`definition_is_found`**: a function that is named because of its keyword, its binding or its property
  is found from each line that calls it, unless it is bound as an arrow with a bare parameter.
-/

namespace LineKin

namespace Relation

open Line

variable {target name line : String} {lines : List String} {t i : Nat}

theorem mem_definingLines : i ∈ definingLines lines t target ↔
    ∃ line, lines[i]? = some line ∧
      ∃ name ∈ called target, isIgnoredCall name = false ∧ defines name line = true := by
  simp only [definingLines, lookedUpCalls, mem_linesWhere, List.any_eq_true, List.mem_eraseDups,
    List.mem_filter, Bool.not_eq_true', and_assoc]

theorem propose_functions {d : TextDocument} (htarget : d.lines[t]? = some target) :
    functions.propose d t = .ok (definingLines d.lines t target) := onLines_view htarget

theorem propose_sharedVariables {d : TextDocument} (htarget : d.lines[t]? = some target) :
    sharedVariables.propose d t = .ok (sharingLines d.lines t target) := onLines_view htarget

theorem follows_of_called (hname : name ∈ called target) (hignored : isIgnoredCall name = false) :
    Follows lines target name :=
  ⟨(Bool.or_eq_false_iff.1 hignored).1, .inl (.inr (.inr (.inl hname)))⟩

/-- A line that defines what the target calls also shares it as a variable, unless it calls the word that
the keyword and the name are glued to. -/
theorem mem_sharingLines_or_called (h : i ∈ definingLines lines t target) (hne : i ≠ t) :
    i ∈ sharingLines lines t target ∨ ∃ line name, lines[i]? = some line ∧ name ∈ called target ∧
      isIgnoredCall name = false ∧ "function" ++ name ∈ called line := by
  obtain ⟨line, hline, name, hname, hignored, hdefines⟩ := mem_definingLines.1 h
  rcases mem_words_or_called_of_defines (isIdentifier_of_mem_namesIn rfl hname) hdefines with
    hword | hcalled
  · exact .inl (mem_sharingLines.2 ⟨hne, line, hline, name, hword, follows_of_called hname hignored⟩)
  · exact .inr ⟨line, name, hline, hname, hignored, hcalled⟩

/-- **Definitions stand as words**: if a line holds a known name in one of the five forms of definition,
or shows it as the name of the function that it defines, then the name is a whole word of the line, and a
name that is shown is no keyword. The one exception is the name behind the keyword `function` in the word
that the line calls, which is always taken for a definition. So each other line that defines what the
target calls also shares a variable with the target, except for such a call. -/
theorem definitions_stand_as_words (d : TextDocument) (line : String)
    (hname : IsIdentifier name.toList) (ht : t < d.lineCount) :
    (∀ k, (definitionFits name line)[k]? = some true →
      name ∈ words line ∨ k = 0 ∧ "function" ++ name ∈ called line) ∧
    (functionName? line = some name → isKeyword name = false ∧
      (name ∈ words line ∨ "function" ++ name ∈ called line)) ∧
    ("function" ++ name ∈ called line → (definitionFits name line)[0]? = some true) ∧
    ∃ target defining sharing, d.lines[t]? = some target ∧ functions.propose d t = .ok defining ∧
      sharedVariables.propose d t = .ok sharing ∧ ∀ i ∈ defining, i ≠ t → i ∈ sharing ∨
        ∃ line name, d.lines[i]? = some line ∧ name ∈ called target ∧ isIgnoredCall name = false ∧
          "function" ++ name ∈ called line := by
  refine ⟨fun k => mem_words_or_called_of_fits hname, fun hshown => ?_, fits_of_called, ?_⟩
  · obtain ⟨form, hform⟩ := DefinitionForm.functionName?_eq_some_iff.1 hshown
    have hplace := (DefinitionForm.mem_words_or_called_of_read hform.shown).2
    exact ⟨hform.not_keyword, hplace.imp_right And.right⟩
  · have htarget : d.lines[t]? = some d.lines[t] := List.getElem?_eq_getElem ht
    exact ⟨d.lines[t], _, _, htarget, propose_functions htarget, propose_sharedVariables htarget,
      fun i => mem_sharingLines_or_called⟩

/-- An arrow in parentheses is found by its name, which is a word of its line. -/
theorem definitions_stand_as_words_area :
    functionName? "const area = (r) => r * r" = some "area" ∧ "area" ∈ words "const area = (r) => r * r" ∧
      ∃ defining sharing,
        functions.propose (TextDocument.mk "javascript" ["const area = (r) => r * r", "area(2)"]) 1 =
          .ok defining ∧ 0 ∈ defining ∧
        sharedVariables.propose
          (TextDocument.mk "javascript" ["const area = (r) => r * r", "area(2)"]) 1 = .ok sharing ∧
        0 ∈ sharing := by
  have hshown : functionName? "const area = (r) => r * r" = some "area" := by decide +kernel
  have hglued : "function" ++ "area" ∉ called "const area = (r) => r * r" := by decide +kernel
  obtain ⟨-, hname, -, target, defining, sharing, htarget, hdefining, hsharing, hmem⟩ :=
    definitions_stand_as_words (t := 1) ⟨"javascript", ["const area = (r) => r * r", "area(2)"]⟩
      "const area = (r) => r * r" (by decide : IsIdentifier "area".toList) (by decide)
  obtain rfl : "area(2)" = target := Option.some.inj htarget
  have hcalled : called "area(2)" = ["area"] := by decide +kernel
  have hdefined : 0 ∈ defining := by
    rw [← Except.ok.inj ((propose_functions htarget).symm.trans hdefining), mem_definingLines]
    exact ⟨_, rfl, "area", by rw [hcalled]; exact List.mem_singleton_self _, by decide, by decide +kernel⟩
  refine ⟨hshown, (hname hshown).2.resolve_right hglued, defining, sharing, hdefining, hdefined,
    hsharing, ?_⟩
  refine (hmem 0 hdefined (by decide)).resolve_right ?_
  rintro ⟨line, name, hline, hname, -, hcall⟩
  obtain rfl : "const area = (r) => r * r" = line := Option.some.inj hline
  rw [hcalled, List.mem_singleton] at hname
  exact hglued (hname ▸ hcall)

/-- The name is cut out of a longer word, and the line is related to a call of it although it shares no
variable with it. -/
theorem glued_keyword_defines :
    (definitionFits "foo" "functionfoo(x)")[0]? = some true ∧
      functionName? "functionfoo(x)" = some "foo" ∧ "foo" ∉ words "functionfoo(x)" ∧
      (functions.propose (TextDocument.mk "javascript" ["functionfoo(x)", "foo()"]) 1).map (·.toList) =
        .ok [0] ∧
      (sharedVariables.propose (TextDocument.mk "javascript" ["functionfoo(x)", "foo()"]) 1).map
        (·.toList) = .ok [] := by
  refine ⟨by decide +kernel, by decide +kernel, by decide +kernel, ?_, ?_⟩
  · rw [propose_functions (t := 1) rfl]
    decide +kernel
  · rw [propose_sharedVariables (t := 1) rfl]
    decide +kernel

/-- **A definition is found from its calls**: if a line defines a function because of its keyword, its
binding or its property, then the line is proposed for each line that calls the function, except where the
function is bound as an arrow whose only parameter has no parentheses. -/
theorem definition_is_found (d : TextDocument) {form : DefinitionForm} (hline : d.lines[i]? = some line)
    (htarget : d.lines[t]? = some target) (hname : form.Decides line name)
    (hform : form = .keyword ∨ form = .binding ∨ form = .property) (hcalled : name ∈ called target)
    (hignored : isIgnoredCall name = false) :
    ∃ lines, functions.propose d t = .ok lines ∧
      (i ∈ lines ∨ form = .binding ∧ BindsBareArrow name line) := by
  refine ⟨_, propose_functions htarget, ?_⟩
  refine (DefinitionForm.defines_of_read hname.shown hform).imp_left fun hdefines => ?_
  exact mem_definingLines.2 ⟨line, hline, name, hcalled, hignored, hdefines⟩

/-- A generator is found from a call further up. -/
theorem definition_is_found_generator :
    ∃ lines, functions.propose
        (TextDocument.mk "javascript" ["count(3)", "", "function* count (n)"]) 0 = .ok lines ∧
      2 ∈ lines := by
  have hname : DefinitionForm.keyword.Decides "function* count (n)" "count" :=
    ⟨by decide +kernel, by decide, [], _, rfl, nofun⟩
  obtain ⟨lines, hlines, hmem⟩ := definition_is_found
    ⟨"javascript", ["count(3)", "", "function* count (n)"]⟩ (i := 2) (t := 0)
    rfl rfl hname (.inl rfl) (by decide +kernel) (by decide)
  exact ⟨lines, hlines, hmem.resolve_right fun h => DefinitionForm.noConfusion h.1⟩

/-- An arrow with a bare parameter names its function, and no call finds it. -/
theorem bareArrow_is_missed :
    functionName? "const f = x => x" = some "f" ∧ "f" ∈ called "f(1)" ∧ isIgnoredCall "f" = false ∧
      (functions.propose (TextDocument.mk "javascript" ["const f = x => x", "f(1)"]) 1).map (·.toList) =
        .ok [] := by
  refine ⟨by decide +kernel, by decide +kernel, by decide, ?_⟩
  rw [propose_functions (t := 1) rfl]
  decide +kernel

end Relation

end LineKin
