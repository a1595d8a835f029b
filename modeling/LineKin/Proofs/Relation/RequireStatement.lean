import LineKin.Proofs.Line.RequireReading
import LineKin.Proofs.Relation.ImportStatement

/-!
# Indexing statements that take a module apart

A document that consists of one statement `const { … } = require('m')` has an index of the names that the
statement binds, as results of `require` and in no other form of import.

* **`parts_indexed`**: of each part the name is indexed that is read of it. This is the name that the part
  binds, unless its default value holds a colon or its name looks like the mark of a type. Besides, a plain
  binding is found that is nested in a default value or in the name of the module.
-/

namespace LineKin

namespace Relation

open Line

variable {s : RequireStatement} {name : String} {k : Nat}

theorem bound_statement (s : RequireStatement) (form : ImportForm) : form.bound s.line =
    if form = .required then s.nested.toList ++ s.parts.filterMap RequiredPart.nameRead else [] := by
  cases form with
  | named => simpa [ImportForm.bound] using s.namedImports_line
  | byDefault => simpa [ImportForm.bound] using s.defaultImports_line
  | wholeModule => simpa [ImportForm.bound] using s.namespaceImports_line
  | required => simpa [ImportForm.bound] using s.requiredNames_line

theorem exists_nameRead_iff (h : ∀ p ∈ s.parts, p.IsPlain) :
    (∃ p ∈ s.parts, p.nameRead = some name) ↔ name ∈ s.names := by
  rw [RequireStatement.names, List.mem_map]
  refine exists_congr fun p => and_congr_right fun hp => ?_
  rw [(h p hp).nameRead_eq, Option.some.injEq]

/-- **The names of the parts are indexed**, as far as they are read, with the name of a plain binding nested
in the statement, and nothing else is. Without such a binding, and if all parts are plain, these are exactly
the names that the statement binds. -/
theorem parts_indexed (s : RequireStatement) (languageId : String) (hk : 0 < k) :
    ∃ index, ImportIndex.build (TextDocument.mk languageId [s.line]) k = .ok index ∧
      (∀ form name, (index.ofForm form).find? name =
        if form = .required ∧ (s.nested = some name ∨ ∃ p ∈ s.parts, p.nameRead = some name) then some 0
        else none) ∧
      (s.nested = none → (∀ p ∈ s.parts, p.IsPlain) → ∀ form name, (index.ofForm form).find? name =
        if form = .required ∧ name ∈ s.names then some 0 else none) := by
  have hfind : ∀ form name, ((ImportIndex.ofLines ([s.line].take k)).ofForm form).find? name =
      if form = .required ∧ (s.nested = some name ∨ ∃ p ∈ s.parts, p.nameRead = some name) then some 0
      else none := by
    intro form name
    rw [find?_single hk, bound_statement]
    refine if_congr ?_ rfl rfl
    by_cases hform : form = .required
    · simp [hform]
    · simp [hform]
  refine ⟨_, build_eq _ k, hfind, fun hnested hplain form name => ?_⟩
  simp [hfind, hnested, exists_nameRead_iff hplain]

/-- A renamed part with a default value is indexed by its name. -/
theorem parts_indexed_renamed :
    ∃ index, ImportIndex.build
        (TextDocument.mk "javascript" ["const \x7b a, b : c = 1 \x7d = require('m')"]) 100 = .ok index ∧
      index.required.find? "a" = some 0 ∧ index.required.find? "c" = some 0 ∧
      index.required.find? "b" = none ∧ index.named.find? "a" = none := by
  let first : RequiredPart := ⟨1, none, ⟨"a", by decide⟩, 0, none⟩
  let second : RequiredPart :=
    ⟨1, some ⟨⟨"b", by decide⟩, 1, 1⟩, ⟨"c", by decide⟩, 1, some ⟨" 1 ".toList, by decide⟩⟩
  let s : RequireStatement :=
    ⟨0, "const", List.mem_cons_self, 1, [first, second], 1, 1, 0, 0, ['m'], 0, 0⟩
  have hline : s.line = "const \x7b a, b : c = 1 \x7d = require('m')" := by decide +kernel
  have hplain : ∀ p ∈ s.parts, p.IsPlain := by decide +kernel
  obtain ⟨index, hindex, -, hfind⟩ := parts_indexed s "javascript" (k := 100) (by decide)
  rw [hline] at hindex
  replace hfind := hfind (by decide +kernel) hplain
  exact ⟨index, hindex, hfind .required "a", hfind .required "c", hfind .required "b", hfind .named "a"⟩

/-- A colon in a default value is taken for the one of a key, and a name `type` for the mark of a type. -/
theorem parts_misread :
    (∃ s index, RequireStatement.line s = "const \x7b a = b ? c : d \x7d = require('m')" ∧
      s.names = ["a"] ∧ ImportIndex.build (TextDocument.mk "javascript" [s.line]) 100 = .ok index ∧
      index.required.find? "a" = none ∧ index.required.find? "d" = some 0) ∧
    ∃ s index, RequireStatement.line s = "const \x7b type = 1 \x7d = require('m')" ∧
      s.names = ["type"] ∧ ImportIndex.build (TextDocument.mk "javascript" [s.line]) 100 = .ok index ∧
      index.required.entries = [] := by
  constructor
  · let part : RequiredPart := ⟨1, none, ⟨"a", by decide⟩, 1, some ⟨" b ? c : d ".toList, by decide⟩⟩
    let s : RequireStatement := ⟨0, "const", List.mem_cons_self, 1, [part], 1, 1, 0, 0, ['m'], 0, 0⟩
    have hline : s.line = "const \x7b a = b ? c : d \x7d = require('m')" := by decide +kernel
    refine ⟨s, .ofLines [s.line], hline, rfl, build_eq _ 100, ?_, ?_⟩
    · rw [hline]
      decide +kernel
    · rw [hline]
      decide +kernel
  · let part : RequiredPart := ⟨1, none, ⟨"type", by decide⟩, 1, some ⟨" 1 ".toList, by decide⟩⟩
    let s : RequireStatement := ⟨0, "const", List.mem_cons_self, 1, [part], 1, 1, 0, 0, ['m'], 0, 0⟩
    have hline : s.line = "const \x7b type = 1 \x7d = require('m')" := by decide +kernel
    refine ⟨s, .ofLines [s.line], hline, rfl, build_eq _ 100, ?_⟩
    rw [hline]
    decide +kernel

end Relation

end LineKin
