import LineKin.Proofs.Line.ImportReading
import LineKin.Proofs.Relation.Imports

/-!
# Indexing import statements

A document that consists of one import statement has an index of what the statement binds: its default
export, its whole module and the local names of its list, each in its own form of import and nothing in any
other one.

* **`statement_indexed`**: this holds of all statements but one kind, and of this kind exactly the missing
  entry is named. A whole module behind a mark of types (`import type * as N`) is not indexed, since its
  shape is the only one of the three without the mark.
-/

namespace LineKin

open Line

/-- The names that a statement binds in a form of import. -/
def Line.ImportStatement.binds (s : ImportStatement) : ImportForm → List String
  | .named => s.clause.listed
  | .byDefault => s.clause.defaults
  | .wholeModule => s.clause.wholeModule
  | .required => []

namespace Relation

variable {s : ImportStatement} {line : String} {form : ImportForm} {name : String} {k : Nat}

/-- An index that holds the names that a statement binds, on the first line, and nothing else. -/
def ImportIndex.IsOf (index : ImportIndex) (s : ImportStatement) : Prop :=
  ∀ form name, (index.ofForm form).find? name = if name ∈ s.binds form then some 0 else none

theorem bound_of_writtenAs (h : s.WrittenAs line) : form.bound line =
    if s.typeOnly = true ∧ form = .wholeModule then [] else s.binds form := by
  cases form with
  | named => simpa [ImportForm.bound, ImportStatement.binds] using namedImports_eq h
  | byDefault => simpa [ImportForm.bound, ImportStatement.binds] using defaultImports_eq h
  | wholeModule => simpa [ImportForm.bound, ImportStatement.binds] using namespaceImports_eq h
  | required => simpa [ImportForm.bound, ImportStatement.binds] using requiredNames_eq h

theorem find?_single (hk : 0 < k) : ((ImportIndex.ofLines ([line].take k)).ofForm form).find? name =
    if name ∈ form.bound line then some 0 else none := by
  rw [List.take_of_length_le hk, ImportIndex.find?_ofLines, List.findIdx?_cons]
  simp

/-- **What an import statement binds is indexed**, except a whole module behind a mark of types. -/
theorem statement_indexed (s : ImportStatement) (h : s.WrittenAs line) (languageId : String)
    (hk : 0 < k) : ∃ index, ImportIndex.build (TextDocument.mk languageId [line]) k = .ok index ∧
      (∀ form name, (index.ofForm form).find? name =
        if name ∈ s.binds form ∧ ¬ (s.typeOnly = true ∧ form = .wholeModule) then some 0 else none) ∧
      (index.IsOf s ↔ (s.typeOnly = true → s.clause.wholeModule = [])) := by
  have hfind : ∀ form name, ((ImportIndex.ofLines ([line].take k)).ofForm form).find? name =
      if name ∈ s.binds form ∧ ¬ (s.typeOnly = true ∧ form = .wholeModule) then some 0 else none := by
    intro form name
    rw [find?_single hk, bound_of_writtenAs h]
    by_cases hmissing : s.typeOnly = true ∧ form = .wholeModule <;> simp [hmissing]
  refine ⟨_, build_eq _ k, hfind, ?_, ?_⟩
  · intro hindex htype
    refine List.eq_nil_iff_forall_not_mem.2 fun name hname => ?_
    replace hname : name ∈ s.binds .wholeModule := hname
    have hsome := hindex .wholeModule name
    rw [hfind, if_neg fun hread => hread.2 ⟨htype, rfl⟩, if_pos hname] at hsome
    cases hsome
  · intro hcomplete form name
    rw [hfind]
    refine if_congr (and_iff_left_of_imp fun hname hmissing => ?_) rfl rfl
    obtain ⟨htype, rfl⟩ := hmissing
    rw [ImportStatement.binds, hcomplete htype] at hname
    cases hname

/-- The mark of a type in a list, a renamed type and a default export. -/
theorem statement_indexed_mixed :
    ∃ index, ImportIndex.build (TextDocument.mk "typescript" ["import D, {type X as Y} from 'm'"]) 100 =
        .ok index ∧ index.byDefault.find? "D" = some 0 ∧ index.named.find? "Y" = some 0 ∧
      index.named.find? "X" = none ∧ index.required.find? "D" = none := by
  have hwritten : (ImportStatement.mk false (.both ⟨⟨"D", by decide⟩, by decide⟩ (.list
      [⟨true, ⟨⟨"X", by decide⟩, by decide⟩, some ⟨⟨"Y", by decide⟩, by decide⟩⟩])) "m"
        (List.forall_mem_singleton.2 (.inl (by decide)))).WrittenAs "import D, {type X as Y} from 'm'" := by
    refine ⟨"import D, {type X as Y} from ".toList, ?_, rfl⟩
    exact @Written.cons _ _ _ 1 _ (by decide) <| @Written.cons _ _ _ 0 _ (by decide) <|
      @Written.cons _ _ _ 1 _ (by decide) <| @Written.cons _ _ _ 0 _ (by decide) <|
      @Written.cons _ _ _ 1 _ (by decide) <| @Written.cons _ _ _ 1 _ (by decide) <|
      @Written.cons _ _ _ 1 _ (by decide) <| @Written.cons _ _ _ 0 _ (by decide) <|
      @Written.cons _ _ _ 1 _ (by decide) <| @Written.cons _ _ _ 1 _ (by decide) .nil
  obtain ⟨index, hindex, hfind, -⟩ := statement_indexed _ hwritten "typescript" (k := 100) (by decide)
  exact ⟨index, hindex, hfind .byDefault "D", hfind .named "Y", hfind .named "X", hfind .required "D"⟩

/-- A whole module behind a mark of types leaves every form of import empty. -/
theorem typeMark_hides_wholeModule :
    ∃ s index, ImportStatement.WrittenAs s "import type * as N from 'm'" ∧ s.binds .wholeModule = ["N"] ∧
      ImportIndex.build (TextDocument.mk "typescript" ["import type * as N from 'm'"]) 100 = .ok index ∧
      (∀ form, (index.ofForm form).entries = []) ∧ ¬ index.IsOf s := by
  refine ⟨⟨true, .part (.star ⟨⟨"N", by decide⟩, by decide⟩), "m",
      List.forall_mem_singleton.2 (.inl (by decide))⟩,
    .ofLines ["import type * as N from 'm'"], ?_, rfl, build_eq _ 100, ?_, ?_⟩
  · refine ⟨"import type * as N from ".toList, ?_, rfl⟩
    exact @Written.cons _ _ _ 1 _ (by decide) <| @Written.cons _ _ _ 1 _ (by decide) <|
      @Written.cons _ _ _ 1 _ (by decide) <| @Written.cons _ _ _ 1 _ (by decide) <|
      @Written.cons _ _ _ 1 _ (by decide) <| @Written.cons _ _ _ 1 _ (by decide) .nil
  · intro form
    cases form <;> decide +kernel
  · intro hindex
    have hmissing : ((ImportIndex.ofLines ["import type * as N from 'm'"]).ofForm
        .wholeModule).find? "N" = none := by decide +kernel
    have hsome : (none : Option Nat) = some 0 := hmissing.symm.trans (hindex .wholeModule "N")
    cases hsome

end Relation

end LineKin
