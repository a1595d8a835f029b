import LineKin.Proofs.Catalog
import LineKin.Proofs.Document.Reading
import LineKin.Relation.Imports
import Mathlib.Data.List.Induction
import Mathlib.Order.Bounds.Basic

/-!
# Which lines import a name

An index of imports maps a name to the first of its lines that binds the name (`find?_ofLines`), each
form of import by itself. So the index of more lines has the entries of the index of fewer lines, with
the same numbers.

* **`imports_exact`**: for a text document, the index of its first lines and the lines related to a text,
  without any account of how they are collected. If more lines are searched for imports, no entry and no
  related line is lost.
-/

namespace LineKin

/-- The first place of a list where a test passes is the least one. -/
theorem findIdx?_eq_some_iff_isLeast {α : Type} {test : α → Bool} {xs : List α} {i : Nat} :
    xs.findIdx? test = some i ↔ IsLeast {j | ∃ x, xs[j]? = some x ∧ test x = true} i := by
  rw [List.findIdx?_eq_some_iff_getElem]
  constructor
  · rintro ⟨hi, hpass, hfirst⟩
    refine ⟨⟨xs[i], List.getElem?_eq_getElem hi, hpass⟩, ?_⟩
    rintro j ⟨x, hx, hx'⟩
    obtain ⟨hj, rfl⟩ := List.getElem?_eq_some_iff.1 hx
    exact Nat.le_of_not_lt fun hlt => hfirst j hlt hx'
  · rintro ⟨⟨x, hx, hpass⟩, hleast⟩
    obtain ⟨hi, rfl⟩ := List.getElem?_eq_some_iff.1 hx
    refine ⟨hi, hpass, fun j hlt hj => ?_⟩
    exact Nat.not_le_of_lt hlt (hleast ⟨_, List.getElem?_eq_getElem (Nat.lt_trans hlt hi), hj⟩)

open Line

variable {lines names : List String} {name : String} {k k' line : Nat}

/-! ### The index of a list of lines -/

/-- The forms in which a name is imported. -/
inductive ImportForm where
  /-- By its name. -/
  | named
  /-- As a module's default export. -/
  | byDefault
  /-- For a whole module. -/
  | wholeModule
  /-- For the result of `require` or a part of it. -/
  | required
  deriving DecidableEq

/-- The names that a line binds in a form. -/
def ImportForm.bound : ImportForm → String → List String
  | named => namedImports
  | byDefault => defaultImports
  | wholeModule => namespaceImports
  | required => requiredNames

namespace Relation

namespace ImportIndex

/-- The names imported in a form. -/
def ofForm (index : ImportIndex) : ImportForm → Catalog Nat
  | .named => index.named
  | .byDefault => index.byDefault
  | .wholeModule => index.wholeModule
  | .required => index.required

variable {index : ImportIndex} {form : ImportForm}

theorem mem_lookup : line ∈ index.lookup name ↔ ∃ form, (index.ofForm form).find? name = some line := by
  simp only [lookup, forms, List.mem_filterMap, List.mem_cons, List.not_mem_nil, or_false,
    exists_eq_or_imp, exists_eq_left]
  constructor
  · rintro (h | h | h | h)
    · exact ⟨.named, h⟩
    · exact ⟨.byDefault, h⟩
    · exact ⟨.wholeModule, h⟩
    · exact ⟨.required, h⟩
  · rintro ⟨form, h⟩
    cases form with
    | named => exact .inl h
    | byDefault => exact .inr (.inl h)
    | wholeModule => exact .inr (.inr (.inl h))
    | required => exact .inr (.inr (.inr h))

/-- A name that is there keeps its line, a new one gets the line that is added. -/
theorem find?_addNames (c : Catalog Nat) : (addNames line c names).find? name =
    (c.find? name).or (if name ∈ names then some line else none) := by
  induction names generalizing c with
  | nil => simp [addNames]
  | cons first rest ih =>
    have hstep : addNames line c (first :: rest) = addNames line (c.putNew first line) rest := rfl
    rw [hstep, ih, Catalog.find?_putNew]
    by_cases hfirst : name = first
    · subst hfirst
      cases c.find? name <;> simp
    · simp [hfirst]

theorem ofForm_addLine (text : String) :
    (index.addLine text line).ofForm form = addNames line (index.ofForm form) (form.bound text) := by
  cases form <;> simp only [ofForm, addLine, ImportForm.bound]

/-- **The first line that binds a name counts**, in each form. -/
theorem find?_ofLines (lines : List String) : ((ofLines lines).ofForm form).find? name =
    lines.findIdx? fun text => decide (name ∈ form.bound text) := by
  induction lines using List.reverseRecOn with
  | nil => cases form <;> rfl
  | append_singleton lines text ih =>
    have hstep : ofLines (lines ++ [text]) = (ofLines lines).addLine text lines.length := by
      rw [ofLines, List.zipIdx_append, List.foldl_append, Nat.zero_add]
      rfl
    rw [hstep, ofForm_addLine, find?_addNames, ih, List.findIdx?_append]
    by_cases hbinds : name ∈ form.bound text <;> simp [hbinds]

end ImportIndex

end Relation

/-! ### Text documents -/

namespace TextDocument

variable {d : TextDocument} {form : ImportForm}

/-- Those of the first lines of a document that bind a name in a form. -/
def linesBinding (d : TextDocument) (k : Nat) (form : ImportForm) (name : String) : Set Nat :=
  {i | i < min k d.lineCount ∧ ∃ line, d.lines[i]? = some line ∧ name ∈ form.bound line}

end TextDocument

namespace Relation

variable {d : TextDocument} {form : ImportForm} {text : String} {i : Nat}

theorem build_eq (d : TextDocument) (k : Nat) :
    ImportIndex.build d k = .ok (.ofLines (d.lines.take k)) := by
  rw [ImportIndex.build, d.slice_view, List.drop_zero]
  rfl

theorem find?_ofLines_take :
    ((ImportIndex.ofLines (d.lines.take k)).ofForm form).find? name = some line ↔
      IsLeast (d.linesBinding k form name) line := by
  have hset : {i | ∃ line, (d.lines.take k)[i]? = some line ∧ decide (name ∈ form.bound line) = true} =
      d.linesBinding k form name := by
    ext i
    simp only [TextDocument.linesBinding, Set.mem_ofPred_eq, decide_eq_true_eq,
      List.getElem?_take, Option.ite_none_right_eq_some, Nat.lt_min]
    constructor
    · rintro ⟨line, ⟨hi, hline⟩, hbound⟩
      exact ⟨⟨hi, (List.getElem?_eq_some_iff.1 hline).1⟩, line, hline, hbound⟩
    · rintro ⟨⟨hi, -⟩, line, hline, hbound⟩
      exact ⟨line, ⟨hi, hline⟩, hbound⟩
  rw [ImportIndex.find?_ofLines, findIdx?_eq_some_iff_isLeast, hset]

/-- An entry stays if more lines are searched. -/
theorem find?_ofLines_mono (hk : k ≤ k')
    (h : ((ImportIndex.ofLines (d.lines.take k)).ofForm form).find? name = some line) :
    ((ImportIndex.ofLines (d.lines.take k')).ofForm form).find? name = some line := by
  rw [find?_ofLines_take] at h ⊢
  obtain ⟨⟨hline, hbinds⟩, hleast⟩ := h
  refine ⟨⟨by omega, hbinds⟩, fun j hj => ?_⟩
  -- an earlier line of the longer part is one of the shorter part
  rcases Nat.lt_or_ge j line with hlt | hge
  · exact hleast ⟨by omega, hj.2⟩
  · exact hge

/-- What an index finds and the lines that hand a name on. A text without names relates to nothing. -/
theorem importsOf_eq (k : Nat) (d : TextDocument) (text : String) :
    ∃ lines, importsOf k d text = .ok lines ∧ ∀ i, i ∈ lines ↔
      (∃ name ∈ importableNames text, ∃ form,
        ((ImportIndex.ofLines (d.lines.take k)).ofForm form).find? name = some i) ∨
      ∃ line, d.lines[i]? = some line ∧ isReExport line = true ∧
        ∃ name ∈ importableNames text, name.toList <:+: line.toList := by
  cases hnames : importableNames text with
  | nil =>
    refine ⟨∅, ?_, by simp⟩
    rw [importsOf, hnames]
    rfl
  | cons first rest =>
    refine ⟨importLines k (first :: rest) d.lines, ?_, fun i => ?_⟩
    · rw [importsOf, hnames, allLinesOf, d.allLines_view]
      rfl
    · simp only [importLines, LineSet.mem_union, LineSet.mem_ofList, List.mem_flatMap,
        ImportIndex.mem_lookup, mem_linesWhere, Bool.and_eq_true, List.any_eq_true, holdsText,
        Text.holds_iff]

/-- **Imports**, for a text document.

* An entry of the index of the first lines is a name, in one of the forms, with the first of these lines
  that binds it. There are no other entries.
* A line is related to a text if the index has it for a name of the text, or if it is any line of the
  document that hands names on and contains such a name.
* If more lines are searched for imports, entries and related lines stay. All are lines of the
  document. -/
theorem imports_exact (d : TextDocument) :
    (∀ k, ∃ index, ImportIndex.build d k = .ok index ∧
      (∀ form name line, (name, line) ∈ (index.ofForm form).entries ↔
        IsLeast (d.linesBinding k form name) line) ∧
      ∀ text, ∃ lines, importsOf k d text = .ok lines ∧ ∀ i, i ∈ lines ↔
        (∃ name ∈ importableNames text, ∃ form, (index.ofForm form).find? name = some i) ∨
        ∃ line, d.lines[i]? = some line ∧ isReExport line = true ∧
          ∃ name ∈ importableNames text, name.toList <:+: line.toList) ∧
    (∀ k k' index index', k ≤ k' → ImportIndex.build d k = .ok index →
      ImportIndex.build d k' = .ok index' →
        ∀ form, (index.ofForm form).entries ⊆ (index'.ofForm form).entries) ∧
    ∀ k k' text lines lines', k ≤ k' → importsOf k d text = .ok lines →
      importsOf k' d text = .ok lines' → ∀ i ∈ lines, i ∈ lines' ∧ i < d.lineCount := by
  refine ⟨fun k => ⟨_, build_eq d k, fun form name line => ?_, importsOf_eq k d⟩, ?_, ?_⟩
  · rw [← Catalog.find?_eq_some_iff, find?_ofLines_take]
  · intro k k' index index' hk hindex hindex' form entry hentry
    obtain rfl := Except.ok.inj ((build_eq d k).symm.trans hindex)
    obtain rfl := Except.ok.inj ((build_eq d k').symm.trans hindex')
    rw [← Catalog.find?_eq_some_iff] at hentry ⊢
    exact find?_ofLines_mono hk hentry
  · intro k k' text lines lines' hk hlines hlines' i hi
    obtain ⟨found, hfound, hmem⟩ := importsOf_eq k d text
    obtain ⟨found', hfound', hmem'⟩ := importsOf_eq k' d text
    obtain rfl := Except.ok.inj (hfound.symm.trans hlines)
    obtain rfl := Except.ok.inj (hfound'.symm.trans hlines')
    rw [hmem']
    rcases (hmem i).1 hi with ⟨name, hname, form, hentry⟩ | ⟨line, hline, hre⟩
    · have hleast := find?_ofLines_take.1 hentry
      exact ⟨.inl ⟨name, hname, form, find?_ofLines_mono hk hentry⟩,
        Nat.lt_of_lt_of_le hleast.1.1 (Nat.min_le_right ..)⟩
    · exact ⟨.inr ⟨line, hline, hre⟩, (List.getElem?_eq_some_iff.1 hline).1⟩

/-- A document that binds a name in each of the four forms, uses all of them and hands one on. -/
def fourForms : TextDocument :=
  ⟨"javascript", ["import { A } from 'a'", "import B from 'b'", "import * as N from 'n'",
    "const { R } = require('r')", "let x = A(B, N, R)", "export { A }"]⟩

/-- The names of the other forms are found only if their lines are searched; the line that hands a name on is
found in any case. -/
theorem imports_exact_fourForms :
    ∃ index index' lines lines',
      ImportIndex.build fourForms 1 = .ok index ∧ ImportIndex.build fourForms 4 = .ok index' ∧
      importsOf 1 fourForms "let x = A(B, N, R)" = .ok lines ∧
      importsOf 4 fourForms "let x = A(B, N, R)" = .ok lines' ∧
      ("A", 0) ∈ (index'.ofForm .named).entries ∧
      IsLeast (fourForms.linesBinding 4 .byDefault "B") 1 ∧
      IsLeast (fourForms.linesBinding 4 .wholeModule "N") 2 ∧
      IsLeast (fourForms.linesBinding 4 .required "R") 3 ∧
      lines.toList = [0, 5] ∧ lines'.toList = [0, 1, 2, 3, 5] ∧ 5 ∈ lines' ∧ 5 < fourForms.lineCount := by
  obtain ⟨hexact, hstay, hrelated⟩ := imports_exact fourForms
  obtain ⟨index, hindex, -, htext⟩ := hexact 1
  obtain ⟨index', hindex', hentries, htext'⟩ := hexact 4
  obtain ⟨lines, hlines, -⟩ := htext "let x = A(B, N, R)"
  obtain ⟨lines', hlines', -⟩ := htext' "let x = A(B, N, R)"
  have hnames : importableNames "let x = A(B, N, R)" = ["A", "B", "N", "R"] := by decide +kernel
  have hone : importsOf 1 fourForms "let x = A(B, N, R)" =
      .ok (importLines 1 ["A", "B", "N", "R"] fourForms.lines) := by
    rw [importsOf, hnames]
    rfl
  have hfour : importsOf 4 fourForms "let x = A(B, N, R)" =
      .ok (importLines 4 ["A", "B", "N", "R"] fourForms.lines) := by
    rw [importsOf, hnames]
    rfl
  obtain rfl := Except.ok.inj (hone.symm.trans hlines)
  obtain rfl := Except.ok.inj (hfour.symm.trans hlines')
  have hnamed : ("A", 0) ∈ (index.ofForm .named).entries := by
    obtain rfl := Except.ok.inj ((build_eq fourForms 1).symm.trans hindex)
    decide +kernel
  have hothers : ("B", 1) ∈ (index'.ofForm .byDefault).entries ∧
      ("N", 2) ∈ (index'.ofForm .wholeModule).entries ∧ ("R", 3) ∈ (index'.ofForm .required).entries := by
    obtain rfl := Except.ok.inj ((build_eq fourForms 4).symm.trans hindex')
    decide +kernel
  exact ⟨index, index', _, _, hindex, hindex', hlines, hlines',
    hstay 1 4 index index' (by decide) hindex hindex' .named hnamed,
    (hentries _ _ _).1 hothers.1, (hentries _ _ _).1 hothers.2.1, (hentries _ _ _).1 hothers.2.2,
    by decide +kernel, by decide +kernel, hrelated 1 4 _ _ _ (by decide) hlines hlines' 5 (by decide +kernel)⟩

end Relation

end LineKin
