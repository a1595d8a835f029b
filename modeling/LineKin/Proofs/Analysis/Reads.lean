import LineKin.Proofs.Document.Failing
import LineKin.Proofs.Document.Reading
import LineKin.Analysis.Context

/-!
# The lines that a context is built from

The context of a line is built from the lines up to the function and the class that it stands in, from
the lines around it, and from the first lines of the document (`Context.Reads`). Each step of building it
reads some of these lines: it succeeds if they can all be read, and otherwise reports why one of them
cannot (`Context.ReadsFrom`). Steps one after the other read the lines of both (`ReadsFrom.bind`), so the
whole reads exactly those lines (`build_readsFrom`). What is built depends on the lines that are read, and
on the language of the document (`build_congr`).

An analysis of a selection fails exactly if the context of its first line cannot be built, whatever the
heuristics do: **`context_fails_closed`**.
-/

namespace LineKin

open Document Line

namespace Context

variable {d d' : Document} {t i start count : Nat} {limits : AnalysisLimits} {α β : Type}
  {A B : Nat → Prop}

/-! ### Steps -/

/-- A step needs some lines of a document: it succeeds if they can all be read, and otherwise reports why
one of them cannot. -/
def ReadsFrom (d : Document) (lines : Nat → Prop) (result : Except ContextError α) : Prop :=
  (∃ a, result = .ok a ∧ ∀ i, lines i → ∀ e, ¬ d.FailsOn i e) ∨
  ∃ i step cause, lines i ∧ d.line i = .error cause ∧ result = .error ⟨step, cause⟩

/-- Steps one after the other need the lines that one of them needs. -/
theorem ReadsFrom.bind {x : Except ContextError α} {f : α → Except ContextError β}
    (hx : ReadsFrom d A x) (hf : ∀ a, x = .ok a → ReadsFrom d B (f a)) :
    ReadsFrom d (fun i => A i ∨ B i) (x >>= f) := by
  rcases hx with ⟨a, rfl, hA⟩ | ⟨i, step, cause, hi, hcause, rfl⟩
  · rw [ok_bind]
    rcases hf a rfl with ⟨b, hb, hB⟩ | ⟨i, step, cause, hi, hcause, hb⟩
    · refine .inl ⟨b, hb, fun i hi => ?_⟩
      rcases hi with hi | hi
      · exact hA i hi
      · exact hB i hi
    · exact .inr ⟨i, step, cause, .inr hi, hcause, hb⟩
  · exact .inr ⟨i, step, cause, .inl hi, hcause, rfl⟩

theorem ReadsFrom.imp {x : Except ContextError α} (h : ReadsFrom d A x) (hmore : ∀ i, A i → B i)
    (hless : ∀ i e, B i → d.FailsOn i e → A i) : ReadsFrom d B x := by
  rcases h with ⟨a, ha, hA⟩ | ⟨i, step, cause, hi, hcause, hx⟩
  · exact .inl ⟨a, ha, fun i hi e hfails => hA i (hless i e hi hfails) e hfails⟩
  · exact .inr ⟨i, step, cause, hmore i hi, hcause, hx⟩

/-- What is made of what was read needs no lines any more. -/
theorem readsFrom_ok (a : α) : ReadsFrom d (fun _ => False) (.ok a) :=
  .inl ⟨a, rfl, nofun⟩

theorem readsFrom_line (d : Document) (t : Nat) (step : ContextStep) :
    ReadsFrom d (· = t) ((d.line t).mapError (⟨step, ·⟩)) := by
  cases hline : d.line t with
  | error cause => exact .inr ⟨t, step, cause, rfl, hline, rfl⟩
  | ok text =>
    refine .inl ⟨text, rfl, fun i hi e hfails => ?_⟩
    subst hi
    rw [hfails.line_eq] at hline
    cases hline

theorem readsFrom_nearest (reading : String → Option α) (step : ContextStep) (ht : t < d.lineCount) :
    ReadsFrom d (fun i => d.searchEnd reading t ≤ i ∧ i ≤ t)
      ((d.nearest reading t).mapError (⟨step, ·⟩)) := by
  rcases nearest_cases reading ht with ⟨found, hfound, hok⟩ | ⟨i, e, hle, hge, hfails, herror⟩
  · exact .inl ⟨found, by rw [hfound, mapError_ok], fun i hi e => hok i e hi.1 hi.2⟩
  · exact .inr ⟨i, step, e, ⟨hle, hge⟩, hfails.line_eq, by rw [herror]; rfl⟩

theorem readsFrom_range (d : Document) (start count : Nat) (step : Nat → ContextStep) :
    ReadsFrom d (fun i => start ≤ i ∧ i < start + count ∧ i < d.lineCount)
      ((d.range start count).mapError fun (line, cause) => ⟨step line, cause⟩) := by
  rcases range_cases d start count with ⟨texts, htexts, hok⟩ | ⟨i, e, hle, hlt, hfails, herror⟩
  · exact .inl ⟨texts, by rw [htexts, mapError_ok], fun i hi e => hok i e hi.1 hi.2.1⟩
  · exact .inr ⟨i, step i, e, ⟨hle, hlt, hfails.lt⟩, hfails.line_eq, by rw [herror]; rfl⟩

/-! ### The lines of a context -/

/-- Where the function of a line is defined, zero if there is none. -/
def functionStart (d : Document) (t : Nat) : Nat := d.searchEnd functionName? t

/-- Where the class of a line is declared, zero if there is none. -/
def classStart (d : Document) (t : Nat) : Nat := d.searchEnd className? t

/-- The lines that a context is built from. Those near the line end where a sum of 64 bits says. -/
def Reads (d : Document) (t : Nat) (limits : AnalysisLimits) (i : Nat) : Prop :=
  (functionStart d t ≤ i ∧ i ≤ t) ∨ (classStart d t ≤ i ∧ i ≤ t) ∨
  (t - limits.contextRadius ≤ i ∧ i ≤ min (wrappingAdd t limits.contextRadius) d.lastLine) ∨
  i < min limits.contextImportLines d.lineCount

/-- The numbers that a context is looked for on. There need not be lines of all these numbers. -/
def LooksAt (d : Document) (t : Nat) (limits : AnalysisLimits) (i : Nat) : Prop :=
  (functionStart d t ≤ i ∧ i ≤ t) ∨ (classStart d t ≤ i ∧ i ≤ t) ∨
  (t - limits.contextRadius ≤ i ∧ i ≤ wrappingAdd t limits.contextRadius) ∨ i < limits.contextImportLines

theorem reads_self (d : Document) (t : Nat) (limits : AnalysisLimits) : Reads d t limits t :=
  .inl ⟨searchEnd_le .., Nat.le_refl t⟩

theorem looksAt_self (d : Document) (t : Nat) (limits : AnalysisLimits) : LooksAt d t limits t :=
  .inl ⟨searchEnd_le .., Nat.le_refl t⟩

/-- The lines that are read are those of the numbers that are looked at. -/
theorem reads_iff_looksAt (ht : t < d.lineCount) :
    Reads d t limits i ↔ LooksAt d t limits i ∧ i < d.lineCount := by
  simp only [Reads, LooksAt, lastLine]
  omega

theorem lt_lineCount_of_line {text : String} (h : d.line t = .ok text) : t < d.lineCount := by
  by_contra hbehind
  rw [line, List.getElem?_eq_none (Nat.not_lt.1 hbehind)] at h
  cases h

theorem lt_lineCount_of_build {context : Context} (h : build d t limits = .ok context) :
    t < d.lineCount := by
  obtain ⟨text, htext, -⟩ := eq_ok_of_bind h
  exact lt_lineCount_of_line (eq_ok_of_mapError htext)

/-- **What a context is built from**, step by step. -/
theorem build_readsFrom (d : Document) (t : Nat) (limits : AnalysisLimits) :
    ReadsFrom d (Reads d t limits) (build d t limits) := by
  have hsteps := (readsFrom_line d t .target).bind fun text htext =>
    have ht := lt_lineCount_of_line (eq_ok_of_mapError htext)
    (readsFrom_nearest functionName? .enclosingFunction ht).bind fun function _ =>
    (readsFrom_nearest className? .enclosingClass ht).bind fun class_ _ =>
    (readsFrom_range d (t - limits.contextRadius)
      (wrappingAdd t limits.contextRadius + 1 - (t - limits.contextRadius)) .nearby).bind fun nearby _ =>
    (readsFrom_range d 0 limits.contextImportLines .imports).bind fun beginning _ =>
    readsFrom_ok (Context.mk d.languageId (function.map (·.2)) (class_.map (·.2)) (variablesOf nearby)
      (importsOf beginning))
  refine ReadsFrom.imp hsteps (fun i hi => ?_) fun i e hi hfails => ?_
  · rcases hi with rfl | hfunction | hclass | ⟨hle, hlt, hline⟩ | ⟨-, hlt, hline⟩ | hnone
    · exact reads_self ..
    · exact .inl hfunction
    · exact .inr (.inl hclass)
    · refine .inr (.inr (.inl ⟨hle, ?_⟩))
      rw [lastLine]
      omega
    · exact .inr (.inr (.inr (by omega)))
    · cases hnone
  · have hline := hfails.lt
    rcases hi with hfunction | hclass | ⟨hle, hge⟩ | hlt
    · exact .inr (.inl hfunction)
    · exact .inr (.inr (.inl hclass))
    · exact .inr (.inr (.inr (.inl ⟨hle, by omega, hline⟩)))
    · exact .inr (.inr (.inr (.inr (.inl ⟨Nat.zero_le i, by omega, hline⟩))))

/-- **A context depends on the lines that it is built from, and on the language.** Another document in the
same language may be longer or shorter, as long as this makes no difference around the line and at the
beginning. -/
theorem build_congr {context : Context} (h : build d t limits = .ok context)
    (hlanguage : d'.languageId = d.languageId)
    (hlines : ∀ i, LooksAt d t limits i → d'.lines[i]? = d.lines[i]?) :
    build d' t limits = .ok context := by
  have ht := lt_lineCount_of_build h
  have hline : d'.line t = d.line t := by
    obtain ⟨line, hline⟩ := exists_line ht
    rw [Document.line, Document.line, hlines t (looksAt_self ..), hline]
  have hfunction : d'.nearest functionName? t = d.nearest functionName? t :=
    nearest_congr ht fun i hle hge => hlines i (.inl ⟨hle, hge⟩)
  have hclass : d'.nearest className? t = d.nearest className? t :=
    nearest_congr ht fun i hle hge => hlines i (.inr (.inl ⟨hle, hge⟩))
  have hnearby : d'.range (t - limits.contextRadius)
      (wrappingAdd t limits.contextRadius + 1 - (t - limits.contextRadius)) =
        d.range (t - limits.contextRadius)
          (wrappingAdd t limits.contextRadius + 1 - (t - limits.contextRadius)) :=
    range_congr fun i hle hlt => hlines i (.inr (.inr (.inl ⟨hle, by omega⟩)))
  have hbeginning : d'.range 0 limits.contextImportLines = d.range 0 limits.contextImportLines :=
    range_congr fun i hle hlt => hlines i (.inr (.inr (.inr (by omega))))
  rw [← h]
  simp only [build, hline, Relation.enclosingFunction, Relation.enclosingClass, hfunction, hclass,
    hnearby, hbeginning, hlanguage]

/-- **A context is built** exactly if the document has the line and all lines that it is built from can be
read. -/
theorem build_ok_iff : (∃ context, build d t limits = .ok context) ↔
    t < d.lineCount ∧ ∀ i, Reads d t limits i → ∀ e, ¬ d.FailsOn i e := by
  have hreads := build_readsFrom d t limits
  constructor
  · rintro ⟨context, hcontext⟩
    refine ⟨lt_lineCount_of_build hcontext, ?_⟩
    rcases hreads with ⟨-, -, hok⟩ | ⟨i, step, cause, -, -, herror⟩
    · exact hok
    · cases hcontext.symm.trans herror
  · rintro ⟨ht, hok⟩
    rcases hreads with ⟨context, hcontext, -⟩ | ⟨i, step, cause, hi, hcause, -⟩
    · exact ⟨context, hcontext⟩
    · -- the document has all lines that are read, so what fails is one that cannot be read
      have hline := ((reads_iff_looksAt ht).1 hi).2
      exact absurd (failsOn_of_line hline hcause) (hok i hi cause)

/-- What is reported is the reason of one of the lines that a context is built from. -/
theorem exists_of_build_error {e : ContextError} (h : build d t limits = .error e) :
    ∃ i, Reads d t limits i ∧ d.line i = .error e.cause := by
  rcases build_readsFrom d t limits with ⟨context, hcontext, -⟩ | ⟨i, step, cause, hi, hcause, hstep⟩
  · cases h.symm.trans hcontext
  · obtain rfl := Except.error.inj (h.symm.trans hstep)
    exact ⟨i, hi, hcause⟩

end Context

/-! ### Analyses -/

namespace Analyzer

variable {a : Analyzer} {d : Document} {selection : Selection}

theorem analyze_of_build_error {e : ContextError}
    (h : Context.build d selection.first a.limits = .error e) :
    a.analyze d selection = .error ⟨selection.first, e.message⟩ := by
  rw [analyze, h]

theorem analyze_of_build {context : Context}
    (h : Context.build d selection.first a.limits = .ok context) :
    a.analyze d selection = .ok ⟨selection, (a.relatedLines d selection.first).toList, context⟩ := by
  rw [analyze, h]

end Analyzer

/-- **Analyses fail closed.** The context of a line is built exactly if the document has the line and none
of the lines that the context is built from is one that cannot be read; it depends on these lines and on
the language alone. They are the lines from the function on, those from the class on, those at most
`contextRadius` away, unless the sum goes round, and the first ones. If it cannot be built, then every
analysis of a selection from that line fails, with the line's number and with words that end with the reason
why one of these lines cannot be read. If it can be built, then every such analysis succeeds, whatever the
heuristics do. -/
theorem context_fails_closed (d : Document) (t : Nat) (limits : AnalysisLimits) :
    ((∃ context, Context.build d t limits = .ok context) ↔
      t < d.lineCount ∧ ∀ i, Context.Reads d t limits i → ∀ e, ¬ d.FailsOn i e) ∧
    (∀ context, Context.build d t limits = .ok context →
      ∀ d' : Document, d'.languageId = d.languageId →
        (∀ i, Context.LooksAt d t limits i → d'.lines[i]? = d.lines[i]?) →
        Context.build d' t limits = .ok context) ∧
    (t + limits.contextRadius < UInt64.size → ∀ i, Context.Reads d t limits i ↔
      (Context.functionStart d t ≤ i ∧ i ≤ t) ∨ (Context.classStart d t ≤ i ∧ i ≤ t) ∨
      (t - limits.contextRadius ≤ i ∧ i ≤ min (t + limits.contextRadius) d.lastLine) ∨
      i < min limits.contextImportLines d.lineCount) ∧
    (∀ e, Context.build d t limits = .error e →
      ∃ i cause, Context.Reads d t limits i ∧ d.line i = .error cause ∧
        ∀ (a : Analyzer) (selection : Selection), a.limits = limits → selection.first = t →
          a.analyze d selection = .error ⟨t, e.step.message ++ ": " ++ cause.message⟩) ∧
    ∀ context, Context.build d t limits = .ok context →
      ∀ (a : Analyzer) (selection : Selection), a.limits = limits → selection.first = t →
        a.analyze d selection = .ok ⟨selection, (a.relatedLines d t).toList, context⟩ := by
  refine ⟨Context.build_ok_iff, ?_, ?_, ?_, ?_⟩
  · intro context hcontext d' hlanguage hlines
    exact Context.build_congr hcontext hlanguage hlines
  · intro hfits i
    rw [Context.Reads, wrappingAdd_eq hfits]
  · intro e herror
    obtain ⟨i, hreads, hcause⟩ := Context.exists_of_build_error herror
    refine ⟨i, e.cause, hreads, hcause, fun a selection hlimits hfirst => ?_⟩
    subst hlimits hfirst
    exact Analyzer.analyze_of_build_error herror
  · intro context hcontext a selection hlimits hfirst
    subst hlimits hfirst
    exact Analyzer.analyze_of_build hcontext

/-- A function in a class, with a line behind each of them that cannot be read. -/
def brokenBehind : Document :=
  ⟨"javascript", [.ok "import a from 'b';", .error (.binaryFile "a.js"), .ok "class A \x7b",
    .ok "function f() \x7b", .ok "x();", .error (.binaryFile "a.js")]⟩

/-- The broken lines do not matter, unless a wider context or more imports are wanted. -/
example :
    Context.build brokenBehind 4 { contextRadius := 0, contextImportLines := 1 } =
      .ok ⟨"javascript", some "f", some "A", [], ["import a from 'b';"]⟩ ∧
    Context.build brokenBehind 4 { contextRadius := 1, contextImportLines := 1 } =
      .error ⟨.nearby 5, .binaryFile "a.js"⟩ ∧
    Context.build brokenBehind 4 { contextRadius := 0, contextImportLines := 2 } =
      .error ⟨.imports 1, .binaryFile "a.js"⟩ := by
  decide +kernel

end LineKin
