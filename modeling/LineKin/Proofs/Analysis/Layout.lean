import LineKin.Analysis.Context
import LineKin.Proofs.Relation.Layout

/-!
# Analyses of documents in another layout

The answers do not depend on the layout of a document.

* **`relatedLines_insertLine`**: a line of blanks that is inserted somewhere before the last line only
  renumbers the related lines, provided that the search for imports takes in the whole document.
* **`relatedLines_context_padded`**: blanks put around the lines change neither the related lines nor
  the context of a line, whatever the limits are.

Both are cases of `relatedLines_image`, which holds of any other layout.
-/

namespace LineKin

open Line Text LineSet LineKin.Relation TextDocument

variable {s : Nat → Nat} {d d' : TextDocument} {limits : AnalysisLimits} {t : Nat}
  {text padded : String}

namespace Analyzer

/-! ### Proposals for a line of a text document -/

theorem proposals_of_ok {h : Heuristic} {d : Document} {lines : LineSet}
    (hlines : h.propose d t = .ok lines) : proposals h d t = lines := by
  rw [proposals, hlines]

/-- Each heuristic proposes the image of what it proposed, if the search for imports takes in the
same lines. -/
theorem proposals_image (hd : Relayout s d d') (ht : t < d.lineCount)
    (hscan : Relaid s 0 0 (d.lines.take limits.importScanLines)
      (d'.lines.take limits.importScanLines)) :
    ∀ h ∈ standardHeuristics limits, IsImage s (proposals h d t) (proposals h d' (s t)) := by
  have htext : d.lines[t]? = some d.lines[t] := List.getElem?_eq_getElem ht
  obtain ⟨padded, hpadded, hpad⟩ := hd.exists_padded htext
  have hvariables : IsImage s (proposals sharedVariables d t) (proposals sharedVariables d' (s t)) := by
    rw [proposals_of_ok (onLines_view htext), proposals_of_ok (onLines_view hpadded)]
    exact hd.sharingLines_image hpad
  have hfunctions : IsImage s (proposals functions d t) (proposals functions d' (s t)) := by
    rw [proposals_of_ok (onLines_view htext), proposals_of_ok (onLines_view hpadded)]
    exact hd.definingLines_image hpad
  have hflow : IsImage s (proposals controlFlow d t) (proposals controlFlow d' (s t)) := by
    rw [proposals_of_ok (onLines_view htext), proposals_of_ok (onLines_view hpadded)]
    exact hd.flowLines_image htext hpad
  have himports : IsImage s (proposals (imports limits.importScanLines) d t)
      (proposals (imports limits.importScanLines) d' (s t)) := by
    rw [proposals_of_ok (propose_imports _ htext), proposals_of_ok (propose_imports _ hpadded),
      importableNames_padded hpad]
    split
    · exact .empty
    · exact hd.importLines_image hscan isName_of_mem_importableNames
  have hmembers : IsImage s (proposals classMembers d t) (proposals classMembers d' (s t)) := by
    rw [proposals_of_ok (propose_classMembers htext), proposals_of_ok (propose_classMembers hpadded)]
    exact hd.proposedMembers_image ht hpad
  simp only [standardHeuristics, List.forall_mem_cons]
  exact ⟨hvariables, hfunctions, hflow, himports, hmembers, nofun⟩

/-- Related lines in another layout are the image of the related lines. -/
theorem relatedLines_image (hd : Relayout s d d') (ht : t < d.lineCount)
    (hscan : Relaid s 0 0 (d.lines.take limits.importScanLines)
      (d'.lines.take limits.importScanLines)) :
    IsImage s ((standard limits).relatedLines d t) ((standard limits).relatedLines d' (s t)) := by
  have hproposals := proposals_image hd ht hscan
  intro j
  simp only [mem_relatedLines, lineCount_view]
  constructor
  · rintro (rfl | ⟨hj, h, hh, hmem⟩)
    · exact ⟨t, .inl rfl, rfl⟩
    · obtain ⟨i, hi, rfl⟩ := (hproposals h hh j).1 hmem
      exact ⟨i, .inr ⟨hd.apply_lt_iff.1 hj, h, hh, hi⟩, rfl⟩
  · rintro ⟨i, rfl | ⟨hi, h, hh, hmem⟩, rfl⟩
    · exact .inl rfl
    · exact .inr ⟨hd.apply_lt_iff.2 hi, h, hh, (hproposals h hh (s i)).2 ⟨i, hmem, rfl⟩⟩

end Analyzer

/-! ### Lines of blanks -/

/-- **A line of blanks only renumbers the answer**: if it is inserted somewhere before the last line,
then no related line is gained or lost. -/
theorem relatedLines_insertLine {number : Nat} {blanks : String} (hblanks : isBlankText blanks = true)
    (hnumber : number < d.lineCount) (ht : t < d.lineCount)
    (hscan : (d.insertLine number blanks).lineCount ≤ limits.importScanLines) :
    ((Analyzer.standard limits).relatedLines (d.insertLine number blanks) (shift number t)).toList =
      ((Analyzer.standard limits).relatedLines d t).toList.map (shift number) := by
  have hd := relayout_insertLine hblanks hnumber
  have hcount : d.lineCount ≤ limits.importScanLines := by
    have hlength : (d.insertLine number blanks).lineCount = d.lineCount + 1 :=
      List.length_insertIdx_of_le_length (Nat.le_of_lt hnumber) ..
    omega
  refine (Analyzer.relatedLines_image hd ht ?_).toList_eq hd.strictMono
  rw [List.take_of_length_le hcount, List.take_of_length_le hscan]
  exact hd.lines

/-- A conditional with two branches. -/
def twoBranches : TextDocument := ⟨"javascript", ["if (a) \x7b", "b = a;", "\x7d else \x7b", "\x7d"]⟩

/-- A line of blanks in the first branch. -/
theorem relatedLines_insertLine_twoBranches :
    (isBlankText " " = true ∧ 1 < twoBranches.lineCount ∧ 2 < twoBranches.lineCount ∧
      (twoBranches.insertLine 1 " ").lineCount ≤ 100) ∧
    ((Analyzer.standard {}).relatedLines (twoBranches.insertLine 1 " ") (shift 1 2)).toList =
      ((Analyzer.standard {}).relatedLines twoBranches 2).toList.map (shift 1) :=
  ⟨by decide, relatedLines_insertLine (by decide) (by decide) (by decide) (by decide)⟩

/-! ### Padded lines -/

namespace Context

theorem build_view (limits : AnalysisLimits) (ht : t < d.lineCount) :
    let first := t - limits.contextRadius
    let last := wrappingAdd t limits.contextRadius
    build d t limits = .ok
      { languageId := d.languageId
        functionName := (d.foundAbove functionName? t).map (·.2)
        className := (d.foundAbove className? t).map (·.2)
        scope := variablesOf ((d.lines.drop first).take (last + 1 - first))
        imports := importsOf ((d.lines.drop 0).take limits.contextImportLines) } := by
  have htext : d.lines[t]? = some d.lines[t] := List.getElem?_eq_getElem ht
  simp only [build, line_view htext, enclosingFunction, enclosingClass, nearest_view, range_view,
    mapError_ok, ok_bind]
  rfl

theorem variablesOf_padded {lines padded : List String} (h : List.Forall₂ Line.Padded lines padded) :
    variablesOf padded = variablesOf lines := by
  refine (relaid_of_forall₂ (i := 0) h).foldl_eq [] (fun hline => ?_) fun hblank => ?_
  · rw [declared_padded hline, assigned_padded hline]
  · rw [declared_blank hblank, assigned_blank hblank]
    rfl

theorem importsOf_padded {lines padded : List String} (h : List.Forall₂ Line.Padded lines padded) :
    importsOf padded = importsOf lines := by
  induction h with
  | nil => rfl
  | cons hline _ ih =>
    rw [importsOf, importsOf] at ih ⊢
    rw [List.filter_cons, List.filter_cons, isImport_padded hline]
    split
    · rw [List.map_cons, List.map_cons, hline.trimmed_eq, ih]
    · exact ih

theorem build_padded (h : Padded d d') (ht : t < d.lineCount) :
    build d' t limits = build d t limits := by
  have ht' : t < d'.lineCount := (relayout_of_padded h).apply_lt_iff.2 ht
  have hfound : ∀ {reading : String → Option String},
      (∀ {text padded}, Line.Padded text padded → reading padded = reading text) →
      (∀ {blanks}, isBlankText blanks = true → reading blanks = none) →
        d'.foundAbove reading t = d.foundAbove reading t := by
    intro reading hline hblank
    have hfound := (relayout_of_padded h).foundAbove_apply hline hblank ht
    rwa [Prod.map_id, Option.map_id_apply] at hfound
  have hpart : ∀ start count, List.Forall₂ Line.Padded ((d.lines.drop start).take count)
      ((d'.lines.drop start).take count) := fun start count =>
    List.forall₂_take count (List.forall₂_drop start h.lines)
  rw [build_view limits ht, build_view limits ht']
  simp only [h.languageId_eq, hfound functionName?_padded functionName?_blank,
    hfound className?_padded className?_blank, variablesOf_padded (hpart ..),
    importsOf_padded (hpart ..)]

end Context

/-- **Blanks around lines change nothing**: the related lines and the context of a line are those of
the same line before, whatever the limits are. -/
theorem relatedLines_context_padded (h : Padded d d') (ht : t < d.lineCount) (limits : AnalysisLimits) :
    (Analyzer.standard limits).relatedLines d' t = (Analyzer.standard limits).relatedLines d t ∧
      ∃ context, Context.build d t limits = .ok context ∧ Context.build d' t limits = .ok context := by
  constructor
  · have himage := Analyzer.relatedLines_image (relayout_of_padded h) ht
      (relaid_of_forall₂ (List.forall₂_take limits.importScanLines h.lines))
    refine LineSet.ext fun i => (himage i).trans ?_
    simp
  · refine ⟨_, Context.build_view limits ht, ?_⟩
    rw [Context.build_padded h ht]
    exact Context.build_view limits ht

/-- The conditional with its lines indented. -/
def twoBranchesIndented : TextDocument :=
  ⟨"javascript", ["\tif (a) \x7b ", "\t\u3000b = a;", "\t\x7d else \x7b", "\t\x7d"]⟩

/-- The conditional is the same with its lines indented. -/
theorem relatedLines_context_padded_twoBranches :
    (Padded twoBranches twoBranchesIndented ∧ 2 < twoBranches.lineCount) ∧
    (Analyzer.standard {}).relatedLines twoBranchesIndented 2 =
      (Analyzer.standard {}).relatedLines twoBranches 2 ∧
    ∃ context, Context.build twoBranches 2 {} = .ok context ∧
      Context.build twoBranchesIndented 2 {} = .ok context := by
  have hblank : ∀ text : List Char, text.all isBlank = true → AllBlank text :=
    fun _ => List.all_eq_true.1
  have htab : AllBlank ['\t'] := hblank _ (by decide)
  have hpadded : Padded twoBranches twoBranchesIndented :=
    ⟨rfl, .cons ⟨['\t'], [' '], htab, hblank _ (by decide), by decide⟩ <|
      .cons ⟨['\t', '\u3000'], [], hblank _ (by decide), nofun, by decide⟩ <|
      .cons ⟨['\t'], [], htab, nofun, by decide⟩ <| .cons ⟨['\t'], [], htab, nofun, by decide⟩ .nil⟩
  exact ⟨⟨hpadded, by decide⟩, relatedLines_context_padded hpadded (by decide) {}⟩

end LineKin
