import LineKin.Proofs.Workspace.Frame

/-!
# Remembered lines and the current text

The results for a document speak of line numbers, and its text may be replaced after they were found.
`HistoryEntry.FitsOn` says that the lines of a result are lines of a document, in ascending order and
with the selected line among them.

What an analyzer finds for a line of a document fits on it, whatever its heuristics propose, since
lines that are not there are left out. A result is only kept as long as the document is the one it was
found for. So after any calls the whole history of every open document fits on the text that is open
now (`history_fits_document`).
-/

namespace LineKin

/-- The lines of a result can be shown in a document. -/
structure HistoryEntry.FitsOn (entry : HistoryEntry) (d : TextDocument) : Prop where
  /-- The related lines ascend. -/
  ascending : entry.related.Pairwise (· < ·)
  /-- The document has all of them. -/
  within : ∀ i ∈ entry.related, i < d.lineCount
  /-- The first selected line is one of them. -/
  first_mem : entry.selection.first ∈ entry.related

theorem HistoryEntry.FoundBy.fitsOn {entry : HistoryEntry} {a : Analyzer} {d : TextDocument}
    (h : entry.FoundBy a d) : entry.FitsOn d where
  ascending := by
    rw [h.related_eq]
    exact (a.relatedLines d entry.selection.first).ascending
  within i hi := by
    have hline := h.first_lt
    rw [h.related_eq] at hi
    rw [← TextDocument.lineCount_view] at hline ⊢
    exact Analyzer.lt_lineCount_of_mem_relatedLines hline hi
  first_mem := by
    rw [h.related_eq]
    exact Analyzer.mem_relatedLines.2 (.inl rfl)

theorem mem_history_record {s : Session} {entry e : HistoryEntry} {limit : Nat}
    (he : e ∈ (s.record entry limit).history) : e ∈ s.history ∨ e = entry := by
  have hmem : e ∈ s.history ++ [entry] := List.mem_of_mem_drop he
  rwa [List.mem_append, List.mem_singleton] at hmem

namespace Workspace

variable {w w' : Workspace} {e : Event}

/-- Every remembered result fits on the text that is open under its identifier. -/
def HistoriesFit (w : Workspace) : Prop :=
  ∀ id s, w.sessions.find? id = some s → ∀ entry ∈ s.history, entry.FitsOn s.document

/-- A new text starts without results, and a result is only added to the document it was found for. -/
theorem HistoriesFit.moves (h : w.HistoriesFit) (hmoves : w.Moves e w') : w'.HistoriesFit := by
  intro id s' hopen' entry hentry
  rcases hmoves.find?_cases id with ⟨-, hsame⟩ | ⟨-, s, hnew, hhistory⟩ | ⟨-, hnone⟩ |
    ⟨s, found, hopen, -, hfound, hrecorded⟩
  · rw [hsame] at hopen'
    exact h id s' hopen' entry hentry
  · obtain rfl := Option.some.inj (hnew.symm.trans hopen')
    rw [hhistory] at hentry
    cases hentry
  · rw [hnone] at hopen'
    cases hopen'
  · obtain rfl := Option.some.inj (hrecorded.symm.trans hopen')
    show entry.FitsOn s.document
    rcases mem_history_record hentry with hold | rfl
    · exact h id s hopen entry hold
    · exact hfound.fitsOn

theorem historiesFit_run (analyzer : Analyzer) (limits : SessionLimits) (calls : List Call) :
    (Workspace.run { analyzer, limits } calls).2.HistoriesFit := by
  refine @run_induction { analyzer, limits } (fun _ w => w.HistoriesFit) ?_
    (fun h hmoves => h.moves hmoves) calls
  intro id s hopen
  rw [Catalog.find?_empty] at hopen
  cases hopen

/-- **Remembered lines fit the current text.** After any calls, and whatever the heuristics of the
analyzer propose, the related lines of every result that is kept for an open document ascend, are lines
of the text that is open now, and contain the line that was asked about, which is one of its lines. -/
theorem history_fits_document (analyzer : Analyzer) (limits : SessionLimits) (calls : List Call)
    (id : String) (s : Session)
    (hopen : (Workspace.run { analyzer, limits } calls).2.sessions.find? id = some s)
    (entry : HistoryEntry) (hentry : entry ∈ s.history) :
    entry.FitsOn s.document ∧ entry.selection.first < s.document.lineCount := by
  have hfits : entry.FitsOn s.document := historiesFit_run analyzer limits calls id s hopen entry hentry
  exact ⟨hfits, hfits.within _ hfits.first_mem⟩

/-- A document of three lines is asked about, and again after its text was replaced by a single line. -/
def shortened : List Call :=
  [.openText "9:00" "a.js" "a();\nb();\nc();" "javascript", .relatedLines "9:01" "a.js" 2,
    .openText "9:02" "a.js" "a();" "javascript", .relatedLines "9:03" "a.js" 0]

/-- Of the lines that the heuristic proposes, the short text has the first one only, and nothing is
left of the result for the long text. -/
theorem history_fits_document_shortened :
    let analyzer : Analyzer := ⟨[Analyzer.fixedHeuristic [2, 70, 0]], {}⟩
    let entry : HistoryEntry := ⟨"9:03", .line 0, [0], none⟩
    ∃ s, (Workspace.run { analyzer, limits := {} } shortened).2.sessions.find? "a.js" = some s ∧
      s.history = [entry] ∧ entry.FitsOn s.document ∧ entry.selection.first < s.document.lineCount := by
  intro analyzer entry
  have hhistory : ((Workspace.run { analyzer, limits := {} } shortened).2.sessions.find? "a.js").map
      (·.history) = some [entry] := by decide +kernel
  obtain ⟨s, hopen, hs⟩ := Option.map_eq_some_iff.1 hhistory
  have hentry : entry ∈ s.history := hs ▸ List.mem_singleton_self entry
  exact ⟨s, hopen, hs, history_fits_document analyzer {} shortened "a.js" s hopen entry hentry⟩

end Workspace

end LineKin
