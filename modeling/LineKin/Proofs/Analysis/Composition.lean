import LineKin.Analysis.Basic

/-!
# How heuristics work together

`Proposes hs d t i` says that one of the heuristics `hs` answers for the target `t` and proposes the
line `i`. The answer of an analyzer is determined by it (`mem_relatedLines_iff`), whatever the
heuristics are, and whether the lines of the document can be read or not.

**`relatedLines_composition`**: the answer is the ascending list of the target and the proposed lines
that the document has. Hence the order of the heuristics does not matter, nor whether one is asked
twice; one that gives up is as good as none, and another one never takes a line away.
-/

namespace LineKin.Analyzer

variable {hs hs' before after : List Heuristic} {h : Heuristic} {limits limits' : AnalysisLimits}
  {d : Document} {t i : Nat}

/-- One of the heuristics answers for the target and proposes the line. -/
def Proposes (hs : List Heuristic) (d : Document) (t i : Nat) : Prop :=
  ∃ h ∈ hs, ∃ lines, h.propose d t = .ok lines ∧ i ∈ lines

theorem mem_proposals : i ∈ proposals h d t ↔ ∃ lines, h.propose d t = .ok lines ∧ i ∈ lines := by
  rw [proposals]
  cases h.propose d t with
  | ok lines => simp
  | error e => simp

/-- **What the answer is made of**: the target, and what is proposed inside the document. -/
theorem mem_relatedLines_iff : i ∈ (Analyzer.mk hs limits).relatedLines d t ↔
    i = t ∨ i < d.lineCount ∧ Proposes hs d t i := by
  rw [mem_relatedLines]
  simp only [mem_proposals, Proposes]

theorem Proposes.mono (hsub : hs ⊆ hs') (hp : Proposes hs d t i) : Proposes hs' d t i := by
  obtain ⟨h, hmem, hlines⟩ := hp
  exact ⟨h, hsub hmem, hlines⟩

/-- Only what answers proposes anything. -/
theorem proposes_insert_failing {e : Failure} (hfail : h.propose d t = .error e) :
    Proposes (before ++ h :: after) d t i ↔ Proposes (before ++ after) d t i := by
  constructor
  · rintro ⟨h', hmem, lines, hlines, hi⟩
    have hne : h' ≠ h := by
      rintro rfl
      rw [hfail] at hlines
      cases hlines
    refine ⟨h', ?_, lines, hlines, hi⟩
    rw [List.mem_append, List.mem_cons] at hmem
    exact List.mem_append.2 (hmem.imp_right fun hmem => hmem.resolve_left hne)
  · intro hp
    refine hp.mono fun h' hmem => ?_
    rw [List.mem_append] at hmem ⊢
    exact hmem.imp_right (List.mem_cons_of_mem h)

theorem relatedLines_mono (hsub : hs ⊆ hs') (hi : i ∈ (Analyzer.mk hs limits).relatedLines d t) :
    i ∈ (Analyzer.mk hs' limits').relatedLines d t := by
  rw [mem_relatedLines_iff] at hi ⊢
  exact hi.imp_right fun ⟨hlt, hp⟩ => ⟨hlt, hp.mono hsub⟩

/-- The answer of some heuristics is the union of the answers of each one. -/
theorem mem_relatedLines_iff_exists (hne : hs ≠ []) : i ∈ (Analyzer.mk hs limits).relatedLines d t ↔
    ∃ h ∈ hs, i ∈ (Analyzer.mk [h] limits).relatedLines d t := by
  constructor
  · intro hi
    rcases mem_relatedLines_iff.1 hi with rfl | ⟨hlt, h, hmem, hlines⟩
    · obtain ⟨h, hmem⟩ := List.exists_mem_of_ne_nil hs hne
      exact ⟨h, hmem, mem_relatedLines_iff.2 (.inl rfl)⟩
    · exact ⟨h, hmem, mem_relatedLines_iff.2 (.inr ⟨hlt, h, List.mem_singleton_self h, hlines⟩)⟩
  · rintro ⟨h, hmem, hi⟩
    exact relatedLines_mono (List.cons_subset.2 ⟨hmem, List.nil_subset hs⟩) hi

/-- A list is the answer exactly if it ascends and has these members. -/
theorem eq_toList_relatedLines_iff {answer : List Nat} :
    answer = ((Analyzer.mk hs limits).relatedLines d t).toList ↔
      answer.Pairwise (· < ·) ∧
        ∀ i, i ∈ answer ↔ i = t ∨ i < d.lineCount ∧ Proposes hs d t i := by
  constructor
  · rintro rfl
    exact ⟨LineSet.ascending _, fun i => mem_relatedLines_iff⟩
  · rintro ⟨hascending, hmem⟩
    exact LineSet.eq_of_pairwise hascending (LineSet.ascending _) fun i =>
      (hmem i).trans mem_relatedLines_iff.symm

/-- **The composition of heuristics.** The answer is the ascending list of the target and the lines of
the document that are proposed. It is the same for heuristics in another order or asked more than
once, a heuristic that gives up may as well be left out, more heuristics have no fewer lines, and the
answer of at least one heuristic is the union of the answers of each. -/
theorem relatedLines_composition (hs : List Heuristic) (limits : AnalysisLimits) (d : Document)
    (t : Nat) :
    (∀ answer : List Nat, answer = ((Analyzer.mk hs limits).relatedLines d t).toList ↔
      answer.Pairwise (· < ·) ∧
        ∀ i, i ∈ answer ↔ i = t ∨ i < d.lineCount ∧ Proposes hs d t i) ∧
    (∀ hs' limits', (∀ h, h ∈ hs' ↔ h ∈ hs) →
      (Analyzer.mk hs' limits').relatedLines d t = (Analyzer.mk hs limits).relatedLines d t) ∧
    (∀ before failing after e, hs = before ++ after → failing.propose d t = .error e →
      (Analyzer.mk (before ++ failing :: after) limits).relatedLines d t =
        (Analyzer.mk hs limits).relatedLines d t) ∧
    (∀ hs', hs ⊆ hs' → ∀ i ∈ (Analyzer.mk hs limits).relatedLines d t,
      i ∈ (Analyzer.mk hs' limits).relatedLines d t) ∧
    (hs ≠ [] → ∀ i, i ∈ (Analyzer.mk hs limits).relatedLines d t ↔
      ∃ h ∈ hs, i ∈ (Analyzer.mk [h] limits).relatedLines d t) := by
  refine ⟨fun answer => eq_toList_relatedLines_iff, fun hs' limits' hsame => ?_, ?_,
    fun hs' hsub i hi => relatedLines_mono hsub hi, fun hne i => mem_relatedLines_iff_exists hne⟩
  · exact LineSet.ext fun i => ⟨relatedLines_mono fun h hmem => (hsame h).1 hmem,
      relatedLines_mono fun h hmem => (hsame h).2 hmem⟩
  · rintro before failing after e rfl hfail
    refine LineSet.ext fun i => ?_
    rw [mem_relatedLines_iff, mem_relatedLines_iff, proposes_insert_failing hfail]

/-- A heuristic that proposes the same lines for every target. -/
def fixedHeuristic (lines : List Nat) : Heuristic := ⟨"fixed", fun _ _ => .ok (.ofList lines)⟩

/-- A heuristic that always gives up. -/
def failingHeuristic : Heuristic := ⟨"failing", fun _ _ => .error (.stated "nothing to say")⟩

/-- A document whose second line cannot be read. -/
def halfReadable : Document :=
  ⟨"javascript", [.ok "a();", .error (.readFailed "half.js" "the disk is gone"), .ok "b();"]⟩

/-- Two heuristics, one of which proposes a line that is not there, for a target that is not there
either: in the other order, with one asked twice, and with one that gives up between them. -/
theorem relatedLines_composition_halfReadable :
    let near := fixedHeuristic [0, 7]
    let far := fixedHeuristic [1]
    ((∀ h, h ∈ [far, near, far] ↔ h ∈ [near, far]) ∧ [near, far] = [near] ++ [far] ∧
      failingHeuristic.propose halfReadable 5 = .error (.stated "nothing to say") ∧
      [near, far] ⊆ [near, failingHeuristic, far] ∧ [near, far] ≠ []) ∧
    ([0, 1, 5] = ((Analyzer.mk [near, far] {}).relatedLines halfReadable 5).toList ↔
      [0, 1, 5].Pairwise (· < ·) ∧ ∀ i, i ∈ [0, 1, 5] ↔
        i = 5 ∨ i < halfReadable.lineCount ∧ Proposes [near, far] halfReadable 5 i) ∧
    (Analyzer.mk [far, near, far] {}).relatedLines halfReadable 5 =
      (Analyzer.mk [near, far] {}).relatedLines halfReadable 5 ∧
    (Analyzer.mk ([near] ++ failingHeuristic :: [far]) {}).relatedLines halfReadable 5 =
      (Analyzer.mk [near, far] {}).relatedLines halfReadable 5 ∧
    (∀ i ∈ (Analyzer.mk [near, far] {}).relatedLines halfReadable 5,
      i ∈ (Analyzer.mk [near, failingHeuristic, far] {}).relatedLines halfReadable 5) ∧
    ∀ i, i ∈ (Analyzer.mk [near, far] {}).relatedLines halfReadable 5 ↔
      ∃ h ∈ [near, far], i ∈ (Analyzer.mk [h] {}).relatedLines halfReadable 5 := by
  intro near far
  have hsame : ∀ h, h ∈ [far, near, far] ↔ h ∈ [near, far] := fun h => by simp [or_comm]
  have hsub : [near, far] ⊆ [near, failingHeuristic, far] := by simp
  obtain ⟨hanswer, hperm, hfail, hmono, hunion⟩ :=
    relatedLines_composition [near, far] {} halfReadable 5
  exact ⟨⟨hsame, rfl, rfl, hsub, List.cons_ne_nil _ _⟩, hanswer [0, 1, 5],
    hperm [far, near, far] {} hsame, hfail [near] failingHeuristic [far] _ rfl rfl,
    hmono [near, failingHeuristic, far] hsub, hunion (List.cons_ne_nil _ _)⟩

end LineKin.Analyzer
