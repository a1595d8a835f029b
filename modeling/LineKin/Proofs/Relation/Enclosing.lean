import LineKin.Proofs.Relation.ClauseOwner

/-!
# The header that a line belongs to

A label belongs to a selection, a jump to a loop, and a line without a keyword of its own to a guarded
block (`BelongsTo`). Such a line and its header are seen from two sides: from the header the lines
strictly inside its block are searched for members (`mem_blockWith_iff`), and from the line the
nearest header above is searched whose block contains the line, its last line included
(`propose_member`).

**`controlFlow_member_eq_header`**: both sides agree. A member has exactly the related lines of the
nearest header around it, and a member that a header reaches belongs to this header or to one nested
in it.
-/

namespace LineKin

open Statement

/-- A line with a statement of the first kind, or without a keyword, belongs to a header of the second
kind. -/
inductive BelongsTo : Option Kind → Kind → Prop where
  /-- A label is one of a selection. -/
  | label : BelongsTo (some .label) .selection
  /-- A jump leaves a loop, or goes on with it. -/
  | jump : BelongsTo (some .jump) .loop
  /-- A line without a keyword is guarded by an attempt. -/
  | plain : BelongsTo none .attempt

namespace Outline

variable {o : Outline} {k : Kind} {h i line : Nat}

theorem contains_block_iff : (o.block h).contains i = true ↔ h ≤ i ∧ i ≤ (o.block h).closing := by
  rw [Block.contains, Bool.and_eq_true, decide_eq_true_iff, decide_eq_true_iff, opening_block]

theorem mem_blockWith_iff : i ∈ o.blockWith k h ↔
    i = h ∨ i = (o.block h).closing ∨
      (h < i ∧ i < (o.block h).closing) ∧ o.kind i = some k := by
  simp [blockWith, Block.mem_interior, opening_block]

/-- A member in the block of a header is reached by the header, on the last line of the block too. -/
theorem mem_blockWith_of_contains (hlt : h < i) (hin : (o.block h).contains i)
    (hk : o.kind i = some k) : i ∈ o.blockWith k h := by
  rw [mem_blockWith_iff]
  rcases Nat.eq_or_lt_of_le (contains_block_iff.1 hin).2 with heq | hlt'
  · exact .inr (.inl heq)
  · exact .inr (.inr ⟨⟨hlt, hlt'⟩, hk⟩)

/-- A line that a header reaches, other than the header, lies below it and in its block. -/
theorem contains_of_mem_blockWith (hmem : i ∈ o.blockWith k h) (hne : i ≠ h) :
    h < i ∧ (o.block h).contains i := by
  have hclosing := o.le_closing h
  rw [mem_blockWith_iff] at hmem
  rw [contains_block_iff]
  omega

theorem enclosing_test_iff :
    (o.kind i == some k && (o.block i).contains line) = true ↔
      o.kind i = some k ∧ (o.block i).contains line := by
  rw [Bool.and_eq_true, beq_iff_eq]

end Outline

namespace Relation

open Outline

variable {d : TextDocument} {h i j t : Nat} {k m : Kind} {lines : LineSet}

/-- The headers of a kind above a line whose block contains the line. -/
def headersAround (d : TextDocument) (k : Kind) (t : Nat) : Set Nat :=
  {i | i < t ∧ d.outline.kind i = some k ∧ (d.outline.block i).contains t}

/-- The header that is searched for is the nearest one around the line. -/
theorem isGreatest_of_enclosing (henclosing : d.outline.enclosing k t = some h) :
    IsGreatest (headersAround d k t) h :=
  isGreatest_of_nearestAbove (fun _ => enclosing_test_iff) henclosing

theorem headersAround_eq_empty (henclosing : d.outline.enclosing k t = none) :
    headersAround d k t = ∅ := by
  refine Set.eq_empty_iff_forall_notMem.2 fun i hi => ?_
  exact not_of_nearestAbove_none (fun _ => enclosing_test_iff) henclosing hi.1 hi.2

/-! ### What control flow proposes for headers and their members -/

theorem propose_loop (hk : d.outline.kind i = some .loop) :
    controlFlow.propose d i = .ok (d.outline.loopLines i) := by
  obtain ⟨text, htext, hkind⟩ := exists_text_of_kind hk
  rw [propose_controlFlow htext, flowLines, hkind]

theorem propose_selection (hk : d.outline.kind i = some .selection) :
    controlFlow.propose d i = .ok (d.outline.selectionLines i) := by
  obtain ⟨text, htext, hkind⟩ := exists_text_of_kind hk
  rw [propose_controlFlow htext, flowLines, hkind]

theorem propose_label (hk : d.outline.kind t = some .label) : controlFlow.propose d t =
    .ok (((d.outline.enclosing .selection t).map d.outline.selectionLines).getD ∅) := by
  obtain ⟨text, htext, hkind⟩ := exists_text_of_kind hk
  rw [propose_controlFlow htext, flowLines, hkind]

theorem propose_jump (hk : d.outline.kind t = some .jump) : controlFlow.propose d t =
    .ok (((d.outline.enclosing .loop t).map d.outline.loopLines).getD ∅) := by
  obtain ⟨text, htext, hkind⟩ := exists_text_of_kind hk
  rw [propose_controlFlow htext, flowLines, hkind]

theorem propose_plain (ht : t < d.lineCount) (hk : d.outline.kind t = none) :
    controlFlow.propose d t =
      .ok (((d.outline.enclosing .attempt t).map d.outline.guardedLines).getD ∅) := by
  have htext : d.lines[t]? = some d.lines[t] := List.getElem?_eq_getElem ht
  have hkind : kindOf d.lines[t] = none := by
    rwa [d.kind_outline, htext, Option.bind_some] at hk
  rw [propose_controlFlow htext, flowLines, hkind]

/-- A member that is answered with the lines of the nearest header around it has the lines of the
greatest of those headers, or none. -/
theorem eq_header_of_enclosing {reach : Nat → LineSet}
    (hheader : ∀ {i}, d.outline.kind i = some k → controlFlow.propose d i = .ok (reach i))
    (hmember : controlFlow.propose d t = .ok (((d.outline.enclosing k t).map reach).getD ∅)) :
    (∃ h lines, IsGreatest (headersAround d k t) h ∧ controlFlow.propose d h = .ok lines ∧
      controlFlow.propose d t = .ok lines) ∨
    headersAround d k t = ∅ ∧ controlFlow.propose d t = .ok ∅ := by
  cases henclosing : d.outline.enclosing k t with
  | none =>
    rw [henclosing] at hmember
    exact .inr ⟨headersAround_eq_empty henclosing, hmember⟩
  | some h =>
    rw [henclosing] at hmember
    have hgreatest := isGreatest_of_enclosing henclosing
    exact .inl ⟨h, reach h, hgreatest, hheader hgreatest.1.2.1, hmember⟩

theorem propose_member {kind : Option Kind} (ht : t < d.lineCount) (hk : d.outline.kind t = kind)
    (hm : BelongsTo kind k) :
    (∃ h lines, IsGreatest (headersAround d k t) h ∧ controlFlow.propose d h = .ok lines ∧
      controlFlow.propose d t = .ok lines) ∨
    headersAround d k t = ∅ ∧ controlFlow.propose d t = .ok ∅ := by
  cases hm with
  | label => exact eq_header_of_enclosing propose_selection (propose_label hk)
  | jump => exact eq_header_of_enclosing propose_loop (propose_jump hk)
  | plain => exact eq_header_of_enclosing propose_attempt (propose_plain ht hk)

/-- A header with labels or jumps is related to itself, to the end of its block, and to these. -/
theorem propose_header (hm : BelongsTo (some m) k) (hk : d.outline.kind h = some k) :
    controlFlow.propose d h = .ok (d.outline.blockWith m h) := by
  cases hm with
  | label => exact propose_selection hk
  | jump => exact propose_loop hk

/-- A label or a jump that has a header around it is among the lines of that header. -/
theorem mem_header_lines (hm : BelongsTo (some m) k) (hk : d.outline.kind t = some m)
    (hh : h ∈ headersAround d k t) (hlines : controlFlow.propose d h = .ok lines) : t ∈ lines := by
  obtain ⟨hlt, hkh, hin⟩ := hh
  obtain rfl : d.outline.blockWith m h = lines :=
    Except.ok.inj ((propose_header hm hkh).symm.trans hlines)
  exact mem_blockWith_of_contains hlt hin hk

/-- A header whose lines hold a label or a jump lies around it. -/
theorem mem_headersAround (hm : BelongsTo (some m) k) (hh : d.outline.kind h = some k)
    (hk : d.outline.kind j = some m) (hreach : FlowReaches d h j) : h ∈ headersAround d k j := by
  have hmem : j ∈ d.outline.blockWith m h := (flowReaches_iff (propose_header hm hh)).1 hreach
  have hne : j ≠ h := by
    rintro rfl
    rw [hh] at hk
    cases hm <;> cases hk
  obtain ⟨hlt, hin⟩ := contains_of_mem_blockWith hmem hne
  exact ⟨hlt, hh, hin⟩

theorem lt_lineCount_of_kind (hk : d.outline.kind t = some m) : t < d.lineCount :=
  d.size_outline ▸ lt_size_of_kind hk

end Relation

open LineKin.Relation Outline

/-- **A member and its header agree.** A label, a jump or a line without a keyword has exactly the
related lines of the nearest selection, loop or guarded block around it, and none if there is none;
a label or a jump with related lines is one of them. Conversely, a label or a jump that a header
reaches has the related lines of this header or of one of its kind between the two. -/
theorem controlFlow_member_eq_header (d : TextDocument) :
    (∀ t < d.lineCount, ∀ k, BelongsTo (d.outline.kind t) k →
      ((∃ h lines, IsGreatest (headersAround d k t) h ∧ controlFlow.propose d h = .ok lines ∧
          controlFlow.propose d t = .ok lines) ∨
        headersAround d k t = ∅ ∧ controlFlow.propose d t = .ok ∅) ∧
      (d.outline.kind t ≠ none →
        ∀ lines, controlFlow.propose d t = .ok lines → lines ≠ ∅ → t ∈ lines)) ∧
    (∀ h j k, d.outline.kind h = some k → d.outline.kind j ≠ none →
      BelongsTo (d.outline.kind j) k → FlowReaches d h j →
      ∃ h' lines, h ≤ h' ∧ h' < j ∧ d.outline.kind h' = some k ∧
        controlFlow.propose d h' = .ok lines ∧ controlFlow.propose d j = .ok lines ∧ lines ≠ ∅) := by
  constructor
  · intro t ht k hm
    have hmember := propose_member ht rfl hm
    refine ⟨hmember, fun hsome lines hlines hne => ?_⟩
    obtain ⟨m, hk⟩ := Option.ne_none_iff_exists'.1 hsome
    rcases hmember with ⟨h, lines', hgreatest, hheader, hmember⟩ | ⟨-, hmember⟩
    · obtain rfl : lines' = lines := Except.ok.inj (hmember.symm.trans hlines)
      exact mem_header_lines (hk ▸ hm) hk hgreatest.1 hheader
    · exact absurd (Except.ok.inj (hmember.symm.trans hlines)).symm hne
  · intro h j k hh hsome hm hreach
    obtain ⟨m, hk⟩ := Option.ne_none_iff_exists'.1 hsome
    rw [hk] at hm
    have haround := mem_headersAround hm hh hk hreach
    rcases propose_member (lt_lineCount_of_kind hk) hk hm with
      ⟨h', lines, hgreatest, hheader, hmember⟩ | ⟨hempty, -⟩
    · have hmem : j ∈ lines := mem_header_lines hm hk hgreatest.1 hheader
      obtain ⟨hlt, hkh, -⟩ := hgreatest.1
      refine ⟨h', lines, hgreatest.2 haround, hlt, hkh, hheader, hmember, ?_⟩
      rintro rfl
      exact LineSet.not_mem_empty hmem
    · rw [hempty] at haround
      exact absurd haround (Set.notMem_empty h)

/-- A loop in a loop, with a jump on the last line of the inner one. -/
def nestedLoops : TextDocument :=
  ⟨"javascript", ["while (a) \x7b", "for (b) \x7b", "c();", "\x7d break;", "\x7d"]⟩

/-- The jump on line 3 belongs to the inner loop, although the outer one reaches it too. -/
theorem nestedLoops_member :
    (3 < nestedLoops.lineCount ∧ BelongsTo (nestedLoops.outline.kind 3) .loop ∧
      nestedLoops.outline.kind 0 = some .loop ∧ nestedLoops.outline.kind 3 ≠ none ∧
      FlowReaches nestedLoops 0 3) ∧
    (((∃ h lines, IsGreatest (headersAround nestedLoops .loop 3) h ∧
          controlFlow.propose nestedLoops h = .ok lines ∧
          controlFlow.propose nestedLoops 3 = .ok lines) ∨
        headersAround nestedLoops .loop 3 = ∅ ∧ controlFlow.propose nestedLoops 3 = .ok ∅) ∧
      (nestedLoops.outline.kind 3 ≠ none →
        ∀ lines, controlFlow.propose nestedLoops 3 = .ok lines → lines ≠ ∅ → 3 ∈ lines)) ∧
    ∃ h' lines, 0 ≤ h' ∧ h' < 3 ∧ nestedLoops.outline.kind h' = some .loop ∧
      controlFlow.propose nestedLoops h' = .ok lines ∧
      controlFlow.propose nestedLoops 3 = .ok lines ∧ lines ≠ ∅ := by
  have hloop : nestedLoops.outline.kind 0 = some .loop := by decide
  have hjump : nestedLoops.outline.kind 3 = some .jump := by decide
  have hsome : nestedLoops.outline.kind 3 ≠ none := by decide
  have hbelongs : BelongsTo (nestedLoops.outline.kind 3) .loop := hjump ▸ .jump
  have hreach : FlowReaches nestedLoops 0 3 := (flowReaches_iff (propose_loop hloop)).2 (by decide)
  obtain ⟨hmember, hheader⟩ := controlFlow_member_eq_header nestedLoops
  exact ⟨⟨by decide, hbelongs, hloop, hsome, hreach⟩, hmember 3 (by decide) .loop hbelongs,
    hheader 0 3 .loop hloop hsome hbelongs hreach⟩

end LineKin
