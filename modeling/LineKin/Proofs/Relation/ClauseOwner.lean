import LineKin.Proofs.Document.Reading
import LineKin.Proofs.Relation.Chain
import Mathlib.Order.Bounds.Basic

/-!
# The statement that a clause belongs to

From an `else` the whole conditional is looked for, and from a `catch` or `finally` the whole guarded
block: the nearest header above that reaches the clause is taken for its owner. `FlowReaches d i j`
says that control flow relates line `j` to line `i`.

* **`controlFlow_clause_eq_owner`**: an alternative has exactly the related lines of its owner, and a
  handler has those of its owner and its own block.
* **`flowReaches_closed_header_iff`**: a header whose block ends on the line of a clause is found from
  that clause unless a header between the two reaches the clause as well. That can happen
  (`nested_header_takes_clause`): a nested statement that ends right above the clause is continued by
  the next line like one that stands alone, although a brace in front of the clause closes the block
  around it.
-/

namespace LineKin

open Statement

/-- Control flow relates the second line to the first. -/
def FlowReaches (d : Document) (i j : Nat) : Prop :=
  ∃ lines, Relation.controlFlow.propose d i = .ok lines ∧ j ∈ lines

namespace Outline

/-- The block of the statement on a line is closed by a brace on another line. -/
def ClosedAt (o : Outline) (i closing : Nat) : Prop :=
  Block.closingFrom (((o.line? i).map column).getD 0) i (o.rest i) = some closing

instance (o : Outline) (i closing : Nat) : Decidable (o.ClosedAt i closing) :=
  inferInstanceAs (Decidable (_ = _))

variable {o : Outline} {e h i : Nat}

theorem ClosedAt.closing_eq (hc : o.ClosedAt h e) : (o.block h).closing = e := by
  rw [block, hc]
  rfl

/-! ### Owners -/

/-- A header that passes the test for an owner is found if no other one below it does, when each
header reaches itself and nothing above it. -/
theorem mem_owner_iff {reach : Nat → LineSet} {test : Nat → Bool}
    (hle : ∀ i < e, ∀ j ∈ reach i, i ≤ j) (hself : h ∈ reach h) (hlt : h < e)
    (htest : test h = true) :
    h ∈ ((nearestAbove e test).map reach).getD ∅ ↔ ∀ i, h < i → i < e → test i = false := by
  cases howner : nearestAbove e test with
  | none => exact absurd (nearestAbove_eq_none_iff.1 howner h hlt) (by simp [htest])
  | some owner =>
    obtain ⟨hoe, hot, hlast⟩ := nearestAbove_eq_some_iff.1 howner
    show h ∈ reach owner ↔ _
    constructor
    · intro hmem
      have hoh := hle owner hoe h hmem
      exact fun i hi hie => hlast i (by omega) hie
    · intro hnone
      have hoh : owner = h := by
        rcases Nat.lt_trichotomy owner h with hl | rfl | hl
        · rw [hlast h hl hlt] at htest
          exact Bool.noConfusion htest
        · rfl
        · rw [hnone owner hl hoe] at hot
          exact Bool.noConfusion hot
      rwa [hoh]

/-- An alternative adds nothing to the conditional that it belongs to. -/
theorem alternativeLines_eq_branchLines (hk : o.kind e = some .alternative) (hh : h < o.size)
    (hmem : e ∈ o.branchLines h) : o.branchLines e ∪ o.branchLines h = o.branchLines h := by
  refine LineSet.ext fun i => ?_
  rw [LineSet.mem_union]
  constructor
  · rintro (hi | hi)
    · exact chain_subset hh (mem_clauses_of_mem_chain hh hmem hk) hi
    · exact hi
  · exact .inr

end Outline

namespace Relation

open Outline

variable {d : TextDocument} {e h i : Nat} {k : Kind}

theorem exists_text_of_kind (hk : d.outline.kind i = some k) :
    ∃ text, d.lines[i]? = some text ∧ kindOf text = some k := by
  rwa [Outline.kind, line?_eq, Option.bind_eq_some_iff] at hk

/-- What control flow proposes for a line of a text document. -/
theorem propose_controlFlow {text : String} (h : d.lines[i]? = some text) :
    controlFlow.propose d i = .ok (flowLines d.outline i text) := onLines_view h

theorem propose_conditional (hk : d.outline.kind i = some .conditional) :
    controlFlow.propose d i = .ok (d.outline.branchLines i) := by
  obtain ⟨text, htext, hkind⟩ := exists_text_of_kind hk
  rw [propose_controlFlow htext, flowLines, hkind]

theorem propose_attempt (hk : d.outline.kind i = some .attempt) :
    controlFlow.propose d i = .ok (d.outline.guardedLines i) := by
  obtain ⟨text, htext, hkind⟩ := exists_text_of_kind hk
  rw [propose_controlFlow htext, flowLines, hkind]

theorem propose_alternative (hk : d.outline.kind i = some .alternative) :
    controlFlow.propose d i = .ok (d.outline.alternativeLines i) := by
  obtain ⟨text, htext, hkind⟩ := exists_text_of_kind hk
  rw [propose_controlFlow htext, flowLines, hkind]

theorem propose_handler (hk : d.outline.kind i = some .handler) :
    controlFlow.propose d i = .ok (d.outline.handlerLines i) := by
  obtain ⟨text, htext, hkind⟩ := exists_text_of_kind hk
  rw [propose_controlFlow htext, flowLines, hkind]

theorem flowReaches_iff {lines : LineSet} (h : controlFlow.propose d i = .ok lines) :
    FlowReaches d i e ↔ e ∈ lines := by
  rw [FlowReaches, h]
  constructor
  · rintro ⟨lines', hlines, hmem⟩
    cases hlines
    exact hmem
  · exact fun hmem => ⟨lines, rfl, hmem⟩

/-- Whether a line is a header of a kind that reaches another line, for the two tests that look for an
owner. -/
theorem owner_test_iff {lines : LineSet}
    (h : d.outline.kind i = some k → controlFlow.propose d i = .ok lines) :
    (d.outline.kind i == some k && decide (e ∈ lines)) = true ↔
      d.outline.kind i = some k ∧ FlowReaches d i e := by
  rw [Bool.and_eq_true, beq_iff_eq, decide_eq_true_iff]
  exact and_congr_right fun hk => (flowReaches_iff (h hk)).symm

/-- The nearest line that passes a test is the greatest one above that has a property. -/
theorem isGreatest_of_nearestAbove {test : Nat → Bool} {p : Nat → Prop}
    (hp : ∀ i, test i = true ↔ p i) (h : nearestAbove e test = some i) :
    IsGreatest {i | i < e ∧ p i} i := by
  obtain ⟨hlt, htest, hlast⟩ := nearestAbove_eq_some_iff.1 h
  refine ⟨⟨hlt, (hp i).1 htest⟩, ?_⟩
  rintro j ⟨hj, hpj⟩
  by_contra hij
  have := hlast j (by omega) hj
  rw [(hp j).2 hpj] at this
  exact Bool.noConfusion this

theorem not_of_nearestAbove_none {test : Nat → Bool} {p : Nat → Prop}
    (hp : ∀ i, test i = true ↔ p i) (h : nearestAbove e test = none) (hi : i < e) : ¬ p i := by
  intro hpi
  have := nearestAbove_eq_none_iff.1 h i hi
  rw [(hp i).2 hpi] at this
  exact Bool.noConfusion this

theorem alternative_eq_owner (hk : d.outline.kind e = some .alternative) :
    (∃ h, IsGreatest {i | i < e ∧ d.outline.kind i = some .conditional ∧ FlowReaches d i e} h ∧
      controlFlow.propose d e = controlFlow.propose d h) ∨
    (∀ i < e, d.outline.kind i = some .conditional → ¬ FlowReaches d i e) ∧
      controlFlow.propose d e = .ok (d.outline.chain .alternative e) := by
  have htest := fun i => owner_test_iff (d := d) (e := e) (i := i) propose_conditional
  rw [propose_alternative hk, alternativeLines]
  cases howner : nearestAbove e fun i =>
      d.outline.kind i == some .conditional && decide (e ∈ d.outline.branchLines i) with
  | none =>
    right
    refine ⟨fun i hi hki hreach => not_of_nearestAbove_none htest howner hi ⟨hki, hreach⟩, ?_⟩
    exact congrArg Except.ok (LineSet.ext fun i => by simp [branchLines])
  | some h =>
    left
    obtain ⟨-, hth, -⟩ := nearestAbove_eq_some_iff.1 howner
    obtain ⟨hkh, hreach⟩ := (htest h).1 hth
    have hmem := (flowReaches_iff (propose_conditional hkh)).1 hreach
    refine ⟨h, isGreatest_of_nearestAbove htest howner, ?_⟩
    rw [propose_conditional hkh]
    exact congrArg Except.ok (alternativeLines_eq_branchLines hk (lt_size_of_kind hkh) hmem)

theorem handler_eq_owner (hk : d.outline.kind e = some .handler) :
    (∃ h lines, IsGreatest {i | i < e ∧ d.outline.kind i = some .attempt ∧ FlowReaches d i e} h ∧
      controlFlow.propose d h = .ok lines ∧
      controlFlow.propose d e = .ok (.ofList [e, (d.outline.block e).closing] ∪ lines)) ∨
    (∀ i < e, d.outline.kind i = some .attempt → ¬ FlowReaches d i e) ∧
      controlFlow.propose d e = .ok (.ofList [e, (d.outline.block e).closing]) := by
  have htest := fun i => owner_test_iff (d := d) (e := e) (i := i) propose_attempt
  rw [propose_handler hk, handlerLines]
  cases howner : nearestAbove e fun i =>
      d.outline.kind i == some .attempt && decide (e ∈ d.outline.guardedLines i) with
  | none =>
    right
    refine ⟨fun i hi hki hreach => not_of_nearestAbove_none htest howner hi ⟨hki, hreach⟩, ?_⟩
    exact congrArg Except.ok (LineSet.ext fun i => by simp)
  | some h =>
    left
    obtain ⟨-, hth, -⟩ := nearestAbove_eq_some_iff.1 howner
    have hkh := ((htest h).1 hth).1
    exact ⟨h, d.outline.guardedLines h, isGreatest_of_nearestAbove htest howner,
      propose_attempt hkh, rfl⟩

end Relation

open LineKin.Relation Outline

variable {d : TextDocument} {e h : Nat}

/-- **A clause and its header agree.** An alternative has exactly the related lines of the last
conditional above that reaches it, or those of the chain that starts at it. A handler has the lines of
the last guarded block above that reaches it, if there is one, and the ends of its own block. -/
theorem controlFlow_clause_eq_owner (d : TextDocument) (e : Nat) :
    (d.outline.kind e = some .alternative →
      (∃ h, IsGreatest {i | i < e ∧ d.outline.kind i = some .conditional ∧ FlowReaches d i e} h ∧
        controlFlow.propose d e = controlFlow.propose d h) ∨
      (∀ i < e, d.outline.kind i = some .conditional → ¬ FlowReaches d i e) ∧
        controlFlow.propose d e = .ok (d.outline.chain .alternative e)) ∧
    (d.outline.kind e = some .handler →
      (∃ h lines, IsGreatest {i | i < e ∧ d.outline.kind i = some .attempt ∧ FlowReaches d i e} h ∧
        controlFlow.propose d h = .ok lines ∧
        controlFlow.propose d e = .ok (.ofList [e, (d.outline.block e).closing] ∪ lines)) ∨
      (∀ i < e, d.outline.kind i = some .attempt → ¬ FlowReaches d i e) ∧
        controlFlow.propose d e = .ok (.ofList [e, (d.outline.block e).closing])) :=
  ⟨alternative_eq_owner, handler_eq_owner⟩

/-- A conditional that holds another one right above its `else`, and a guarded block that holds
another one right above its `catch`. -/
def nestedStatements : TextDocument :=
  ⟨"javascript", ["if (a) \x7b", "if (b) \x7b\x7d", "\x7d else \x7b", "\x7d",
    "try \x7b", "try \x7b\x7d", "\x7d catch (e) \x7b", "\x7d"]⟩

/-- The clauses on the lines 2 and 6 have owners. -/
theorem nestedStatements_clauses :
    (nestedStatements.outline.kind 2 = some .alternative ∧
      ((∃ h, IsGreatest {i | i < 2 ∧ nestedStatements.outline.kind i = some .conditional ∧
          FlowReaches nestedStatements i 2} h ∧
        controlFlow.propose nestedStatements 2 = controlFlow.propose nestedStatements h) ∨
      (∀ i < 2, nestedStatements.outline.kind i = some .conditional →
          ¬ FlowReaches nestedStatements i 2) ∧
        controlFlow.propose nestedStatements 2 =
          .ok (nestedStatements.outline.chain .alternative 2))) ∧
    nestedStatements.outline.kind 6 = some .handler ∧
      ((∃ h lines, IsGreatest {i | i < 6 ∧ nestedStatements.outline.kind i = some .attempt ∧
          FlowReaches nestedStatements i 6} h ∧
        controlFlow.propose nestedStatements h = .ok lines ∧
        controlFlow.propose nestedStatements 6 =
          .ok (.ofList [6, (nestedStatements.outline.block 6).closing] ∪ lines)) ∨
      (∀ i < 6, nestedStatements.outline.kind i = some .attempt →
          ¬ FlowReaches nestedStatements i 6) ∧
        controlFlow.propose nestedStatements 6 =
          .ok (.ofList [6, (nestedStatements.outline.block 6).closing])) := by
  have halt : nestedStatements.outline.kind 2 = some .alternative := by decide
  have hhandler : nestedStatements.outline.kind 6 = some .handler := by decide
  exact ⟨⟨halt, (controlFlow_clause_eq_owner nestedStatements 2).1 halt⟩,
    hhandler, (controlFlow_clause_eq_owner nestedStatements 6).2 hhandler⟩

/-! ### Headers whose block ends on the line of a clause -/

theorem conditional_reached_iff (hh : d.outline.kind h = some .conditional)
    (he : d.outline.kind e = some .alternative) (hlt : h < e) (hc : d.outline.ClosedAt h e) :
    FlowReaches d e h ↔
      ∀ i, h < i → i < e → d.outline.kind i = some .conditional → ¬ FlowReaches d i e := by
  have hsize := lt_size_of_kind hh
  have htest := fun i => owner_test_iff (d := d) (e := e) (i := i) propose_conditional
  have hmem : e ∈ d.outline.branchLines h := hc.closing_eq ▸ closing_mem_chain hsize
  have hle : ∀ i ≤ e, ∀ j ∈ d.outline.branchLines i, i ≤ j := fun i hi j hj =>
    (le_of_mem_chain (Nat.lt_of_le_of_lt hi (lt_size_of_kind he)) hj).1
  have hnot : h ∉ d.outline.branchLines e := fun hm => Nat.not_le.2 hlt (hle e (Nat.le_refl e) h hm)
  rw [flowReaches_iff (propose_alternative he), alternativeLines, LineSet.mem_union,
    or_iff_right hnot, mem_owner_iff (fun i hi => hle i (Nat.le_of_lt hi)) (self_mem_chain hsize) hlt
      ((htest h).2 ⟨hh, (flowReaches_iff (propose_conditional hh)).2 hmem⟩)]
  simp only [← Bool.not_eq_true, htest, not_and]

theorem attempt_reached_iff (hh : d.outline.kind h = some .attempt)
    (he : d.outline.kind e = some .handler) (hlt : h < e) (hc : d.outline.ClosedAt h e) :
    FlowReaches d e h ↔
      ∀ i, h < i → i < e → d.outline.kind i = some .attempt → ¬ FlowReaches d i e := by
  have hsize := lt_size_of_kind hh
  have htest := fun i => owner_test_iff (d := d) (e := e) (i := i) propose_attempt
  have hmem : e ∈ d.outline.guardedLines h :=
    mem_guardedLines_iff.2 (.inr (hc.closing_eq ▸ closing_mem_chain hsize))
  have hnot : h ∉ LineSet.ofList [e, (d.outline.block e).closing] := by
    have := d.outline.le_closing e
    intro hm
    simp only [LineSet.mem_ofList, List.mem_cons, List.not_mem_nil, or_false] at hm
    omega
  rw [flowReaches_iff (propose_handler he), handlerLines, LineSet.mem_union, or_iff_right hnot,
    mem_owner_iff (fun i hi j hj => le_of_mem_guardedLines (Nat.lt_trans hi (lt_size_of_kind he)) hj)
      (mem_guardedLines_iff.2 (.inr (self_mem_chain hsize))) hlt
      ((htest h).2 ⟨hh, (flowReaches_iff (propose_attempt hh)).2 hmem⟩)]
  simp only [← Bool.not_eq_true, htest, not_and]

/-- **When a clause reaches the header whose block it closes.** A conditional closed on the line of
an alternative is found from there exactly if no conditional between the two reaches the alternative;
the same holds of guarded blocks and handlers. -/
theorem flowReaches_closed_header_iff (hlt : h < e) (hc : d.outline.ClosedAt h e) :
    (d.outline.kind h = some .conditional → d.outline.kind e = some .alternative →
      (FlowReaches d e h ↔
        ∀ i, h < i → i < e → d.outline.kind i = some .conditional → ¬ FlowReaches d i e)) ∧
    (d.outline.kind h = some .attempt → d.outline.kind e = some .handler →
      (FlowReaches d e h ↔
        ∀ i, h < i → i < e → d.outline.kind i = some .attempt → ¬ FlowReaches d i e)) :=
  ⟨fun hh he => conditional_reached_iff hh he hlt hc, fun hh he => attempt_reached_iff hh he hlt hc⟩

/-- The `else` on line 2 is reached by the conditional on line 1, which takes it from line 0. -/
theorem nestedStatements_closed_header :
    (0 < 2 ∧ nestedStatements.outline.ClosedAt 0 2) ∧
    (nestedStatements.outline.kind 0 = some .conditional →
      nestedStatements.outline.kind 2 = some .alternative →
      (FlowReaches nestedStatements 2 0 ↔ ∀ i, 0 < i → i < 2 →
        nestedStatements.outline.kind i = some .conditional → ¬ FlowReaches nestedStatements i 2)) ∧
    (nestedStatements.outline.kind 0 = some .attempt →
      nestedStatements.outline.kind 2 = some .handler →
      (FlowReaches nestedStatements 2 0 ↔ ∀ i, 0 < i → i < 2 →
        nestedStatements.outline.kind i = some .attempt → ¬ FlowReaches nestedStatements i 2)) := by
  have hclosed : nestedStatements.outline.ClosedAt 0 2 := by decide
  exact ⟨⟨by decide, hclosed⟩, flowReaches_closed_header_iff (by decide) hclosed⟩

/-- A clause does not always reach the header whose block it closes. -/
theorem nested_header_takes_clause :
    (nestedStatements.outline.kind 0 = some .conditional ∧
      nestedStatements.outline.kind 2 = some .alternative ∧
      nestedStatements.outline.ClosedAt 0 2 ∧ ¬ FlowReaches nestedStatements 2 0) ∧
    nestedStatements.outline.kind 4 = some .attempt ∧
      nestedStatements.outline.kind 6 = some .handler ∧
      nestedStatements.outline.ClosedAt 4 6 ∧ ¬ FlowReaches nestedStatements 6 4 := by
  have halt : nestedStatements.outline.kind 2 = some .alternative := by decide
  have hhandler : nestedStatements.outline.kind 6 = some .handler := by decide
  refine ⟨⟨by decide, halt, by decide, ?_⟩, by decide, hhandler, by decide, ?_⟩
  · rw [flowReaches_iff (propose_alternative halt)]
    decide
  · rw [flowReaches_iff (propose_handler hhandler)]
    decide

end LineKin
