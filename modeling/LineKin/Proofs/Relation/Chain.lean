import LineKin.Proofs.Relation.Outline
import LineKin.Relation.Flow
import Mathlib.Logic.Relation

/-!
# Chains of clauses

`Continues k i j` says that the clause on `j` continues the one on `i`. One such step goes from a
block to a line at or behind its end (`Continues.closing_le`), so a walk never needs more steps than
the document has lines, and **`mem_clauses_iff`** says what the walk visits: what can be reached from
the header by such steps.

A line of a chain that is itself of the kind that continues it is a clause of the chain, and not
only the end of one (`mem_clauses_of_mem_chain`); from there on the chain is the one that starts at
this line (`chain_subset`).
-/

namespace LineKin.Outline

open Statement

variable {o : Outline} {k : Kind} {h i j m n : Nat}

/-- The clause of a kind on the second line continues the block on the first. -/
def Continues (o : Outline) (k : Kind) (i j : Nat) : Prop := o.nextClause k (o.block i) = some j

theorem Continues.kind_eq (h : o.Continues k i j) : o.kind j = some k := by
  rw [Continues, nextClause] at h
  split at h
  · rename_i hb
    obtain rfl : (o.block i).closing = j := Option.some.inj h
    simp at hb
    exact hb.2
  · have := (Option.filter_eq_some_iff.1 h).2
    simpa using this

/-- A clause lies at or behind the end of the block that it continues, and behind its start. -/
theorem Continues.closing_le (h : o.Continues k i j) : (o.block i).closing ≤ j ∧ i < j := by
  have hle := o.le_closing i
  rw [Continues, nextClause] at h
  split at h
  · rename_i hb
    obtain rfl : (o.block i).closing = j := Option.some.inj h
    have hne : (o.block i).closing ≠ i := by
      simp [opening_block] at hb
      exact of_decide_eq_true hb.1
    omega
  · have := (significantFrom_spec (Option.filter_eq_some_iff.1 h).1).1
    omega

theorem Continues.lt_size (h : o.Continues k i j) : j < o.size := lt_size_of_kind h.kind_eq

theorem continues_closing (hne : (o.block i).closing ≠ i) (hk : o.kind (o.block i).closing = some k) :
    o.Continues k i (o.block i).closing := by
  rw [Continues, nextClause, if_pos]
  simp [opening_block, hne, hk]

/-! ### The walk along a chain -/

/-- All walks that are long enough to reach the end of the document visit the same clauses. -/
theorem clausesUpTo_eq (hi : i < o.size) (hm : o.size - i ≤ m) (hn : o.size - i ≤ n) :
    o.clausesUpTo k m i = o.clausesUpTo k n i := by
  induction m generalizing i n with
  | zero => omega
  | succ m ih =>
    cases n with
    | zero => omega
    | succ n =>
      rw [clausesUpTo, clausesUpTo]
      cases hj : o.nextClause k (o.block i) with
      | none => rfl
      | some j =>
        have hlt := (Continues.closing_le hj).2
        exact congrArg (i :: ·) (ih (Continues.lt_size hj) (by omega) (by omega))

theorem clauses_eq (hi : i < o.size) : o.clauses k i =
    i :: (match o.nextClause k (o.block i) with
      | some j => o.clauses k j
      | none => []) := by
  have hstep : o.clauses k i = o.clausesUpTo k (o.size - i - 1 + 1) i :=
    clausesUpTo_eq hi (by omega) (by omega)
  rw [hstep, clausesUpTo]
  cases hj : o.nextClause k (o.block i) with
  | none => rfl
  | some j =>
    have hlt := (Continues.closing_le hj).2
    have hsize := Continues.lt_size hj
    exact congrArg (i :: ·) (clausesUpTo_eq hsize (by omega) (by omega))

/-- **The clauses of a header** are the lines reached from it by steps from a block to the clause
that continues it. -/
theorem mem_clauses_iff (hh : h < o.size) :
    i ∈ o.clauses k h ↔ Relation.ReflTransGen (o.Continues k) h i := by
  constructor
  · intro hmem
    -- induction on the number of lines from the header on
    induction hd : o.size - h using Nat.strongRecOn generalizing h with
    | _ d ih =>
      rw [clauses_eq hh, List.mem_cons] at hmem
      rcases hmem with rfl | hmem
      · exact .refl
      · cases hj : o.nextClause k (o.block h) with
        | none => simp [hj] at hmem
        | some j =>
          rw [hj] at hmem
          have hlt := (Continues.closing_le hj).2
          exact .head hj (ih _ (by omega) (Continues.lt_size hj) hmem rfl)
  · intro hsteps
    induction hsteps using Relation.ReflTransGen.head_induction_on with
    | refl => rw [clauses_eq hh]; exact List.mem_cons_self
    | head hstep _ ih =>
      rw [clauses_eq hh, hstep]
      exact List.mem_cons_of_mem _ (ih hstep.lt_size)

theorem le_of_mem_clauses (hh : h < o.size) (hi : i ∈ o.clauses k h) : h ≤ i ∧ i < o.size := by
  have hsteps := (mem_clauses_iff hh).1 hi
  induction hsteps with
  | refl => exact ⟨Nat.le_refl _, hh⟩
  | tail hsteps hstep ih =>
    have hle := (ih ((mem_clauses_iff hh).2 hsteps)).1
    have hlt := hstep.closing_le.2
    exact ⟨by omega, hstep.lt_size⟩

/-! ### The lines of a chain -/

theorem mem_chain_iff : i ∈ o.chain k h ↔ ∃ c ∈ o.clauses k h, i = c ∨ i = (o.block c).closing := by
  simp [chain]

theorem le_of_mem_chain (hh : h < o.size) (hi : i ∈ o.chain k h) : h ≤ i ∧ i < o.size := by
  obtain ⟨c, hc, rfl | rfl⟩ := mem_chain_iff.1 hi
  · exact le_of_mem_clauses hh hc
  · obtain ⟨hle, hlt⟩ := le_of_mem_clauses hh hc
    exact ⟨Nat.le_trans hle (o.le_closing c), closing_lt_size hlt⟩

theorem closing_mem_chain (hh : h < o.size) : (o.block h).closing ∈ o.chain k h :=
  mem_chain_iff.2 ⟨h, (mem_clauses_iff hh).2 .refl, .inr rfl⟩

theorem self_mem_chain (hh : h < o.size) : h ∈ o.chain k h :=
  mem_chain_iff.2 ⟨h, (mem_clauses_iff hh).2 .refl, .inl rfl⟩

/-- A line of a chain that is of the kind which continues it is one of its clauses. -/
theorem mem_clauses_of_mem_chain (hh : h < o.size) (hi : i ∈ o.chain k h)
    (hk : o.kind i = some k) : i ∈ o.clauses k h := by
  obtain ⟨c, hc, rfl | rfl⟩ := mem_chain_iff.1 hi
  · exact hc
  · by_cases hne : (o.block c).closing = c
    · rwa [hne]
    · -- the end of the block of `c` continues it, so it is the next clause
      have hsteps := (mem_clauses_iff hh).1 hc
      exact (mem_clauses_iff hh).2 (hsteps.tail (continues_closing hne hk))

/-- A chain holds the chains of its clauses. -/
theorem chain_subset (hh : h < o.size) (hj : j ∈ o.clauses k h) (hi : i ∈ o.chain k j) :
    i ∈ o.chain k h := by
  have hsize := (le_of_mem_clauses hh hj).2
  obtain ⟨c, hc, hic⟩ := mem_chain_iff.1 hi
  have hsteps := ((mem_clauses_iff hh).1 hj).trans ((mem_clauses_iff hsize).1 hc)
  exact mem_chain_iff.2 ⟨c, (mem_clauses_iff hh).2 hsteps, hic⟩

/-! ### Guarded blocks -/

theorem mem_guardedLines_iff : j ∈ o.guardedLines h ↔
    (h ≤ j ∧ j ≤ (o.block h).closing ∧ o.kind j = some .handler) ∨ j ∈ o.chain .handler h := by
  simp [guardedLines, Block.mem_lines, opening_block, and_assoc]

theorem le_of_mem_guardedLines (hh : h < o.size) (hi : i ∈ o.guardedLines h) : h ≤ i := by
  rcases mem_guardedLines_iff.1 hi with hi | hi
  · exact hi.1
  · exact (le_of_mem_chain hh hi).1

end LineKin.Outline
