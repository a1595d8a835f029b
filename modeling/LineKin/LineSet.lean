/-!
# Sets of line numbers

A `LineSet` is a strictly ascending list of line numbers, so two sets with the same members are
equal (`LineSet.ext`) and the list is the order in which the lines are shown. Membership after each
operation is described by the lemmas `mem_union`, `mem_insert`, `mem_ofList`, `mem_filter`.
-/

namespace LineKin

/-- A set of line numbers. -/
structure LineSet where
  /-- The members, each once and in ascending order. -/
  toList : List Nat
  /-- The order of the members. -/
  ascending : toList.Pairwise (· < ·)
  deriving DecidableEq

namespace LineSet

instance : Membership Nat LineSet := ⟨fun s line => line ∈ s.toList⟩
instance : EmptyCollection LineSet := ⟨⟨[], .nil⟩⟩

theorem mem_def {s : LineSet} {line : Nat} : line ∈ s ↔ line ∈ s.toList := Iff.rfl

instance (line : Nat) (s : LineSet) : Decidable (line ∈ s) :=
  inferInstanceAs (Decidable (line ∈ s.toList))

/-! ### Ascending lists -/

/-- In an ascending list, the numbers before the first one that is not below a bound are those below
it. -/
theorem takeWhile_eq_filter {lines : List Nat} (h : lines.Pairwise (· < ·)) (line : Nat) :
    lines.takeWhile (· < line) = lines.filter (· < line) := by
  induction lines with
  | nil => rfl
  | cons first rest ih =>
    by_cases hlt : first < line
    · simp [hlt, ih h.of_cons]
    · have hrest : ∀ i ∈ rest, ¬ i < line := fun i hi hi' =>
        hlt (Nat.lt_trans (List.rel_of_pairwise_cons h hi) hi')
      simpa [hlt] using hrest

/-- In an ascending list, the numbers from the first one on that is above a bound are those above
it. -/
theorem dropWhile_eq_filter {lines : List Nat} (h : lines.Pairwise (· < ·)) (line : Nat) :
    lines.dropWhile (· ≤ line) = lines.filter (line < ·) := by
  induction lines with
  | nil => rfl
  | cons first rest ih =>
    by_cases hle : first ≤ line
    · simp [hle, Nat.not_lt.2 hle, ih h.of_cons]
    · have hlt : line < first := Nat.lt_of_not_le hle
      have hrest : ∀ i ∈ rest, line < i := fun i hi =>
        Nat.lt_trans hlt (List.rel_of_pairwise_cons h hi)
      simp [hle, hlt, List.filter_eq_self.2 fun i hi => decide_eq_true (hrest i hi)]

/-- Puts a number behind those that are passed already, in reverse, and the ones in front of it that
are still to come. -/
def pass (state : List Nat × List Nat) (line : Nat) : List Nat × List Nat :=
  (line :: ((state.2.takeWhile (· < line)).reverse ++ state.1), state.2.dropWhile (· ≤ line))

/-- Two ascending lists as one, in a single walk through both. -/
def merge (lines others : List Nat) : List Nat :=
  let state := lines.foldl pass ([], others)
  state.1.reverse ++ state.2

theorem foldl_pass (lines : List Nat) (state : List Nat × List Nat) :
    (lines.foldl pass state).1.reverse ++ (lines.foldl pass state).2 =
      state.1.reverse ++ merge lines state.2 := by
  induction lines generalizing state with
  | nil => simp [merge]
  | cons line lines ih =>
    simp only [merge, List.foldl_cons] at ih ⊢
    rw [ih, ih (pass ([], state.2) line)]
    simp [pass]

@[simp] theorem merge_nil (others : List Nat) : merge [] others = others := rfl

theorem merge_cons (line : Nat) (lines others : List Nat) :
    merge (line :: lines) others =
      others.takeWhile (· < line) ++ line :: merge lines (others.dropWhile (· ≤ line)) := by
  show (lines.foldl pass (pass ([], others) line)).1.reverse ++ _ = _
  rw [List.foldl_cons, foldl_pass]
  simp [pass]

theorem mem_merge {i : Nat} {lines others : List Nat} (h : others.Pairwise (· < ·)) :
    i ∈ merge lines others ↔ i ∈ lines ∨ i ∈ others := by
  induction lines generalizing others with
  | nil => simp
  | cons line lines ih =>
    rw [merge_cons, takeWhile_eq_filter h, dropWhile_eq_filter h, List.mem_append,
      List.mem_cons, ih (h.filter _), List.mem_cons, List.mem_filter, List.mem_filter]
    simp only [decide_eq_true_eq]
    rcases Nat.lt_trichotomy i line with hi | hi | hi
    · simp [hi, Nat.not_lt.2 (Nat.le_of_lt hi), or_comm, or_assoc]
    · simp [hi]
    · simp [hi, Nat.not_lt.2 (Nat.le_of_lt hi), or_assoc]

theorem pairwise_merge {lines others : List Nat} (hl : lines.Pairwise (· < ·))
    (h : others.Pairwise (· < ·)) : (merge lines others).Pairwise (· < ·) := by
  induction lines generalizing others with
  | nil => simpa using h
  | cons line lines ih =>
    rw [merge_cons, takeWhile_eq_filter h, dropWhile_eq_filter h]
    have hrest : ∀ i ∈ merge lines (others.filter (line < ·)), line < i := by
      intro i hi
      rcases (mem_merge (h.filter _)).1 hi with hi | hi
      · exact List.rel_of_pairwise_cons hl hi
      · simpa using (List.mem_filter.1 hi).2
    refine List.pairwise_append.2 ⟨h.filter _, (ih hl.of_cons (h.filter _)).cons hrest, ?_⟩
    intro i hi j hj
    have hi : i < line := by simpa using (List.mem_filter.1 hi).2
    rcases List.mem_cons.1 hj with rfl | hj
    · exact hi
    · exact Nat.lt_trans hi (hrest j hj)

/-! ### Operations -/

/-- The lines of two sets together. -/
def union (s t : LineSet) : LineSet :=
  ⟨merge s.toList t.toList, pairwise_merge s.ascending t.ascending⟩

instance : Union LineSet := ⟨union⟩

@[simp] theorem mem_union {i : Nat} {s t : LineSet} : i ∈ s ∪ t ↔ i ∈ s ∨ i ∈ t :=
  mem_merge t.ascending

/-- The set with one more line. -/
def insert (line : Nat) (s : LineSet) : LineSet := ⟨[line], List.pairwise_singleton ..⟩ ∪ s

@[simp] theorem mem_insert {line i : Nat} {s : LineSet} : i ∈ s.insert line ↔ i = line ∨ i ∈ s := by
  rw [insert, mem_union]
  simp [mem_def]

@[simp] theorem not_mem_empty {i : Nat} : i ∉ (∅ : LineSet) := List.not_mem_nil

/-- The set of the lines of a list. -/
def ofList (lines : List Nat) : LineSet := lines.foldr insert ∅

@[simp] theorem mem_ofList {i : Nat} {lines : List Nat} : i ∈ ofList lines ↔ i ∈ lines := by
  induction lines with
  | nil => simp [ofList]
  | cons first rest ih => simp only [ofList, List.foldr_cons, mem_insert] at ih ⊢; simp [ih]

/-- The lines of a set that pass a test. -/
def filter (keep : Nat → Bool) (s : LineSet) : LineSet :=
  ⟨s.toList.filter keep, s.ascending.filter keep⟩

@[simp] theorem mem_filter {i : Nat} {keep : Nat → Bool} {s : LineSet} :
    i ∈ s.filter keep ↔ i ∈ s ∧ keep i = true := List.mem_filter

/-- Two ascending lists with the same members are equal. -/
theorem eq_of_pairwise {xs ys : List Nat} (hx : xs.Pairwise (· < ·)) (hy : ys.Pairwise (· < ·))
    (h : ∀ i, i ∈ xs ↔ i ∈ ys) : xs = ys := by
  induction xs generalizing ys with
  | nil =>
    cases ys with
    | nil => rfl
    | cons y ys => simpa using h y
  | cons x xs ih =>
    cases ys with
    | nil => simpa using h x
    | cons y ys =>
      have hxs : ∀ {i}, i ∈ xs → x < i := fun hi => List.rel_of_pairwise_cons hx hi
      have hys : ∀ {i}, i ∈ ys → y < i := fun hi => List.rel_of_pairwise_cons hy hi
      -- the least members agree, since each list holds the other's
      have hxy : x = y := by
        rcases List.mem_cons.1 ((h x).1 List.mem_cons_self) with rfl | hmem
        · rfl
        · rcases List.mem_cons.1 ((h y).2 List.mem_cons_self) with rfl | hmem'
          · rfl
          · exact absurd (hxs hmem') (Nat.lt_asymm (hys hmem))
      subst hxy
      refine congrArg _ (ih hx.of_cons hy.of_cons fun i => ?_)
      have hi := h i
      simp only [List.mem_cons] at hi
      constructor
      · intro hm
        exact (hi.1 (.inr hm)).resolve_left fun heq => Nat.lt_irrefl _ (heq ▸ hxs hm)
      · intro hm
        exact (hi.2 (.inr hm)).resolve_left fun heq => Nat.lt_irrefl _ (heq ▸ hys hm)

/-- A set is determined by its members. -/
theorem ext {s t : LineSet} (h : ∀ i, i ∈ s ↔ i ∈ t) : s = t := by
  cases s; cases t
  congr
  exact eq_of_pairwise ‹_› ‹_› h

end LineSet

end LineKin
