/-!
# Catalogues

A `Catalog` keeps values under names, each name once and in the order of the names, which is the
order of their characters' code points. Two catalogues that answer every look-up alike are equal
(`Catalog.ext`). The lemmas `find?_put`, `find?_putNew` and `find?_drop` say what a look-up gives
after each operation.
-/

namespace LineKin

/-- Values under distinct names, in the order of the names. -/
structure Catalog (α : Type) where
  /-- The names with their values. -/
  entries : List (String × α)
  /-- The order of the names. -/
  ascending : entries.Pairwise fun a b => a.1 < b.1

namespace Catalog

variable {α : Type}

instance : EmptyCollection (Catalog α) := ⟨⟨[], .nil⟩⟩

instance [DecidableEq α] : DecidableEq (Catalog α) := fun a b =>
  if h : a.entries = b.entries then
    isTrue (by cases a; cases b; cases h; rfl)
  else isFalse fun heq => h (heq ▸ rfl)

/-- The value under a name in a list of entries. -/
def lookup (name : String) : List (String × α) → Option α
  | [] => none
  | (n, value) :: rest => if name = n then some value else lookup name rest

/-- The value under a name. -/
def find? (c : Catalog α) (name : String) : Option α := lookup name c.entries

/-- Whether a name is in use. -/
def contains (c : Catalog α) (name : String) : Bool := (c.find? name).isSome

/-- The number of names in use. -/
def size (c : Catalog α) : Nat := c.entries.length

/-- Puts a value under a name into an ordered list of entries, in place of the value there. -/
def place (name : String) (value : α) : List (String × α) → List (String × α)
  | [] => [(name, value)]
  | (n, v) :: rest =>
    if name < n then (name, value) :: (n, v) :: rest
    else if name = n then (name, value) :: rest
    else (n, v) :: place name value rest

theorem fst_mem_place {name n : String} {value v : α} {entries : List (String × α)}
    (h : (n, v) ∈ place name value entries) : n = name ∨ (n, v) ∈ entries := by
  induction entries with
  | nil => simp [place] at h; exact .inl h.1
  | cons first rest ih =>
    obtain ⟨m, w⟩ := first
    rw [place] at h
    split at h
    · rcases List.mem_cons.1 h with h | h
      · exact .inl (Prod.mk.inj h).1
      · exact .inr h
    · split at h
      · rcases List.mem_cons.1 h with h | h
        · exact .inl (Prod.mk.inj h).1
        · exact .inr (List.mem_cons_of_mem _ h)
      · rcases List.mem_cons.1 h with h | h
        · exact .inr (h ▸ List.mem_cons_self)
        · exact (ih h).imp_right (List.mem_cons_of_mem _)

theorem pairwise_place {name : String} {value : α} {entries : List (String × α)}
    (h : entries.Pairwise fun a b => a.1 < b.1) :
    (place name value entries).Pairwise fun a b => a.1 < b.1 := by
  induction entries with
  | nil => simp [place]
  | cons first rest ih =>
    obtain ⟨m, w⟩ := first
    have hrest : ∀ e ∈ rest, m < e.1 := fun e he => List.rel_of_pairwise_cons h he
    rw [place]
    split
    · rename_i hlt
      refine List.Pairwise.cons (fun e he => ?_) h
      rcases List.mem_cons.1 he with rfl | he
      · exact hlt
      · exact String.lt_trans hlt (hrest e he)
    · split
      · rename_i heq
        subst heq
        exact List.Pairwise.cons hrest h.of_cons
      · rename_i hlt hne
        refine List.Pairwise.cons (fun e he => ?_) (ih h.of_cons)
        rcases fst_mem_place he with heq | he
        · rw [heq]
          exact Decidable.byContradiction fun hge =>
            hne (String.le_antisymm (String.not_lt.1 hge) (String.not_lt.1 hlt))
        · exact hrest e he

/-- The catalogue with a value put under a name, in place of the value there. -/
def put (c : Catalog α) (name : String) (value : α) : Catalog α :=
  ⟨place name value c.entries, pairwise_place c.ascending⟩

/-- The catalogue with a value put under a name, unless the name is in use. -/
def putNew (c : Catalog α) (name : String) (value : α) : Catalog α :=
  if c.contains name then c else c.put name value

/-- The catalogue without a name. -/
def drop (c : Catalog α) (name : String) : Catalog α :=
  ⟨c.entries.filter fun entry => entry.1 ≠ name, c.ascending.filter _⟩

/-! ### Look-ups after each operation -/

@[simp] theorem find?_empty (name : String) : (∅ : Catalog α).find? name = none := rfl

theorem lookup_place (name key : String) (value : α) (entries : List (String × α)) :
    lookup key (place name value entries) =
      if key = name then some value else lookup key entries := by
  induction entries with
  | nil => simp [place, lookup]
  | cons first rest ih =>
    obtain ⟨m, w⟩ := first
    rw [place]
    split
    · simp [lookup]
    · split
      · rename_i heq
        subst heq
        by_cases hk : key = name <;> simp [lookup, hk]
      · rename_i hne
        by_cases hk : key = m
        · subst hk
          simp [lookup, Ne.symm hne]
        · simp [lookup, hk, ih]

theorem find?_put (c : Catalog α) (name key : String) (value : α) :
    (c.put name value).find? key = if key = name then some value else c.find? key :=
  lookup_place name key value c.entries

theorem find?_putNew (c : Catalog α) (name key : String) (value : α) :
    (c.putNew name value).find? key =
      if key = name then some ((c.find? name).getD value) else c.find? key := by
  unfold putNew contains
  cases h : c.find? name with
  | none => simp [find?_put]
  | some v => by_cases hk : key = name <;> simp [hk, h]

theorem find?_drop (c : Catalog α) (name key : String) :
    (c.drop name).find? key = if key = name then none else c.find? key := by
  obtain ⟨entries, _⟩ := c
  simp only [find?, drop]
  induction entries with
  | nil => simp [lookup]
  | cons first rest ih =>
    obtain ⟨m, w⟩ := first
    have ih := ih (List.Pairwise.of_cons ‹_›)
    by_cases hm : m = name
    · subst hm
      by_cases hk : key = m <;> simp_all [lookup]
    · by_cases hk : key = name
      · subst hk
        simp_all [lookup, Ne.symm hm]
      · by_cases hkm : key = m <;> simp_all [lookup]

theorem lookup_eq_some_iff {entries : List (String × α)}
    (h : entries.Pairwise fun a b => a.1 < b.1) {name : String} {value : α} :
    lookup name entries = some value ↔ (name, value) ∈ entries := by
  induction entries with
  | nil => simp [lookup]
  | cons first rest ih =>
    obtain ⟨m, w⟩ := first
    have hrest : ∀ e ∈ rest, m < e.1 := fun e he => List.rel_of_pairwise_cons h he
    rw [lookup]
    split
    · rename_i heq
      subst heq
      simp only [Option.some.injEq, List.mem_cons, Prod.mk.injEq, true_and]
      exact ⟨fun hv => .inl hv.symm, fun hv => hv.elim Eq.symm fun hmem =>
        absurd (hrest _ hmem) (String.lt_irrefl _)⟩
    · rename_i hne
      rw [ih h.of_cons]
      simp [hne]

/-- Ordered lists of entries with the same members are equal. -/
theorem eq_of_pairwise {xs ys : List (String × α)} (hx : xs.Pairwise fun a b => a.1 < b.1)
    (hy : ys.Pairwise fun a b => a.1 < b.1) (h : ∀ e, e ∈ xs ↔ e ∈ ys) : xs = ys := by
  induction xs generalizing ys with
  | nil =>
    cases ys with
    | nil => rfl
    | cons y ys => simpa using h y
  | cons x xs ih =>
    cases ys with
    | nil => simpa using h x
    | cons y ys =>
      have hxs : ∀ {e}, e ∈ xs → x.1 < e.1 := fun he => List.rel_of_pairwise_cons hx he
      have hys : ∀ {e}, e ∈ ys → y.1 < e.1 := fun he => List.rel_of_pairwise_cons hy he
      -- the first entries agree, since each list holds the other's
      have hxy : x = y := by
        rcases List.mem_cons.1 ((h x).1 List.mem_cons_self) with heq | hmem
        · exact heq
        · rcases List.mem_cons.1 ((h y).2 List.mem_cons_self) with heq | hmem'
          · exact heq.symm
          · exact absurd (String.lt_trans (hxs hmem') (hys hmem)) (String.lt_irrefl _)
      subst hxy
      refine congrArg _ (ih hx.of_cons hy.of_cons fun e => ?_)
      have he := h e
      simp only [List.mem_cons] at he
      constructor
      · intro hm
        exact (he.1 (.inr hm)).resolve_left fun heq => String.lt_irrefl _ (heq ▸ hxs hm)
      · intro hm
        exact (he.2 (.inr hm)).resolve_left fun heq => String.lt_irrefl _ (heq ▸ hys hm)

/-- A catalogue is determined by what is found in it. -/
theorem ext {c d : Catalog α} (h : ∀ name, c.find? name = d.find? name) : c = d := by
  obtain ⟨xs, hx⟩ := c
  obtain ⟨ys, hy⟩ := d
  congr
  refine eq_of_pairwise hx hy fun e => ?_
  rw [← lookup_eq_some_iff hx, ← lookup_eq_some_iff hy]
  exact iff_of_eq (congrArg (· = some e.2) (h e.1))

end Catalog

end LineKin
