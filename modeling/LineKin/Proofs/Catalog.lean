import LineKin.Catalog

/-!
# Names of a catalogue

The names in use ascend (`pairwise_names`), and a name is one of them if something is found under it
(`mem_names_iff`). A catalogue grows by one name if a value is put under a new one (`size_put`).
-/

namespace LineKin.Catalog

variable {α : Type} {c : Catalog α} {name n : String} {value v : α} {entries : List (String × α)}

/-- The names in use, in their order. -/
def names (c : Catalog α) : List String := c.entries.map (·.1)

theorem length_names (c : Catalog α) : c.names.length = c.size := List.length_map ..

theorem pairwise_names (c : Catalog α) : c.names.Pairwise (· < ·) := List.pairwise_map.2 c.ascending

theorem find?_eq_some_iff : c.find? name = some value ↔ (name, value) ∈ c.entries :=
  lookup_eq_some_iff c.ascending

theorem mem_names_iff : name ∈ c.names ↔ (c.find? name).isSome = true := by
  rw [names, List.mem_map, Option.isSome_iff_exists]
  constructor
  · rintro ⟨⟨n, value⟩, hmem, rfl⟩
    exact ⟨value, find?_eq_some_iff.2 hmem⟩
  · rintro ⟨value, hfound⟩
    exact ⟨(name, value), find?_eq_some_iff.1 hfound, rfl⟩

theorem contains_eq (c : Catalog α) (name : String) : c.contains name = (c.find? name).isSome := rfl

/-- A name in front of all others is not in use. -/
theorem lookup_of_lt (h : ((n, v) :: entries).Pairwise fun a b => a.1 < b.1) (hlt : name < n) :
    lookup name ((n, v) :: entries) = none := by
  cases hfound : lookup name ((n, v) :: entries) with
  | none => rfl
  | some value =>
    have hmem := (lookup_eq_some_iff h).1 hfound
    rcases List.mem_cons.1 hmem with heq | hmem
    · rw [(Prod.mk.inj heq).1] at hlt
      exact absurd hlt (String.lt_irrefl _)
    · exact absurd (String.lt_trans hlt (List.rel_of_pairwise_cons h hmem)) (String.lt_irrefl _)

theorem length_place (h : entries.Pairwise fun a b => a.1 < b.1) :
    (place name value entries).length =
      if (lookup name entries).isSome then entries.length else entries.length + 1 := by
  induction entries with
  | nil => rfl
  | cons first rest ih =>
    obtain ⟨n, v⟩ := first
    rw [place]
    split
    · rename_i hlt
      rw [lookup_of_lt h hlt]
      rfl
    · split
      · rename_i heq
        simp [lookup, heq]
      · rename_i hne
        rw [List.length_cons, ih h.of_cons, lookup, if_neg hne, List.length_cons]
        split <;> rfl

/-- The number of names after a value was put under one. -/
theorem size_put (c : Catalog α) (name : String) (value : α) :
    (c.put name value).size = if c.contains name then c.size else c.size + 1 :=
  length_place c.ascending

theorem size_put_le (c : Catalog α) (name : String) (value : α) :
    (c.put name value).size ≤ c.size + 1 := by
  rw [size_put]
  split
  · exact Nat.le_succ _
  · exact Nat.le_refl _

theorem size_drop_le (c : Catalog α) (name : String) : (c.drop name).size ≤ c.size :=
  List.length_filter_le ..

end LineKin.Catalog
