import LineKin.LineSet
import Mathlib.Order.Monotone.Basic

/-!
# Images of sets of lines

If the lines of a document are renumbered by `s`, a set of lines becomes its image under `s`
(`LineSet.IsImage`). The operations on sets of lines keep this relation. If `s` keeps the order, then
the list of the image is the list of the set with every number replaced (`IsImage.toList_eq`).
-/

namespace LineKin.LineSet

/-- The second set holds the images of the members of the first one and nothing else. -/
def IsImage (s : Nat → Nat) (lines image : LineSet) : Prop :=
  ∀ j, j ∈ image ↔ ∃ i ∈ lines, s i = j

namespace IsImage

variable {s : Nat → Nat} {a a' b b' : LineSet} {i line : Nat}

theorem empty : IsImage s ∅ ∅ := by simp [IsImage]

theorem union (ha : IsImage s a a') (hb : IsImage s b b') : IsImage s (a ∪ b) (a' ∪ b') := by
  intro j
  rw [mem_union, ha j, hb j]
  simp only [mem_union, or_and_right, exists_or]

theorem insert (ha : IsImage s a a') : IsImage s (a.insert line) (a'.insert (s line)) := by
  intro j
  rw [mem_insert, ha j]
  simp only [mem_insert, or_and_right, exists_or, exists_eq_left]
  exact or_congr_left eq_comm

theorem ofList (lines : List Nat) : IsImage s (ofList lines) (ofList (lines.map s)) := by
  intro j
  simp only [mem_ofList, List.mem_map]

/-- What is made of a number that may be missing. -/
theorem getD {found : Option Nat} {f g : Nat → LineSet}
    (h : ∀ i, found = some i → IsImage s (f i) (g (s i))) :
    IsImage s ((found.map f).getD ∅) (((found.map s).map g).getD ∅) := by
  cases found with
  | none => exact empty
  | some i => exact h i rfl

theorem apply_mem_iff (hs : Function.Injective s) (ha : IsImage s a a') : s i ∈ a' ↔ i ∈ a := by
  rw [ha]
  constructor
  · rintro ⟨j, hj, heq⟩
    exact hs heq ▸ hj
  · exact fun hi => ⟨i, hi, rfl⟩

/-- The image under a map that keeps the order, as a list. -/
theorem toList_eq (hs : StrictMono s) (ha : IsImage s a a') : a'.toList = a.toList.map s := by
  refine eq_of_pairwise a'.ascending (a.ascending.map s fun _ _ hij => hs hij) fun j => ?_
  rw [List.mem_map]
  exact ha j

end IsImage

end LineKin.LineSet
