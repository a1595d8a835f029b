/-!
# Ranges of code points

A class of characters is given as ascending ranges of code points with both ends included. `has`
looks a code point up by halving the ranges that are left, and what it finds lies in one of them
(`exists_of_has`).
-/

namespace LineKin.Text

/-- Ascending ranges of code points with both ends included. -/
abbrev Ranges := Array (Nat × Nat)

namespace Ranges

/-- Whether a code point lies in one of the ranges from `low` on and before `high`, looked up in at
most so many steps. -/
def hasBetween (ranges : Ranges) (point : Nat) : Nat → Nat → Nat → Bool
  | 0, _, _ => false
  | steps + 1, low, high =>
    if low < high then
      let middle := (low + high) / 2
      match ranges[middle]? with
      | some (first, last) =>
        if point < first then ranges.hasBetween point steps low middle
        else if last < point then ranges.hasBetween point steps (middle + 1) high
        else true
      | none => false
    else false

/-- Whether a code point lies in one of the ranges. Each step leaves out at least one of them. -/
def has (ranges : Ranges) (point : Nat) : Bool :=
  ranges.hasBetween point ranges.size 0 ranges.size

theorem exists_of_hasBetween {ranges : Ranges} {point steps low high : Nat}
    (h : ranges.hasBetween point steps low high = true) :
    ∃ range ∈ ranges, range.1 ≤ point ∧ point ≤ range.2 := by
  fun_induction hasBetween ranges point steps low high with
  | case1 => simp at h
  | case2 _ _ _ _ _ _ _ _ _ ih => exact ih h
  | case3 _ _ _ _ _ _ _ _ _ _ ih => exact ih h
  | case4 _ _ _ _ _ first last hfound hfirst hlast =>
    exact ⟨(first, last), Array.mem_of_getElem? hfound, Nat.le_of_not_lt hfirst,
      Nat.le_of_not_lt hlast⟩
  | case5 => simp at h
  | case6 => simp at h

/-- A code point that is found lies in one of the ranges. -/
theorem exists_of_has {ranges : Ranges} {point : Nat} (h : ranges.has point = true) :
    ∃ range ∈ ranges, range.1 ≤ point ∧ point ≤ range.2 := exists_of_hasBetween h

end Ranges

end LineKin.Text
