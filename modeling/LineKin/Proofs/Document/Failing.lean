import LineKin.Document.Basic
import Mathlib.Data.Nat.Find

/-!
# Documents with lines that cannot be read

A line that cannot be read makes a reader fail only if it is one of the lines that the reader passes. A
range fails with the first such line in it (`range_cases`). A search upwards passes the lines from where
it starts to where it ends, which is the nearest line that it finds something on, and the first line of
the document if there is none (`searchEnd`); it fails with the nearest such line among them
(`nearest_cases`).

What a reader finds depends on the lines it passes and on nothing else (`range_congr`, `nearest_congr`).
-/

namespace LineKin.Document

variable {α : Type} {d d' : Document} {reading : String → Option α} {i t start count : Nat}
  {text : String} {e : DocumentError}

/-- A line cannot be read, for a reason. -/
def FailsOn (d : Document) (i : Nat) (e : DocumentError) : Prop := d.lines[i]? = some (.error e)

theorem FailsOn.lt (h : d.FailsOn i e) : i < d.lineCount := (List.getElem?_eq_some_iff.1 h).1

theorem FailsOn.line_eq (h : d.FailsOn i e) : d.line i = .error e := by
  rw [line, h]

theorem failsOn_of_line (hi : i < d.lineCount) (h : d.line i = .error e) : d.FailsOn i e := by
  have hline : d.lines[i]? = some d.lines[i] := List.getElem?_eq_getElem hi
  rw [line, hline] at h
  rw [FailsOn, hline, ← h]

theorem exists_line (h : i < d.lineCount) : ∃ line, d.lines[i]? = some line :=
  ⟨_, List.getElem?_eq_getElem h⟩

theorem not_failsOn_of_ok (h : d.lines[i]? = some (.ok text)) : ¬ d.FailsOn i e := by
  simp [FailsOn, h]

/-! ### Ranges -/

/-- All lines of a list can be read, or reading it ends with the first one that cannot. -/
theorem readable_cases (lines : List (Except DocumentError String)) :
    (∃ texts, readable lines = (texts, none) ∧ ∀ e, Except.error e ∉ lines) ∨
    ∃ texts e, readable lines = (texts, some e) ∧ lines[texts.length]? = some (.error e) := by
  induction lines with
  | nil => exact .inl ⟨[], rfl, by simp⟩
  | cons line rest ih =>
    cases line with
    | error e => exact .inr ⟨[], e, rfl, rfl⟩
    | ok text =>
      rcases ih with ⟨texts, hrest, hok⟩ | ⟨texts, e, hrest, he⟩
      · exact .inl ⟨text :: texts, by simp [hrest], by simpa using hok⟩
      · exact .inr ⟨text :: texts, e, by simp [hrest], by simpa using he⟩

theorem getElem?_part (lines : List (Except DocumentError String)) (start count i : Nat) :
    ((lines.drop start).take count)[i]? = if i < count then lines[start + i]? else none := by
  rw [List.getElem?_take, List.getElem?_drop]

/-- A range can be read, or it fails with one of its lines. -/
theorem range_cases (d : Document) (start count : Nat) :
    (∃ texts, d.range start count = .ok texts ∧
      ∀ i e, start ≤ i → i < start + count → ¬ d.FailsOn i e) ∨
    ∃ i e, start ≤ i ∧ i < start + count ∧ d.FailsOn i e ∧ d.range start count = .error (i, e) := by
  rw [range]
  rcases readable_cases ((d.lines.drop start).take count) with ⟨texts, hread, hok⟩ | ⟨texts, e, hread, he⟩
  · refine .inl ⟨texts, by rw [hread], fun i e hle hlt hfails => hok e ?_⟩
    refine List.mem_of_getElem? (i := i - start) ?_
    rw [getElem?_part, if_pos (by omega), Nat.add_sub_cancel' hle]
    exact hfails
  · rw [getElem?_part] at he
    split at he
    · rename_i hlt
      exact .inr ⟨start + texts.length, e, by omega, by omega, he, by rw [hread]⟩
    · cases he

theorem range_congr (h : ∀ i, start ≤ i → i < start + count → d'.lines[i]? = d.lines[i]?) :
    d'.range start count = d.range start count := by
  have hpart : (d'.lines.drop start).take count = (d.lines.drop start).take count := by
    refine List.ext_getElem? fun i => ?_
    rw [getElem?_part, getElem?_part]
    split
    · exact h _ (by omega) (by omega)
    · rfl
  rw [range, range, hpart]

/-! ### Searches upwards -/

/-- What a reading finds on a line; nothing on one that cannot be read. -/
def foundOn (d : Document) (reading : String → Option α) (i : Nat) : Option α :=
  match d.lines[i]? with
  | some (.ok text) => reading text
  | _ => none

/-- Where a search upwards ends: the nearest line at or above a line that a reading finds something on,
zero if there is none. -/
def searchEnd (d : Document) (reading : String → Option α) (t : Nat) : Nat :=
  Nat.findGreatest (fun i => (d.foundOn reading i).isSome = true) t

theorem searchEnd_le (d : Document) (reading : String → Option α) (t : Nat) :
    d.searchEnd reading t ≤ t :=
  Nat.findGreatest_le t

theorem foundOn_ok (h : d.lines[t]? = some (.ok text)) : d.foundOn reading t = reading text := by
  rw [foundOn, h]

theorem searchEnd_of_found (h : (d.foundOn reading t).isSome = true) : d.searchEnd reading t = t :=
  Nat.findGreatest_eq h

theorem searchEnd_succ (h : d.foundOn reading (t + 1) = none) :
    d.searchEnd reading (t + 1) = d.searchEnd reading t :=
  Nat.findGreatest_of_not (by simp [h])

/-- A search looks at the line that it starts from, and then above it. -/
theorem nearest_eq {line : Except DocumentError String} (h : d.lines[t]? = some line) :
    d.nearest reading t = firstFound reading ((line, t) :: (d.lines.take t).zipIdx.reverse) := by
  have hlt := (List.getElem?_eq_some_iff.1 h).1
  rw [nearest, List.take_add_one, h, Option.toList_some, List.zipIdx_append, List.reverse_append,
    List.length_take, Nat.min_eq_left (Nat.le_of_lt hlt)]
  simp

theorem nearest_error (h : d.lines[t]? = some (.error e)) : d.nearest reading t = .error e := by
  rw [nearest_eq h, firstFound]

theorem nearest_found {found : α} (h : d.lines[t]? = some (.ok text)) (hfound : reading text = some found) :
    d.nearest reading t = .ok (some (t, found)) := by
  rw [nearest_eq h, firstFound, hfound]

theorem nearest_zero (h : d.lines[0]? = some (.ok text)) (hnone : reading text = none) :
    d.nearest reading 0 = .ok none := by
  rw [nearest_eq h, firstFound, hnone]
  rfl

theorem nearest_succ (h : d.lines[t + 1]? = some (.ok text)) (hnone : reading text = none) :
    d.nearest reading (t + 1) = d.nearest reading t := by
  rw [nearest_eq h, firstFound, hnone, nearest]

/-- A search from a line can be made, or it fails with one of the lines that it passes. -/
theorem nearest_cases (reading : String → Option α) (ht : t < d.lineCount) :
    (∃ found, d.nearest reading t = .ok found ∧
      ∀ i e, d.searchEnd reading t ≤ i → i ≤ t → ¬ d.FailsOn i e) ∨
    ∃ i e, d.searchEnd reading t ≤ i ∧ i ≤ t ∧ d.FailsOn i e ∧ d.nearest reading t = .error e := by
  induction t with
  | zero =>
    obtain ⟨line, hline⟩ := exists_line ht
    cases line with
    | error e => exact .inr ⟨0, e, searchEnd_le .., Nat.le_refl 0, hline, nearest_error hline⟩
    | ok text =>
      have hok : ∀ i e, d.searchEnd reading 0 ≤ i → i ≤ 0 → ¬ d.FailsOn i e := by
        intro i e _ hi
        obtain rfl := Nat.le_zero.1 hi
        exact not_failsOn_of_ok hline
      cases hfound : reading text with
      | none => exact .inl ⟨_, nearest_zero hline hfound, hok⟩
      | some found => exact .inl ⟨_, nearest_found hline hfound, hok⟩
  | succ t ih =>
    obtain ⟨line, hline⟩ := exists_line ht
    cases line with
    | error e => exact .inr ⟨t + 1, e, searchEnd_le .., Nat.le_refl _, hline, nearest_error hline⟩
    | ok text =>
      cases hfound : reading text with
      | some found =>
        have hend : d.searchEnd reading (t + 1) = t + 1 :=
          searchEnd_of_found (by rw [foundOn_ok hline, hfound]; rfl)
        refine .inl ⟨_, nearest_found hline hfound, fun i e hle hge => ?_⟩
        rw [Nat.le_antisymm hge (hend ▸ hle)]
        exact not_failsOn_of_ok hline
      | none =>
        rw [nearest_succ hline hfound, searchEnd_succ (by rw [foundOn_ok hline, hfound])]
        rcases ih (Nat.lt_of_succ_lt ht) with ⟨found, hnearest, hok⟩ | ⟨i, e, hle, hge, he, hnearest⟩
        · refine .inl ⟨found, hnearest, fun i e hle hge => ?_⟩
          by_cases hi : i = t + 1
          · rw [hi]
            exact not_failsOn_of_ok hline
          · exact hok i e hle (by omega)
        · exact .inr ⟨i, e, hle, by omega, he, hnearest⟩

theorem nearest_congr (ht : t < d.lineCount)
    (h : ∀ i, d.searchEnd reading t ≤ i → i ≤ t → d'.lines[i]? = d.lines[i]?) :
    d'.nearest reading t = d.nearest reading t := by
  induction t with
  | zero =>
    have hsame := h 0 (searchEnd_le ..) (Nat.le_refl 0)
    obtain ⟨line, hline⟩ := exists_line ht
    rw [nearest_eq hline, nearest_eq (hsame.trans hline)]
    rfl
  | succ t ih =>
    have hsame := h (t + 1) (searchEnd_le ..) (Nat.le_refl _)
    obtain ⟨line, hline⟩ := exists_line ht
    have hline' := hsame.trans hline
    cases line with
    | error e => rw [nearest_error hline, nearest_error hline']
    | ok text =>
      cases hfound : reading text with
      | some found => rw [nearest_found hline hfound, nearest_found hline' hfound]
      | none =>
        rw [searchEnd_succ (by rw [foundOn_ok hline, hfound])] at h
        rw [nearest_succ hline hfound, nearest_succ hline' hfound]
        exact ih (Nat.lt_of_succ_lt ht) fun i hle hge => h i hle (Nat.le_succ_of_le hge)

end LineKin.Document
