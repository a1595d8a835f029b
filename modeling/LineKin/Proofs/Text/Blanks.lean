import LineKin.Text.Blank
import LineKin.Text.Search
import LineKin.Text.WordChar
import Mathlib.Data.List.TakeWhile

/-!
# What blanks are not

There are only a few blanks (`toNat_mem_blankPoints`), so whether a class of characters holds one
of them can be computed: `rejectsBlanks`. Word characters are not blank.

A text that is padded with blanks has the same trimmed form (`trim_padded`), and holds the same
pieces, as far as they are not empty and hold no blank themselves (`holds_padded`).
-/

namespace LineKin.Text

/-- The code points of the blanks. -/
def blankPoints : List Nat :=
  [0x9, 0xA, 0xB, 0xC, 0xD, 0x20, 0x85, 0xA0, 0x1680, 0x2000, 0x2001, 0x2002, 0x2003, 0x2004, 0x2005,
    0x2006, 0x2007, 0x2008, 0x2009, 0x200A, 0x2028, 0x2029, 0x202F, 0x205F, 0x3000]

theorem toNat_mem_blankPoints {c : Char} (h : isBlank c = true) : c.toNat ∈ blankPoints := by
  unfold isBlank at h
  split at h
  · simp only [Bool.or_eq_true, beq_iff_eq, Bool.and_eq_true, decide_eq_true_eq] at h
    rcases h with rfl | h
    · decide
    · simp only [blankPoints, List.mem_cons]
      omega
  · obtain ⟨range, hrange, hlow, hhigh⟩ := Ranges.exists_of_has h
    simp only [blankRanges, List.mem_toArray, List.mem_cons, List.not_mem_nil, or_false] at hrange
    simp only [blankPoints, List.mem_cons]
    rcases hrange with rfl | rfl | rfl | rfl | rfl | rfl | rfl | rfl <;>
      simp only at hlow hhigh <;> omega

/-- Whether a class of characters holds no blank. -/
def rejectsBlanks (allowed : Char → Bool) : Bool :=
  blankPoints.all fun point => !allowed (Char.ofNat point)

theorem eq_false_of_rejectsBlanks {allowed : Char → Bool} {c : Char}
    (h : rejectsBlanks allowed = true) (hc : isBlank c = true) : allowed c = false := by
  have := List.all_eq_true.1 h c.toNat (toNat_mem_blankPoints hc)
  simpa using this

theorem not_isBlank_of_rejectsBlanks {allowed : Char → Bool} {c : Char}
    (h : rejectsBlanks allowed = true) (hc : allowed c = true) : isBlank c = false := by
  cases hb : isBlank c with
  | false => rfl
  | true => exact hc.symm.trans (eq_false_of_rejectsBlanks h hb)

theorem rejectsBlanks_isWordChar : rejectsBlanks isWordChar = true := by decide +kernel

/-! ### Padded texts -/

/-- All characters of a text are blank. -/
def AllBlank (text : List Char) : Prop := ∀ c ∈ text, isBlank c = true

variable {front back text piece : List Char}

/-- Whether a text is not empty and holds no blank. -/
def isInk (text : List Char) : Bool := !text.isEmpty && text.all fun c => !isBlank c

theorem isInk_iff : isInk text = true ↔ text ≠ [] ∧ ∀ c ∈ text, isBlank c = false := by
  simp [isInk]

theorem allBlank_spaces (n : Nat) : AllBlank (List.replicate n ' ') :=
  fun _ hc => List.eq_of_mem_replicate hc ▸ by decide

theorem AllBlank.reverse (h : AllBlank text) : AllBlank text.reverse :=
  fun c hc => h c (List.mem_reverse.1 hc)

theorem AllBlank.of_cons {c : Char} (h : AllBlank (c :: text)) : isBlank c = true ∧ AllBlank text :=
  ⟨h c List.mem_cons_self, fun d hd => h d (List.mem_cons_of_mem _ hd)⟩

/-- No character that a class without blanks holds stands in front of a text of blanks. -/
theorem AllBlank.any_head? {allowed : Char → Bool} (h : AllBlank text)
    (hallowed : rejectsBlanks allowed = true) : text.head?.any allowed = false := by
  cases text with
  | nil => rfl
  | cons c rest => simpa using eq_false_of_rejectsBlanks hallowed h.of_cons.1

theorem trimEnd_append_blanks (h : AllBlank back) :
    trimEnd (text ++ back) = trimEnd text := by
  rw [trimEnd, List.reverse_append, List.dropWhile_append_of_pos h.reverse, trimEnd]

/-- Blanks around a text do not change its trimmed form. -/
theorem trim_padded (hfront : AllBlank front) (hback : AllBlank back) :
    trim (front ++ text ++ back) = trim text := by
  rw [trim, trimStart, List.append_assoc, List.dropWhile_append_of_pos hfront, trim,
    trimStart, List.dropWhile_append]
  split
  · rename_i hnone
    rw [List.isEmpty_iff] at hnone
    rw [hnone, List.dropWhile_eq_nil_iff.2 hback]
  · exact trimEnd_append_blanks hback

/-- Nothing is left of a text when it is trimmed exactly if it is blank. -/
theorem trim_eq_nil_iff : trim text = [] ↔ AllBlank text := by
  rw [trim, trimEnd, List.reverse_eq_nil_iff, List.dropWhile_eq_nil_iff]
  constructor
  · intro hall
    refine List.dropWhile_eq_nil_iff.1 ?_
    cases hstart : trimStart text with
    | nil => exact hstart
    | cons c rest =>
      -- the first character that is left is no blank
      have hfirst : isBlank c = false := not_isBlank_head?_trimStart (by rw [hstart]; rfl)
      have hblank := hall c (by rw [hstart]; exact List.mem_reverse.2 List.mem_cons_self)
      cases hfirst.symm.trans hblank
  · intro hall c hc
    exact hall c ((List.dropWhile_sublist _).subset (List.mem_reverse.1 hc))

theorem infix_append_of_blanks (hne : piece ≠ []) (hpiece : ∀ c ∈ piece, isBlank c = false)
    (hfront : AllBlank front) : piece <:+: front ++ text ↔ piece <:+: text := by
  induction front with
  | nil => rfl
  | cons c rest ih =>
    have hnot : ¬ piece <+: c :: (rest ++ text) := by
      intro hprefix
      obtain ⟨d, ds, rfl⟩ := List.exists_cons_of_ne_nil hne
      obtain ⟨rfl, -⟩ := List.cons_prefix_cons.1 hprefix
      have hblank := hfront d List.mem_cons_self
      rw [hpiece d List.mem_cons_self] at hblank
      exact Bool.noConfusion hblank
    rw [List.cons_append, List.infix_cons_iff, or_iff_right hnot]
    exact ih hfront.of_cons.2

/-- A piece without blanks occurs in a padded text if it occurs in the text. -/
theorem holds_padded (hink : isInk piece = true) (hfront : AllBlank front) (hback : AllBlank back) :
    holds piece (front ++ text ++ back) = holds piece text := by
  obtain ⟨hne, hpiece⟩ := isInk_iff.1 hink
  rw [Bool.eq_iff_iff, holds_iff, holds_iff, List.append_assoc,
    infix_append_of_blanks hne hpiece hfront, ← List.reverse_infix, List.reverse_append,
    infix_append_of_blanks (by simpa using hne) (by simpa using hpiece) hback.reverse,
    List.reverse_infix]

end LineKin.Text
