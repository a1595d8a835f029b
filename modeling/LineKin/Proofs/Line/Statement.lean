import LineKin.Block
import LineKin.Line.Statement
import LineKin.Proofs.Line.Padding

/-!
# Statements and braces on padded lines

Blanks around a line change neither the kind of its statement nor what counting its braces adds, be
it from the beginning of the line or from its keyword, whose column is a number of bytes
(`behindBytes?_column`). A line of blanks has no statement and adds nothing to a count.
-/

namespace LineKin

open Text Line

namespace Statement

variable {line padded : String}

theorem isMargin_of_isBlank {c : Char} (hc : isBlank c = true) : isMargin c = true := by
  rw [isMargin, hc, Bool.true_or]

/-- The text of a padded line has at most some blanks more at its end. -/
theorem textOf_padded (h : Padded line padded) :
    ∃ back, AllBlank back ∧ textOf padded = textOf line ++ back := by
  obtain ⟨front, back, hfront, hback, heq⟩ := h
  have htext : textOf padded = (line.toList ++ back).dropWhile isMargin := by
    rw [textOf, heq, List.append_assoc,
      List.dropWhile_append_of_pos fun c hc => isMargin_of_isBlank (hfront c hc)]
  rw [htext, List.dropWhile_append]
  split
  · rename_i hnone
    have hnil : back.dropWhile isMargin = [] :=
      List.dropWhile_eq_nil_iff.2 fun c hc => isMargin_of_isBlank (hback c hc)
    exact ⟨[], nofun, by rw [hnil, textOf, List.isEmpty_iff.1 hnone, List.append_nil]⟩
  · exact ⟨back, hback, rfl⟩

theorem firm_opening (k : Kind) : k.opening.firm = true := by
  cases k <;> decide

theorem kindOf_padded (h : Padded line padded) : kindOf padded = kindOf line := by
  obtain ⟨back, hback, htext⟩ := textOf_padded h
  have hopens : (fun kind : Kind => kind.opening.opens (textOf padded)) =
      fun kind => kind.opening.opens (textOf line) := by
    funext kind
    rw [htext, (Pattern.Settled.of_firm (firm_opening kind)).opens_append hback]
  rw [kindOf, kindOf, hopens]

theorem kindOf_blank (h : isBlankText line = true) : kindOf line = none :=
  (kindOf_padded (padded_of_isBlankText h)).trans (by decide)

theorem isBlankOrComment_padded (h : Padded line padded) :
    isBlankOrComment padded = isBlankOrComment line := by
  rw [isBlankOrComment, isBlankOrComment, h.trim_eq]

theorem isBlankOrComment_blank (h : isBlankText line = true) : isBlankOrComment line = true :=
  (isBlankOrComment_padded (padded_of_isBlankText h)).trans (by decide)

end Statement

namespace Block

open Statement

variable {line padded : String} {text : List Char}

theorem step_of_isBlank {c : Char} (hc : isBlank c = true) (progress : Progress) :
    progress.step c = progress := by
  cases progress with
  | closed => rfl
  | counting depth opened =>
    have hopen : c ≠ '{' := by
      rintro rfl
      exact absurd hc (by decide)
    have hclose : c ≠ '}' := by
      rintro rfl
      exact absurd hc (by decide)
    rw [Progress.step, if_neg hopen, if_neg hclose]

theorem walk_blanks (h : AllBlank text) (progress : Progress) : walk progress text = progress := by
  induction text with
  | nil => rfl
  | cons c rest ih =>
    rw [walk, List.foldl_cons, step_of_isBlank h.of_cons.1]
    exact ih h.of_cons.2

theorem walk_append (progress : Progress) (text more : List Char) :
    walk progress (text ++ more) = walk (walk progress text) more := List.foldl_append ..

theorem walk_padded (h : Padded line padded) (progress : Progress) :
    walk progress padded.toList = walk progress line.toList := by
  obtain ⟨front, back, hfront, hback, heq⟩ := h
  rw [heq, walk_append, walk_append, walk_blanks hfront, walk_blanks hback]

theorem behindBytes?_zero (text : List Char) : behindBytes? 0 text = some text := by
  cases text <;> rfl

/-- The text of a statement is what stands behind its column. -/
theorem behindBytes?_column (line : String) :
    behindBytes? (column line) line.toList = some (textOf line) := by
  rw [column, textOf]
  induction line.toList with
  | nil => rfl
  | cons c rest ih =>
    by_cases hc : isMargin c = true
    · rw [List.takeWhile_cons_of_pos hc, List.dropWhile_cons_of_pos hc, List.foldr_cons]
      generalize (rest.takeWhile isMargin).foldr (fun c bytes => c.utf8Size + bytes) 0 = bytes at ih ⊢
      have hpos : c.utf8Size + bytes ≠ 0 := by
        have := c.utf8Size_pos
        omega
      rw [behindBytes?, if_pos (Nat.le_add_right ..), Nat.add_sub_cancel_left, ih]
      exact hpos
    · rw [List.takeWhile_cons_of_neg hc, List.dropWhile_cons_of_neg hc]
      rfl

/-- Counting from the keyword of a padded line comes as far as counting from that of the line. -/
theorem walk_column_padded (h : Padded line padded) (progress : Progress) :
    walk progress ((behindBytes? (column padded) padded.toList).getD []) =
      walk progress ((behindBytes? (column line) line.toList).getD []) := by
  obtain ⟨back, hback, htext⟩ := textOf_padded h
  rw [behindBytes?_column, behindBytes?_column, Option.getD_some, Option.getD_some, htext, walk_append,
    walk_blanks hback]

end Block

end LineKin
