/-!
# Looking for a text in a text

Plain comparisons of characters: whether a text holds another one (`holds_iff`), what stands behind
the last occurrence of a mark, and what is left when a mark in front is taken off.
-/

namespace LineKin.Text

/-- Whether a text holds a piece. -/
def holds (piece : List Char) : List Char → Bool
  | [] => piece.isEmpty
  | c :: rest => piece.isPrefixOf (c :: rest) || holds piece rest

/-- What stands behind the last occurrence of a mark. -/
def afterLast? (mark : List Char) : List Char → Option (List Char)
  | [] => none
  | c :: rest =>
    match afterLast? mark rest with
    | some found => some found
    | none => if mark.isPrefixOf (c :: rest) then some ((c :: rest).drop mark.length) else none

/-- The text without a mark in front of it. -/
def withoutMark (mark text : List Char) : List Char :=
  if mark.isPrefixOf text then text.drop mark.length else text

/-- A text holds a piece when it is that piece with something around it. -/
theorem holds_iff {piece text : List Char} : holds piece text = true ↔ piece <:+: text := by
  induction text with
  | nil => simp [holds]
  | cons c rest ih => simp [holds, ih, List.infix_cons_iff]

end LineKin.Text
