import LineKin.Text.Ranges

/-!
# Blank characters

A blank is a character with the Unicode property `White_Space`. Indentation is made of blanks, a
line of blanks is an empty statement, and the text of a line is often wanted without the blanks
around it. `trim` removes them at both ends; `not_isBlank_head?_trimStart` says that none is left
in front.
-/

namespace LineKin.Text

/-- The blanks from `0x80` on, as ascending ranges of code points with both ends included. -/
def blankRanges : Ranges :=
  #[(0x85, 0x85), (0xA0, 0xA0), (0x1680, 0x1680), (0x2000, 0x200A), (0x2028, 0x2029),
    (0x202F, 0x202F), (0x205F, 0x205F), (0x3000, 0x3000)]

/-- Whether a character has the property `White_Space`. Below `0x80` these are the space and the
control characters from the tabulator to the carriage return. -/
def isBlank (c : Char) : Bool :=
  if c.toNat < 0x80 then c == ' ' || (0x9 ≤ c.toNat && c.toNat ≤ 0xD)
  else blankRanges.has c.toNat

/-- The text from its first character that is not blank. -/
def trimStart (text : List Char) : List Char := text.dropWhile isBlank

/-- The text up to its last character that is not blank. -/
def trimEnd (text : List Char) : List Char := (text.reverse.dropWhile isBlank).reverse

/-- The text without the blanks around it. -/
def trim (text : List Char) : List Char := trimEnd (trimStart text)

/-- The string without the blanks around it. -/
def trimmed (text : String) : String := String.ofList (trim text.toList)

/-- Whether a string holds nothing but blanks. -/
def isBlankText (text : String) : Bool := text.toList.all isBlank

/-- The first character of a trimmed text is not blank. -/
theorem not_isBlank_head?_trimStart {text : List Char} {c : Char}
    (h : (trimStart text).head? = some c) : isBlank c = false := by
  have := List.head?_dropWhile_not isBlank text
  simp only [trimStart] at h
  rw [h] at this
  simpa using this

end LineKin.Text
