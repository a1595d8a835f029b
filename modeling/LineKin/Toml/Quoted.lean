/-!
# TOML strings

A string is quoted in one of four ways: with double quotes, where a backslash starts an escape, or
with single quotes, where it does not; and with one quote on one line, or with three quotes on any
number of lines. A machine reads the characters behind the opening quotes one by one and stops
behind the closing ones.

Line breaks are line feeds here; the reader takes care of the others.
-/

namespace LineKin.Toml

/-- A way to quote a string. -/
structure Quoting where
  /-- The quote. -/
  quote : Char
  /-- Whether there are three of them, and line breaks may stand in the string. -/
  multiline : Bool

namespace Quoting

/-- Whether a backslash starts an escape. -/
def hasEscapes (q : Quoting) : Bool := q.quote == '"'

/-- Whether a character may stand in the string as it is. -/
def allows (q : Quoting) (c : Char) : Bool :=
  c == '\t' || (0x20 ≤ c.toNat && c.toNat != 0x7F) || (q.multiline && c == '\n')

end Quoting

/-- Where the machine stands between two characters. -/
inductive QuotedMode where
  /-- In the string. -/
  | plain
  /-- Behind so many quotes of a string in three quotes. -/
  | quotes (count : Nat)
  /-- Behind a backslash. -/
  | escape
  /-- In the digits of an escaped character: the digits still to come, and the value so far. -/
  | unit (owed value : Nat)
  /-- Behind a backslash that takes a line break away: whether the break was seen. -/
  | fold (broken : Bool)

/-- What one character does. -/
inductive QuotedStep where
  /-- The string goes on; these characters are added, the latest in front. -/
  | next (mode : QuotedMode) (added : List Char)
  /-- The string ended before this character; these characters are added. -/
  | endBefore (added : List Char)
  /-- The string ends with this character. -/
  | endBehind
  /-- No string goes on like this. -/
  | refuse

/-- The character that a short escape stands for. -/
def escapedChar? : Char → Option Char
  | 'b' => some '\x08'
  | 't' => some '\t'
  | 'n' => some '\n'
  | 'f' => some '\x0C'
  | 'r' => some '\r'
  | '"' => some '"'
  | '\\' => some '\\'
  | _ => none

/-- The value of a digit to base sixteen. -/
def hexValue? (c : Char) : Option Nat :=
  if c.isDigit then some (c.toNat - '0'.toNat)
  else if 'a' ≤ c.toLower && c.toLower ≤ 'f' then some (c.toLower.toNat - 'a'.toNat + 10)
  else none

/-- One character in the string. -/
def QuotedStep.inString (q : Quoting) (c : Char) : QuotedStep :=
  if c == q.quote then (if q.multiline then .next (.quotes 1) [] else .endBehind)
  else if c == '\\' && q.hasEscapes then .next .escape []
  else if q.allows c then .next .plain [c]
  else .refuse

/-- Adds characters to what a step adds. -/
def QuotedStep.addFirst (added : List Char) : QuotedStep → QuotedStep
  | .next mode more => .next mode (more ++ added)
  | step => step

/-- One character. -/
def QuotedStep.of (q : Quoting) : QuotedMode → Char → QuotedStep
  | .plain, c => inString q c
  | .quotes count, c =>
    if c == q.quote then (if count < 5 then .next (.quotes (count + 1)) [] else .refuse)
    else if 3 ≤ count then .endBefore (List.replicate (count - 3) q.quote)
    else (inString q c).addFirst (List.replicate count q.quote)
  | .escape, c =>
    if c == 'u' then .next (.unit 4 0) []
    else if c == 'U' then .next (.unit 8 0) []
    else if q.multiline && (c == ' ' || c == '\t') then .next (.fold false) []
    else if q.multiline && c == '\n' then .next (.fold true) []
    else
      match escapedChar? c with
      | some d => .next .plain [d]
      | none => .refuse
  | .unit owed value, c =>
    match hexValue? c with
    | none => .refuse
    | some digit =>
      let value := 16 * value + digit
      if 1 < owed then .next (.unit (owed - 1) value) []
      else if value < 0xD800 || (0xE000 ≤ value && value < 0x110000) then
        .next .plain [Char.ofNat value]
      else .refuse
  | .fold broken, c =>
    if c == ' ' || c == '\t' then .next (.fold broken) []
    else if c == '\n' then .next (.fold true) []
    else if broken then inString q c
    else .refuse

/-- Reads the string behind its opening quotes; the string and what stands behind it. The characters
read before are kept with the latest in front. -/
def readQuoted (q : Quoting) (mode : QuotedMode) (read : List Char) :
    List Char → Option (List Char × List Char)
  | [] =>
    match mode with
    | .quotes count =>
      if 3 ≤ count then some ((List.replicate (count - 3) q.quote ++ read).reverse, []) else none
    | _ => none
  | c :: rest =>
    match QuotedStep.of q mode c with
    | .next mode added => readQuoted q mode (added ++ read) rest
    | .endBefore added => some ((added ++ read).reverse, c :: rest)
    | .endBehind => some (read.reverse, rest)
    | .refuse => none

/-- Reads a string on one line, from its opening quote on. -/
def readLineString : List Char → Option (List Char × List Char)
  | '"' :: rest => readQuoted ⟨'"', false⟩ .plain [] rest
  | '\'' :: rest => readQuoted ⟨'\'', false⟩ .plain [] rest
  | _ => none

/-- A text without a line break in front of it. -/
def withoutBreak : List Char → List Char
  | '\n' :: rest => rest
  | text => text

/-- Reads a string of any kind, from its opening quotes on. -/
def readString : List Char → Option (List Char × List Char)
  | '"' :: '"' :: '"' :: rest => readQuoted ⟨'"', true⟩ .plain [] (withoutBreak rest)
  | '\'' :: '\'' :: '\'' :: rest => readQuoted ⟨'\'', true⟩ .plain [] (withoutBreak rest)
  | text => readLineString text

end LineKin.Toml
