import LineKin.Decimal.Shortest
import LineKin.Json.Basic

/-!
# Writing JSON

A value is written in one line without blanks (`compact`), or with one item to a line and two blanks
for each level (`pretty`). In a string only quotes, backslashes and control characters are escaped,
so a written value holds no raw line break within a string, and a compact one none at all.
-/

namespace LineKin.Json

/-- The digit for a number below sixteen. -/
def hexChar (n : Nat) : Char := Nat.digitChar n

/-- A character within a string. -/
def escapeChar (c : Char) : List Char :=
  if c == '"' then ['\\', '"']
  else if c == '\\' then ['\\', '\\']
  else if c == '\n' then ['\\', 'n']
  else if c == '\r' then ['\\', 'r']
  else if c == '\t' then ['\\', 't']
  else if c == '\x08' then ['\\', 'b']
  else if c == '\x0C' then ['\\', 'f']
  else if c.toNat < 0x20 then
    ['\\', 'u', '0', '0', hexChar (c.toNat / 16), hexChar (c.toNat % 16)]
  else [c]

/-- A string in quotes. -/
def quoted (s : String) : List Char := '"' :: (s.toList.flatMap escapeChar ++ ['"'])

/-- How fractions are written: without a power of ten below `10 ^ 16` and down to `10 ^ -5`. -/
def fractionStyle : Decimal.Style := ⟨-5, 15⟩

/-- A fraction with its sign. -/
def fractionText (negative : Bool) (size : Decimal.Binary) : String :=
  (if negative then "-" else "") ++ (Decimal.shortest size).write fractionStyle

/-- A value that is no array and no object; nothing for the others. -/
def scalarChars : Json → List Char
  | null => "null".toList
  | bool true => "true".toList
  | bool false => "false".toList
  | integer n => (toString n).toList
  | fraction negative size => (fractionText negative size).toList
  | string s => quoted s
  | array _ | object _ => []

/-- Texts with commas between them. -/
def commaSeparated : List (List Char) → List Char
  | [] => []
  | [text] => text
  | text :: rest => text ++ ',' :: commaSeparated rest

mutual

/-- A value in one line. -/
def compactChars : Json → List Char
  | array items => '[' :: (commaSeparated (compactItems items) ++ [']'])
  | object members => '{' :: (commaSeparated (compactMembers members) ++ ['}'])
  | value => scalarChars value

/-- The items of an array, each in one line. -/
def compactItems : List Json → List (List Char)
  | [] => []
  | item :: rest => compactChars item :: compactItems rest

/-- The members of an object, each in one line. -/
def compactMembers : List (String × Json) → List (List Char)
  | [] => []
  | (name, value) :: rest => (quoted name ++ ':' :: compactChars value) :: compactMembers rest

end

/-- A line break and the blanks of a level. -/
def newLine (level : Nat) : List Char := '\n' :: List.replicate (2 * level) ' '

/-- Items of a level, each on a line of its own. -/
def listed (level : Nat) (first last : Char) (items : List (List Char)) : List Char :=
  if items.isEmpty then [first, last]
  else
    first :: (commaSeparated (items.map fun item => newLine (level + 1) ++ item) ++
      newLine level ++ [last])

mutual

/-- A value on several lines, at a level. -/
def prettyChars (level : Nat) : Json → List Char
  | array items => listed level '[' ']' (prettyItems (level + 1) items)
  | object members => listed level '{' '}' (prettyMembers (level + 1) members)
  | value => scalarChars value

/-- The items of an array, at a level. -/
def prettyItems (level : Nat) : List Json → List (List Char)
  | [] => []
  | item :: rest => prettyChars level item :: prettyItems level rest

/-- The members of an object, at a level. -/
def prettyMembers (level : Nat) : List (String × Json) → List (List Char)
  | [] => []
  | (name, value) :: rest =>
    (quoted name ++ ':' :: ' ' :: prettyChars level value) :: prettyMembers level rest

end

/-- A value in one line. -/
def compact (value : Json) : String := String.ofList value.compactChars

/-- A value on several lines. -/
def pretty (value : Json) : String := String.ofList (value.prettyChars 0)

end LineKin.Json
