import LineKin.Json.Basic

/-!
# The form of a JSON text

Brackets, commas, colons and the spelling of words, numbers and strings make a text a JSON text. That
alone does not give it a value: a number may be too large for a binary fraction, an escape may be half
of a character whose other half is missing, and arrays and objects may be nested too deeply. `Form` is
what a text says before these are looked at, and `Form.value?` is its value, if it has one.

`Form.only` keeps the members with certain names. A text without a value may have one after that, as
the members that are left out need nothing but their form.
-/

namespace LineKin.Json

/-- The form of a JSON text. -/
inductive Form where
  /-- A string, a number or a word, with its value if it has one. -/
  | scalar (value : Option Json)
  /-- An array. -/
  | array (items : List Form)
  /-- An object, whose names may have no value either. -/
  | object (members : List (Option String × Form))

/-- The greatest number of arrays and objects that may lie within each other. -/
def maxDepth : Nat := 127

namespace Form

/-- The value of a form in which at most `depth` arrays and objects lie within each other. It has one
if all its parts have. -/
def value? : (depth : Nat) → Form → Option Json
  | _, scalar value => value
  | 0, _ => none
  | depth + 1, array items => (items.mapM (value? depth)).map .array
  | depth + 1, object members =>
    (members.mapM fun (entry : Option String × Form) => do
      return (← entry.1, ← value? depth entry.2)).map .object

/-- An object without the members that have a name which is none of `names`; names without a value
stay. All other forms stay as they are. -/
def only (names : List String) : Form → Form
  | object members => object (members.filter fun entry => entry.1.all names.contains)
  | form => form

end Form

end LineKin.Json
