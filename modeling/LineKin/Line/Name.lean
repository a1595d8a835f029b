import LineKin.Pattern

/-!
# The names on a line

A name is an ASCII letter or underscore followed by ASCII letters, digits and underscores. The
module lists the ways in which a line can show a name (`declared`, `assigned`, `called`, …), the
words of a line, and the names that are never followed because the language itself gives them
their meaning (`isKeyword`, `isBuiltin`).

`mentions` is the test whether a line holds a text as a whole word; the text is taken literally.
-/

namespace LineKin.Line

open Pattern

/-! ### Shapes that show a name -/

/-- The words that introduce a binding. -/
def binder : Pattern := anyOf ["const", "let", "var"]

/-- An equals sign that neither compares nor makes an arrow, together with the character behind
it. -/
def plainEquals : Pattern :=
  Pattern.char '=' ++ (one (fun c => c != '=' && c != '>') ||| lineEnd)

/-- A word spelled like a name. -/
def wordShape : Shape := { lead := wordEdge, trail := wordEdge }

/-- A name introduced by a binder. -/
def declaredShape : Shape := { lead := wordEdge ++ binder ++ gap }

/-- A name on the left of a plain equals sign. -/
def assignedShape : Shape := { lead := wordEdge, trail := blanks ++ plainEquals }

/-- A name in front of a given character. -/
def followedBy (c : Char) : Shape := { lead := wordEdge, trail := blanks ++ Pattern.char c }

/-- A word that starts with a capital letter. -/
def capitalizedShape : Shape :=
  { lead := wordEdge, name := one Char.isUpper ++ run Text.isNamePart, trail := wordEdge }

/-- A name reached through the object that a method runs on. -/
def memberShape : Shape :=
  { lead := wordEdge ++ anyOf ["this", "self"] ++ Pattern.char '.' }

/-- Names introduced by `const`, `let` or `var`. -/
def declared (line : String) : List String := declaredShape.namesIn line

/-- Names on the left of a plain equals sign. -/
def assigned (line : String) : List String := assignedShape.namesIn line

/-- Names in front of an opening parenthesis. -/
def called (line : String) : List String := (followedBy '(').namesIn line

/-- Names in front of a dot. -/
def accessed (line : String) : List String := (followedBy '.').namesIn line

/-- Names in front of an opening square bracket. -/
def indexed (line : String) : List String := (followedBy '[').namesIn line

/-- Words that start with a capital letter: types, classes, components. -/
def capitalized (line : String) : List String := capitalizedShape.namesIn line

/-- Names reached through `this.` or `self.`. -/
def members (line : String) : List String := memberShape.namesIn line

/-- All words of the line that are spelled like a name. -/
def words (line : String) : List String := wordShape.namesIn line

/-- A text as a whole word. -/
def wholeWord (text : String) : Pattern := wordEdge ++ Pattern.text text ++ wordEdge

/-- Whether the line holds the text as a whole word. -/
def mentions (text line : String) : Bool := (wholeWord text).occursIn line.toList

/-! ### Names that are never followed -/

/-- The words that are never identifiers. -/
def keywords : List String :=
  ["if", "else", "for", "while", "do", "switch", "case", "default", "break", "continue",
   "return", "function", "class", "const", "let", "var", "new", "typeof", "instanceof", "in",
   "of", "try", "catch", "finally", "throw", "await", "async", "yield", "import", "export",
   "from", "this", "self", "super", "true", "false", "null", "undefined", "void", "delete",
   "extends", "implements", "interface", "def", "elif", "lambda", "pass", "with", "not", "and",
   "or", "is"]

/-- The names of built-in functions and objects, whose calls reach no definition of the document. -/
def builtins : List String :=
  ["console", "log", "warn", "error", "info", "debug", "Math", "Date", "JSON", "Object", "Array",
   "String", "Number", "Boolean", "Promise", "Symbol", "Map", "Set", "RegExp", "Error",
   "parseInt", "parseFloat", "isNaN", "setTimeout", "setInterval", "clearTimeout",
   "clearInterval", "require", "alert", "print", "len", "range", "str", "int", "isinstance"]

/-- Whether a word is a keyword. -/
def isKeyword (word : String) : Bool := keywords.contains word

/-- Whether a call of the name is not looked up. -/
def isIgnoredCall (name : String) : Bool := isKeyword name || builtins.contains name

/-! ### Lists of distinct names -/

/-- The list with a name put at its end, unless the name is a keyword or already there. -/
def addName (names : List String) (name : String) : List String :=
  if isKeyword name || names.contains name then names else names ++ [name]

/-- The list with more names put at its end in their order, leaving out keywords and names that
are already there. -/
def addNames (names more : List String) : List String := more.foldl addName names

/-- Names that a line uses like a variable: declared, assigned, called, accessed or indexed. -/
def variableNames (line : String) : List String :=
  [declared line, assigned line, called line, accessed line, indexed line].foldl addNames []

/-- Names on a line that an import may have brought in. -/
def importableNames (line : String) : List String :=
  [capitalized line, called line, accessed line, indexed line].foldl addNames []

/-- The names a constructor goes by. -/
def constructorNames : List String := ["constructor", "__init__"]

/-- Names on a line that may belong to the enclosing class. -/
def memberNames (line : String) : List String :=
  [members line, (called line).filter fun name => !constructorNames.contains name].foldl addNames []

end LineKin.Line
