import LineKin.Line.Name
import LineKin.Text.Search

/-!
# Lines that import names

Five forms of a line bring names into a document: three of `import` and two of `require`. The form
with braces holds a list of bindings; `bindings` reads the local names off such a list, where a
binding may be renamed and may have a default value.

`isReExport` recognises the lines that hand names on, and `isImport` is the wider test that decides
which lines are shown as the imports of a document.
-/

namespace LineKin.Line

open Pattern

/-- `import` and an optional `type` mark. -/
def importHead : Pattern := blanks ++ text "import" ++ gap

/-- A default binding with the comma behind it. -/
def defaultThenComma : Pattern := name ++ blanks ++ Pattern.char ',' ++ blanks

/-- The text between two braces. -/
def braced : Pattern := run (· != '}')

/-- The assignment of a call of `require`. -/
def fromRequire : Pattern :=
  blanks ++ Pattern.char '=' ++ blanks ++ text "require" ++ blanks ++ Pattern.char '('

/-- `import { … } from`, where the braces hold a list of bindings. -/
def namedImport : Shape :=
  { lead := importHead ++ maybe (text "type" ++ gap) ++ maybe defaultThenComma ++ Pattern.char '{'
    name := braced
    trail := Pattern.char '}' ++ blanks ++ text "from" ++ wordEdge }

/-- `import NAME from` or `import NAME,`. -/
def defaultImport : Shape :=
  { lead := importHead ++ maybe (text "type" ++ gap)
    trail := blanks ++ (Pattern.char ',' ||| (wordEdge ++ text "from" ++ wordEdge)) }

/-- `import * as NAME from`. -/
def namespaceImport : Shape :=
  { lead := importHead ++ maybe defaultThenComma ++ Pattern.char '*' ++ blanks ++ text "as" ++ gap
    trail := gap ++ text "from" ++ wordEdge }

/-- `const NAME = require(`. -/
def requireBinding : Shape :=
  { lead := wordEdge ++ binder ++ gap
    trail := fromRequire }

/-- `const { … } = require(`, where the braces hold a list of bindings. -/
def requireDestructured : Shape :=
  { lead := wordEdge ++ binder ++ blanks ++ Pattern.char '{'
    name := braced
    trail := Pattern.char '}' ++ fromRequire }

/-- The local name of one binding: what stands behind the rename mark, up to a default value. -/
def binding (rename : List Char) (text : List Char) : List Char :=
  let named := Text.trim (Text.withoutMark "type ".toList (Text.trim text))
  let target := Text.trim ((Text.afterLast? rename named).getD named)
  Text.trim (target.takeWhile (· != '='))

/-- The local names of a list of bindings, empty ones left out. -/
def bindings (rename : String) (list : List Char) : List String :=
  (list.splitOn ',').filterMap fun text =>
    let name := binding rename.toList text
    if name.isEmpty then none else some (String.ofList name)

/-- The names that a line imports by name. -/
def namedImports (line : String) : List String :=
  ((namedImport.atStart? line.toList).map (bindings " as ")).getD []

/-- The name that a line gives to a module's default export. -/
def defaultImports (line : String) : List String := (defaultImport.nameAtStart? line).toList

/-- The name that a line gives to a whole module. -/
def namespaceImports (line : String) : List String := (namespaceImport.nameAtStart? line).toList

/-- The names that a line binds to the result of `require` or to parts of it. -/
def requiredNames (line : String) : List String :=
  (requireBinding.nameIn? line).toList ++
    ((requireDestructured.first? line.toList).map (bindings ":")).getD []

/-- Whether a line hands names of another module on. -/
def isReExport (line : String) : Bool :=
  (blanks ++ text "export" ++ blanks ++ (Pattern.char '{' ||| Pattern.char '*')).opens line.toList

/-- Whether a line looks like an import. -/
def isImport (line : String) : Bool :=
  (blanks ++ text "import" ++ wordEdge).opens line.toList ||
    (wordEdge ++ text "require" ++ blanks ++ Pattern.char '(').occursIn line.toList

/-- Whether a text occurs in a line, be it as part of a word. -/
def holdsText (text line : String) : Bool := Text.holds text.toList line.toList

end LineKin.Line
