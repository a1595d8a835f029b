import LineKin.Line.Name
import LineKin.Text.Search

/-!
# Lines that define a function or a class

`functionName?` names the function that a line defines, if its shape is that of a definition:
a `function` keyword, a binding of a function or an arrow, a property that holds a function, a
`def`, or a method head with its opening brace. For a name that is already known,
`definitionShapes` lists the five looser forms in which a definition of it is recognised.

`className?` names the class, interface or type that a line declares, and `memberShapes` lists the
forms in which a line of a class uses a member of a known name.
-/

namespace LineKin.Line

open Pattern

/-- An `async` mark with blanks behind it, or nothing. -/
def maybeAsync : Pattern := maybe (text "async" ++ gap)

/-- A parenthesised list up to the first closing parenthesis. -/
def parameters : Pattern := Pattern.char '(' ++ run (· != ')') ++ Pattern.char ')'

/-- An arrow behind any number of blanks. -/
def arrow : Pattern := blanks ++ text "=>"

/-- `function NAME(`, also for generators. -/
def functionKeyword : Shape :=
  { lead := wordEdge ++ text "function" ++ blanks ++ maybe (Pattern.char '*') ++ blanks
    trail := blanks ++ Pattern.char '(' }

/-- `const NAME =` and a function or an arrow with its parameters. -/
def functionBinding : Shape :=
  { lead := wordEdge ++ binder ++ gap
    trail := blanks ++ Pattern.char '=' ++ blanks ++ maybeAsync ++
      ((text "function" ++ wordEdge) ||| (parameters ++ arrow) ||| (name ++ arrow)) }

/-- `NAME: function`. -/
def functionProperty : Shape :=
  { lead := wordEdge
    trail := blanks ++ Pattern.char ':' ++ blanks ++ maybeAsync ++ text "function" ++ wordEdge }

/-- `def NAME(` at the start of a line. -/
def functionDef : Shape :=
  { lead := blanks ++ maybeAsync ++ text "def" ++ gap
    trail := blanks ++ Pattern.char '(' }

/-- The marks that may stand in front of a method. -/
def methodMarks : List String :=
  ["public", "private", "protected", "static", "async", "override", "get", "set"]

/-- `NAME(...) {` at the start of a line, with marks in front and a type behind the parameters. -/
def methodHead : Shape :=
  { lead := blanks ++ many (anyOf methodMarks ++ gap)
    trail := blanks ++ parameters ++ blanks ++
      maybe (Pattern.char ':' ++ blanks ++ one (fun c => c != '{' && c != ';') ++
        run (fun c => c != '{' && c != ';')) ++
      Pattern.char '{' }

/-- Whether a line holds one of the texts without which it need not be looked at more closely. -/
def holdsAny (marks : List String) (line : String) : Bool :=
  marks.any fun mark => Text.holds mark.toList line.toList

/-- The name of the function or arrow that a line binds. A function shows its keyword, and an arrow
shows itself. -/
def boundFunction? (line : String) : Option String :=
  if holdsAny ["function", "=>"] line then functionBinding.nameIn? line else none

/-- The name read off each form of definition, in the order in which they are tried. -/
def definitionReadings (line : String) : List (Option String) :=
  [functionKeyword.nameIn? line, boundFunction? line, functionProperty.nameIn? line,
   functionDef.nameAtStart? line, methodHead.nameAtStart? line]

/-- The name of the function that a line defines. A form that yields a keyword, as `if (x) {`
does, is passed over. -/
def functionName? (line : String) : Option String :=
  (definitionReadings line).findSome? fun reading => reading.filter fun name => !isKeyword name

/-- The forms in which a definition of a known name is recognised: `function NAME(`,
`const NAME = function`, `const NAME = (`, `NAME: function` and `NAME(...) =>`. Each comes with a mark
that every definition of the form shows. -/
def definitionShapes (name : String) : List (String × Pattern) :=
  let binding := wordEdge ++ binder ++ gap ++ text name ++ blanks ++ Pattern.char '=' ++ blanks
  [("function", wordEdge ++ text "function" ++ blanks ++ maybe (Pattern.char '*') ++ blanks ++
      text name ++ blanks ++ Pattern.char '('),
   ("function", binding ++ maybeAsync ++ text "function" ++ wordEdge),
   ("=", binding ++ maybe (text "async" ++ blanks) ++ Pattern.char '('),
   ("function", wordEdge ++ text name ++ blanks ++ Pattern.char ':' ++ blanks ++ maybeAsync ++
      text "function" ++ wordEdge),
   ("=>", wordEdge ++ text name ++ blanks ++ parameters ++ arrow)]

/-- For each form of definition of the name, whether the line holds it. -/
def definitionFits (name line : String) : List Bool :=
  (definitionShapes name).map fun (mark, shape) =>
    holdsAny [mark] line && shape.occursIn line.toList

/-- Whether the line holds a definition of the name. -/
def defines (name line : String) : Bool := (definitionFits name line).any id

/-- The head of a class, interface or type declaration. -/
def classHead : Shape :=
  { lead := blanks ++ maybe (text "export" ++ gap) ++ maybe (text "default" ++ gap) ++
      maybe (text "declare" ++ gap) ++ maybe (text "abstract" ++ gap) ++
      anyOf ["class", "interface", "type"] ++ gap }

/-- The name of the class, interface or type that a line declares. -/
def className? (line : String) : Option String := classHead.nameAtStart? line

/-- A constructor with its opening parenthesis. -/
def constructorCall : Pattern :=
  wordEdge ++ anyOf constructorNames ++ blanks ++ Pattern.char '('

/-- Whether the line holds a constructor. -/
def isConstructor (line : String) : Bool := constructorCall.occursIn line.toList

/-- The forms in which a line of a class uses the member of a known name: `NAME(`, `NAME:`,
`this.NAME`, `self.NAME` and `NAME =`. -/
def memberShapes (name : String) : List Pattern :=
  [wordEdge ++ text name ++ blanks ++ Pattern.char '(',
   wordEdge ++ text name ++ blanks ++ Pattern.char ':',
   wordEdge ++ text "this." ++ text name ++ wordEdge,
   wordEdge ++ text "self." ++ text name ++ wordEdge,
   wordEdge ++ text name ++ blanks ++ plainEquals]

/-- Whether the line uses the member of the name. -/
def usesMember (name line : String) : Bool :=
  (memberShapes name).any fun shape => shape.occursIn line.toList

end LineKin.Line
