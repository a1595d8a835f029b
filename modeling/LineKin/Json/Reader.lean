import LineKin.Json.Form
import LineKin.Json.Token

/-!
# Reading JSON

The tokens of a text are read from left to right by a machine with a stack that holds the arrays and
objects which are open. A form is handed to the innermost of them (`deliver`), and when an array or
object is closed it is handed to the one around it in turn. The text is a JSON text if the machine
ends with one form and nothing open; `Form.ofText?` is that form, and `parse?` its value.
-/

namespace LineKin.Json

/-- An array or object that is open. Items and members are kept with the latest in front. -/
inductive Frame where
  /-- An array before its first item. -/
  | arrayStart
  /-- An array behind a comma. -/
  | arrayItem (items : List Form)
  /-- An array behind an item. -/
  | arrayNext (items : List Form)
  /-- An object before its first name. -/
  | objectStart
  /-- An object behind a comma. -/
  | objectName (members : List (Option String × Form))
  /-- An object behind a name. -/
  | objectColon (members : List (Option String × Form)) (name : Option String)
  /-- An object behind a colon. -/
  | objectValue (members : List (Option String × Form)) (name : Option String)
  /-- An object behind a member. -/
  | objectNext (members : List (Option String × Form))

/-- What the reader has at hand. -/
inductive ReaderState where
  /-- The open arrays and objects, the innermost first; the form of the text is still to come. -/
  | reading (stack : List Frame)
  /-- The form of the text. -/
  | done (form : Form)

/-- Hands a form to the innermost open array or object. -/
def deliver (form : Form) : List Frame → Option ReaderState
  | [] => some (.done form)
  | .arrayStart :: rest => some (.reading (.arrayNext [form] :: rest))
  | .arrayItem items :: rest => some (.reading (.arrayNext (form :: items) :: rest))
  | .objectValue members name :: rest =>
    some (.reading (.objectNext ((name, form) :: members) :: rest))
  | _ => none

/-- Opens an array or an object where a value may stand. -/
def openFrame (frame : Frame) (stack : List Frame) : Option ReaderState :=
  match stack with
  | [] | .arrayStart :: _ | .arrayItem _ :: _ | .objectValue _ _ :: _ =>
    some (.reading (frame :: stack))
  | _ => none

/-- Reads a string: a name where a name is due, else a value. -/
def readText (text : Option String) : List Frame → Option ReaderState
  | .objectStart :: rest => some (.reading (.objectColon [] text :: rest))
  | .objectName members :: rest => some (.reading (.objectColon members text :: rest))
  | stack => deliver (.scalar (text.map .string)) stack

/-- Reads one token. -/
def ReaderState.step : ReaderState → Token → Option ReaderState
  | .done _, _ => none
  | .reading stack, token =>
    match token, stack with
    | .openArray, stack => openFrame .arrayStart stack
    | .openObject, stack => openFrame .objectStart stack
    | .closeArray, .arrayStart :: rest => deliver (.array []) rest
    | .closeArray, .arrayNext items :: rest => deliver (.array items.reverse) rest
    | .closeObject, .objectStart :: rest => deliver (.object []) rest
    | .closeObject, .objectNext members :: rest => deliver (.object members.reverse) rest
    | .comma, .arrayNext items :: rest => some (.reading (.arrayItem items :: rest))
    | .comma, .objectNext members :: rest => some (.reading (.objectName members :: rest))
    | .colon, .objectColon members name :: rest =>
      some (.reading (.objectValue members name :: rest))
    | .text value, stack => readText value stack
    | .scalar value, stack => deliver (.scalar value) stack
    | _, _ => none

/-- Reads the tokens of a text. -/
def Form.ofTokens? (tokens : List Token) : Option Form :=
  match tokens.foldlM ReaderState.step (.reading []) with
  | some (.done form) => some form
  | _ => none

/-- The form of a text, if it is a JSON text. -/
def Form.ofText? (text : String) : Option Form := (tokens? text.toList).bind Form.ofTokens?

/-- The value of a JSON text, if the text is one and has a value. -/
def parse? (text : String) : Option Json := (Form.ofText? text).bind (·.value? maxDepth)

end LineKin.Json
