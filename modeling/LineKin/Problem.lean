import LineKin.Analysis.Context
import LineKin.Settings.File

/-!
# Problems

Everything that can go wrong for a user is a `Problem`: one of the errors of the parts of the
library, or a text of its own. A problem is the user's fault if the user can mend it by asking for
something else.
-/

namespace LineKin

/-- What goes wrong with open documents. -/
inductive SessionError where
  /-- The document is not open. -/
  | notOpen (id : String)
  /-- No more documents can be opened. -/
  | limitReached (id : String) (limit : Nat)
  deriving DecidableEq

/-- The words for the error. -/
def SessionError.message : SessionError → String
  | notOpen id => s!"Document '{id}' is not open"
  | limitReached id limit => s!"Cannot open '{id}': {limit} documents are already open"

/-- What is wrong with an input. -/
inductive InputError where
  /-- There is nothing at a path. -/
  | pathNotFound (path : String)
  /-- A field does not have the value it must have. -/
  | outOfBounds (field constraint actual : String)
  /-- A field is empty. -/
  | empty (field : String)
  deriving DecidableEq

/-- The words for the error. -/
def InputError.message : InputError → String
  | pathNotFound path => s!"Path does not exist: {path}"
  | outOfBounds field constraint actual => s!"{field} must be {constraint}, got {actual}"
  | empty field => s!"Empty {field}"

/-- Anything that goes wrong. -/
inductive Problem where
  /-- A document cannot be had. -/
  | document (cause : DocumentError)
  /-- A selection cannot be analysed. -/
  | analysis (cause : AnalysisError)
  /-- An open document cannot be had. -/
  | session (cause : SessionError)
  /-- The settings cannot be had. -/
  | settings (cause : SettingsError)
  /-- An input is wrong. -/
  | input (cause : InputError)
  /-- The file system refuses something. -/
  | system (reason : String)
  /-- Something else. -/
  | other (reason : String)
  deriving DecidableEq

namespace Problem

/-- The words for the problem. -/
def message : Problem → String
  | document cause => s!"Document error: {cause.message}"
  | analysis cause => cause.message
  | session cause => s!"Session error: {cause.message}"
  | settings cause => s!"Configuration error: {cause.message}"
  | input cause => s!"Validation error: {cause.message}"
  | system reason => s!"IO error: {reason}"
  | other reason => reason

/-- The words for what is behind the problem, where the problem only adds where it was met. -/
def cause? : Problem → Option String
  | document cause => some cause.message
  | session cause => some cause.message
  | settings cause => some cause.message
  | input cause => some cause.message
  | system reason => some reason
  | analysis _ | other _ => none

/-- Whether the user can mend the problem by asking for something else. -/
def isUserFault : Problem → Bool
  | input _ => true
  | session (.notOpen _) => true
  | document (.lineOutOfRange _ _) => true
  | settings (.invalidValue _ _) => true
  | _ => false

/-- The problem for a reason that was passed on in layers, each of which said what it was doing; the
innermost layer comes first. -/
def ofLayers (reason : String) (layers : List String) : Problem :=
  .other (": ".intercalate (layers.reverse ++ [reason]))

end Problem

end LineKin
