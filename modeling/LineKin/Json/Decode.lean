import LineKin.Decimal.Shortest
import LineKin.Json.Reader
import LineKin.Json.Writer
import LineKin.Text.Quoted

/-!
# Decoding records

A record is written as an object with named fields, or as an array with the fields in their declared
order. `Decode.Source` is either of the two, and `Source.required` and `Source.withDefault` read one
field of it. Before the fields of an object are read, `Source.check` goes through its members in the
order of the text, so that the first wrong or doubled member is the one that is reported; members
with other names are passed over.

`ofText` decodes the value of a whole text. `Record.ofText` decodes a record straight from the form of
its text, so that members which are passed over need not have a value. As soon as anything is wrong,
though, that the text has no value is what is reported.

What is said about a text that is no JSON, and how the place of an error within a text is put, is left to
the library that reads texts. Nothing is known of it but that it says something (`Wording`).
-/

namespace LineKin

/-- Why a value cannot be decoded. -/
inductive DecodeError where
  /-- A field is missing. -/
  | missingField (name : String)
  /-- A field is there twice. -/
  | duplicateField (name : String)
  /-- A value is of the wrong kind. -/
  | wrongKind (found : Json) (expected : String)
  /-- A number is not one that can stand here. -/
  | wrongNumber (found : Int) (expected : String)
  /-- A tag is not one of those that are known. -/
  | unknownTag (found : String) (known : List String)
  /-- An array is too short or too long. -/
  | wrongLength (found : Nat) (expected : String)
  /-- There is more than the array should hold. -/
  | trailing

namespace DecodeError

/-- A value, as an error speaks about it. -/
def describe : Json → String
  | .null => "null"
  | .bool b => s!"boolean `{b}`"
  | .integer n => s!"integer `{n}`"
  | .fraction negative size => s!"floating point `{Json.fractionText negative size}`"
  | .string s => "string " ++ Text.Quoted.quote s
  | .array _ => "sequence"
  | .object _ => "map"

/-- The words for the error. -/
def message : DecodeError → String
  | missingField name => s!"missing field `{name}`"
  | duplicateField name => s!"duplicate field `{name}`"
  | wrongKind found expected => s!"invalid type: {describe found}, expected {expected}"
  | wrongNumber found expected => s!"invalid value: integer `{found}`, expected {expected}"
  | unknownTag found known =>
    s!"unknown variant `{found}`, expected one of " ++
      ", ".intercalate (known.map fun tag => s!"`{tag}`")
  | wrongLength found expected => s!"invalid length {found}, expected {expected}"
  | trailing => "trailing characters"

end DecodeError

namespace Decode

/-- What the library that reads texts says in words of its own. -/
structure Wording where
  /-- What is said about a text that is not JSON, or has no value. -/
  malformed : (text : String) → String
  /-- Where in a text an error was met, as it is put behind the words for the error. -/
  place : (text : String) → DecodeError → String

/-- Why a text cannot be decoded. -/
inductive TextError where
  /-- It is not JSON, or has no value. -/
  | malformed
  /-- Its value cannot be decoded. -/
  | undecoded (e : DecodeError)

/-- The words for the error in a text. -/
def TextError.message (words : Wording) (text : String) : TextError → String
  | malformed => words.malformed text
  | undecoded e => e.message ++ words.place text e

/-- How a value is decoded. -/
abbrev Decoder (α : Type) := Json → Except DecodeError α

/-- A text. -/
def text : Decoder String
  | .string s => .ok s
  | found => .error (.wrongKind found "a string")

/-- A truth value. -/
def flag : Decoder Bool
  | .bool b => .ok b
  | found => .error (.wrongKind found "a boolean")

/-- A number of lines. -/
def count : Decoder Nat
  | .integer n => if 0 ≤ n then .ok n.toNat else .error (.wrongNumber n "usize")
  | found => .error (.wrongKind found "usize")

/-- A value, or `null` for none. -/
def orNull {α : Type} (decode : Decoder α) : Decoder (Option α)
  | .null => .ok none
  | value => (decode value).map some

/-- The number of things, with the word for them. -/
def elements (n : Nat) : String := if n = 1 then "1 element" else s!"{n} elements"

/-- The fields of a record. -/
inductive Source where
  /-- Named fields. -/
  | named (members : List (String × Json))
  /-- Fields in their declared order, and what an array of this record should be. -/
  | listed (items : List Json) (expected : String)

/-- A field, and a decoder whose result does not matter. -/
abbrev FieldCheck := String × Decoder Unit

/-- The check of a field that is decoded in some way. -/
def field {α : Type} (name : String) (decode : Decoder α) : FieldCheck :=
  (name, fun value => (decode value).map fun _ => ())

/-- Goes through members in order. The names that occurred before are handed along. -/
def checkMembers (fields : List FieldCheck) (seen : List String) :
    List (String × Json) → Except DecodeError Unit
  | [] => .ok ()
  | (name, value) :: rest =>
    match fields.find? fun field => field.1 == name with
    | none => checkMembers fields seen rest
    | some field =>
      if seen.contains name then .error (.duplicateField name)
      else do
        field.2 value
        checkMembers fields (name :: seen) rest

namespace Source

/-- Reports the first member that is wrong or doubled. -/
def check (s : Source) (fields : List FieldCheck) : Except DecodeError Unit :=
  match s with
  | named members => checkMembers fields [] members
  | listed _ _ => .ok ()

/-- The value of a field, given its name and its position. -/
def value? (s : Source) (name : String) (i : Nat) : Option Json :=
  match s with
  | named members => (members.find? fun entry => entry.1 == name).map (·.2)
  | listed items _ => items[i]?

/-- The error for a field that is not there. -/
def absent (s : Source) (name : String) (i : Nat) : DecodeError :=
  match s with
  | named _ => .missingField name
  | listed _ expected => .wrongLength i expected

/-- A field that has to be there. -/
def required {α : Type} (s : Source) (name : String) (i : Nat) (decode : Decoder α) :
    Except DecodeError α :=
  match s.value? name i with
  | some value => decode value
  | none => .error (s.absent name i)

/-- A field that may be left out. -/
def withDefault {α : Type} (s : Source) (name : String) (i : Nat) (decode : Decoder α)
    (default : α) : Except DecodeError α :=
  match s.value? name i with
  | some value => decode value
  | none => .ok default

end Source

/-- What to do about an array with more items than fields. -/
inductive Surplus where
  /-- It is too long. -/
  | wrongLength
  /-- Something follows the record. -/
  | trailing

/-- The error for an array with more items than fields. -/
def Surplus.error (s : Surplus) (items fields : Nat) : DecodeError :=
  match s with
  | wrongLength => .wrongLength items (elements fields ++ " in sequence")
  | trailing => .trailing

/-- How a record is decoded. -/
structure Record (α : Type) where
  /-- What the record is called in errors. -/
  title : String
  /-- The checks of its fields, in their declared order. -/
  fields : List FieldCheck
  /-- Reads the fields. -/
  read : Source → Except DecodeError α

namespace Record

/-- Decodes named fields. -/
def ofMembers {α : Type} (r : Record α) (members : List (String × Json)) : Except DecodeError α := do
  let source := Source.named members
  source.check r.fields
  r.read source

/-- Decodes fields in their declared order. -/
def ofItems {α : Type} (r : Record α) (surplus : Surplus) (items : List Json) :
    Except DecodeError α := do
  let value ← r.read (.listed items s!"{r.title} with {elements r.fields.length}")
  if r.fields.length < items.length then .error (surplus.error items.length r.fields.length)
  else .ok value

/-- Decodes an object or an array. -/
def decode {α : Type} (r : Record α) (surplus : Surplus) : Decoder α
  | .object members => r.ofMembers members
  | .array items => r.ofItems surplus items
  | found => .error (.wrongKind found r.title)

/-- Decodes the form of a text. The members that are no fields of the record need not have a value,
unless there is something to report. -/
def ofForm {α : Type} (r : Record α) (form : Json.Form) : Except TextError α :=
  match (form.only (r.fields.map (·.1))).value? Json.maxDepth with
  | none => .error .malformed
  | some value =>
    (r.decode .trailing value).mapError fun e =>
      if (form.value? Json.maxDepth).isSome then .undecoded e else .malformed

/-- Decodes a text that holds nothing but the record. -/
def ofText {α : Type} (r : Record α) (text : String) : Except TextError α :=
  match Json.Form.ofText? text with
  | none => .error .malformed
  | some form => r.ofForm form

end Record

/-- Decodes the value of a JSON text. -/
def ofText {α : Type} (decode : Decoder α) (text : String) : Except TextError α :=
  match Json.parse? text with
  | some value => (decode value).mapError .undecoded
  | none => .error .malformed

end Decode

end LineKin
