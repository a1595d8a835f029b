import LineKin.Decimal.Binary

/-!
# JSON values

An object is a list of named values in the order in which they were written, so that a name that
occurs twice can be told from one that occurs once. A number is an integer as long as it is written
as one and fits 64 bits; every other number is a binary fraction.
-/

namespace LineKin

/-- A JSON value. -/
inductive Json where
  /-- The value `null`. -/
  | null
  /-- A truth value. -/
  | bool (value : Bool)
  /-- An integer. -/
  | integer (value : Int)
  /-- A fraction, with its sign. -/
  | fraction (negative : Bool) (size : Decimal.Binary)
  /-- A text. -/
  | string (value : String)
  /-- A list of values. -/
  | array (items : List Json)
  /-- Named values. -/
  | object (members : List (String × Json))

namespace Json

/-- The value of a natural number. -/
def ofNat (n : Nat) : Json := integer n

/-- The list of some numbers. -/
def ofNats (ns : List Nat) : Json := array (ns.map ofNat)

/-- The list of some texts. -/
def ofStrings (ss : List String) : Json := array (ss.map string)

/-- A text, or `null`. -/
def ofString? : Option String → Json
  | some s => string s
  | none => null

/-- The value of a member, the first one if there are several. -/
def member? (name : String) : Json → Option Json
  | object members => (members.find? fun entry => entry.1 == name).map (·.2)
  | _ => none

end Json

end LineKin
