/-!
# TOML tables

A TOML text names tables in several ways, and how a table came about decides what may still be put
into it. A `Kind` remembers that. `updateAt` follows a path of keys and changes the table at its
end, making the tables on the way that are missing; `setKey`, `openTable` and `openElement` are what
a line of a text does: a key with a value, the header of a table, the header of an element of an
array of tables.
-/

namespace LineKin.Toml

/-- A value that holds no other values. -/
inductive Scalar where
  /-- An integer of 64 bits. -/
  | integer (value : Int)
  /-- A string. -/
  | string (value : String)
  /-- A number that is no integer. -/
  | float
  /-- A truth value. -/
  | boolean (value : Bool)
  /-- A date, a time, or both. -/
  | moment
  deriving DecidableEq

/-- How a table came about. -/
inductive Kind where
  /-- It has a header of its own, or is the whole text. -/
  | headed
  /-- It was only named on the way to the header of another table. -/
  | implied
  /-- It was named by a dotted key. -/
  | dotted
  /-- It was written in braces. -/
  | inline
  deriving DecidableEq

/-- What stands under a key. -/
inductive Item where
  /-- A single value. -/
  | scalar (value : Scalar)
  /-- An array of values. -/
  | array (items : List Item)
  /-- A table. -/
  | table (kind : Kind) (entries : List (String × Item))
  /-- An array of tables that have headers: the last one, and the ones before it, nearest first. -/
  | tables (last : List (String × Item)) (before : List (List (String × Item)))

/-- The keys of a table with what stands under them. -/
abbrev Entries := List (String × Item)

namespace Entries

/-- What stands under a key. -/
def get? (entries : Entries) (key : String) : Option Item :=
  (entries.find? fun entry => entry.1 == key).map (·.2)

/-- The entries with something else under a key, or with the key put at the end. -/
def set (entries : Entries) (key : String) (item : Item) : Entries :=
  if entries.any fun entry => entry.1 == key then
    entries.map fun entry => if entry.1 == key then (key, item) else entry
  else entries ++ [(key, item)]

end Entries

/-- Changes the table at the end of a path. Tables that are missing on the way are made, as `made`
says. A table that is closed to the path, or a value on the way, makes the change fail. -/
def updateAt (made : Kind) (change : Kind → Entries → Option Entries) :
    List String → Kind → Entries → Option Entries
  | [], kind, entries => change kind entries
  | key :: path, _, entries =>
    match entries.get? key with
    | none =>
      (updateAt made change path made []).map fun inner => entries.set key (.table made inner)
    | some (.table kind inner) =>
      if kind = .inline || (made = .dotted && kind = .headed) then none
      else
        (updateAt made change path kind inner).map fun inner => entries.set key (.table kind inner)
    | some (.tables last before) =>
      (updateAt made change path .headed last).map fun last =>
        entries.set key (.tables last before)
    | some _ => none

/-- Puts a value under a dotted key of a table. The last part of the key must be new, and the table
that it goes into must have been named in the same way. -/
def setKey (path : List String) (key : String) (item : Item) (kind : Kind) (entries : Entries) :
    Option Entries :=
  let put (kind : Kind) (entries : Entries) : Option Entries :=
    if (kind == .dotted) == path.isEmpty then none
    else if (entries.get? key).isSome then none
    else some (entries.set key item)
  updateAt .dotted put path kind entries

/-- Opens the table of a header. It must be new, or only named on the way to other headers. -/
def openTable (path : List String) (key : String) (root : Entries) : Option Entries :=
  let put (_ : Kind) (entries : Entries) : Option Entries :=
    match entries.get? key with
    | none => some (entries.set key (.table .headed []))
    | some (.table .implied inner) => some (entries.set key (.table .headed inner))
    | some _ => none
  updateAt .implied put path .headed root

/-- Opens a new element of an array of tables. -/
def openElement (path : List String) (key : String) (root : Entries) : Option Entries :=
  let put (_ : Kind) (entries : Entries) : Option Entries :=
    match entries.get? key with
    | none => some (entries.set key (.tables [] []))
    | some (.tables last before) => some (entries.set key (.tables [] (last :: before)))
    | some _ => none
  updateAt .implied put path .headed root

end LineKin.Toml
