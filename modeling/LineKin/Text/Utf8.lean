/-!
# Text from bytes

A text is stored in UTF-8. When bytes are not UTF-8, `firstFault` says where the first character
that is wrong starts and how many of its bytes could still have been the beginning of one, or that
the bytes end within a character.

The bytes are checked by a machine that remembers what the next byte may be: `State.step` is one
byte, and `State.run` all of them.
-/

namespace LineKin.Text.Utf8

/-- What is wrong with bytes that are not UTF-8. -/
inductive Fault where
  /-- A character cannot start with the given number of bytes from an index on. -/
  | invalid (index length : Nat)
  /-- The bytes end within the character that starts at an index. -/
  | incomplete (index : Nat)
  deriving DecidableEq

/-- The words for the fault. -/
def Fault.message : Fault → String
  | invalid index length => s!"invalid utf-8 sequence of {length} bytes from index {index}"
  | incomplete index => s!"incomplete utf-8 byte sequence from index {index}"

/-- Where the check stands between two bytes. -/
structure State where
  /-- The index at which the current character starts. -/
  start : Nat
  /-- How many bytes of it are passed. -/
  seen : Nat := 0
  /-- How many bytes of it are still to come. -/
  owed : Nat := 0
  /-- The least next byte within a character. -/
  low : UInt8 := 0x80
  /-- The greatest next byte within a character. -/
  high : UInt8 := 0xBF
  deriving DecidableEq

/-- For the first byte of a character of several bytes: how many bytes follow, and the range of the
next one. -/
def following (lead : UInt8) : Option (Nat × UInt8 × UInt8) :=
  if 0xC2 ≤ lead && lead ≤ 0xDF then some (1, 0x80, 0xBF)
  else if lead == 0xE0 then some (2, 0xA0, 0xBF)
  else if lead == 0xED then some (2, 0x80, 0x9F)
  else if 0xE1 ≤ lead && lead ≤ 0xEF then some (2, 0x80, 0xBF)
  else if lead == 0xF0 then some (3, 0x90, 0xBF)
  else if 0xF1 ≤ lead && lead ≤ 0xF3 then some (3, 0x80, 0xBF)
  else if lead == 0xF4 then some (3, 0x80, 0x8F)
  else none

/-- Passes one byte. -/
def State.step (s : State) (byte : UInt8) : Except Fault State :=
  if s.owed = 0 then
    if byte < 0x80 then .ok { start := s.start + 1 }
    else
      match following byte with
      | some (owed, low, high) => .ok ⟨s.start, 1, owed, low, high⟩
      | none => .error (.invalid s.start 1)
  else if s.low ≤ byte && byte ≤ s.high then
    if s.owed = 1 then .ok { start := s.start + s.seen + 1 }
    else .ok { start := s.start, seen := s.seen + 1, owed := s.owed - 1 }
  else .error (.invalid s.start s.seen)

/-- Passes all bytes. -/
def State.run (s : State) : List UInt8 → Option Fault
  | [] => if s.owed = 0 then none else some (.incomplete s.start)
  | byte :: rest =>
    match s.step byte with
    | .ok next => next.run rest
    | .error fault => some fault

/-- What is wrong with some bytes first. -/
def firstFault (bytes : ByteArray) : Option Fault := State.run { start := 0 } bytes.data.toList

/-- The text that bytes stand for. -/
def decode (bytes : ByteArray) : Except (Option Fault) String :=
  match String.fromUTF8? bytes with
  | some text => .ok text
  | none => .error (firstFault bytes)

end LineKin.Text.Utf8
