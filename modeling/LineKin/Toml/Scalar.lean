import LineKin.Decimal.Binary
import LineKin.Toml.Table

/-!
# TOML numbers, dates and truth values

A value without quotes or brackets is a run of letters, digits and a few marks. `scalar?` says what
such a run stands for, if it is written as TOML wants it: underscores only between digits, no zeros
in front, integers of 64 bits, and dates and times that exist.
-/

namespace LineKin.Toml

/-- Whether digits are in groups: digits with single underscores between them. -/
def inGroups (isDigit : Char → Bool) (text : List Char) : Bool :=
  (text.splitOn '_').all fun group => !group.isEmpty && group.all isDigit

/-- The value of a digit to any base up to sixteen. -/
def digitValue (c : Char) : Nat :=
  if c.isDigit then c.toNat - '0'.toNat else c.toLower.toNat - 'a'.toNat + 10

/-- The value of digits in groups. -/
def groupsValue (base : Nat) (text : List Char) : Nat :=
  (text.filter (· != '_')).foldl (fun n c => base * n + digitValue c) 0

/-- Whether a character is a digit to base sixteen. -/
def isHexDigit (c : Char) : Bool := c.isDigit || ('a' ≤ c.toLower && c.toLower ≤ 'f')

/-- A sign and what follows it. -/
def signed : List Char → Bool × List Char
  | '-' :: rest => (true, rest)
  | '+' :: rest => (false, rest)
  | text => (false, text)

/-- Whether digits in groups have no zero in front. -/
def isPlainWhole (text : List Char) : Bool :=
  inGroups Char.isDigit text && (text.head? != some '0' || text.length == 1)

/-- An integer with a base mark. -/
def based? (base : Nat) (isDigit : Char → Bool) (text : List Char) : Option Scalar :=
  let n := groupsValue base text
  if inGroups isDigit text && n < Nat.pow 2 63 then some (.integer n) else none

/-- An integer. -/
def integer? : List Char → Option Scalar
  | '0' :: 'x' :: text => based? 16 isHexDigit text
  | '0' :: 'o' :: text => based? 8 (fun c => '0' ≤ c && c ≤ '7') text
  | '0' :: 'b' :: text => based? 2 (fun c => c == '0' || c == '1') text
  | text =>
    let (negative, digits) := signed text
    let n := groupsValue 10 digits
    if !isPlainWhole digits then none
    else if negative && n ≤ Nat.pow 2 63 then some (.integer (-n))
    else if !negative && n < Nat.pow 2 63 then some (.integer n)
    else none

/-- Whether `digits · 10 ^ exponent` is small enough to be read as a number. -/
def isFinite (digits : Nat) (exponent : Int) : Bool :=
  if digits = 0 || exponent + (toString digits).length < 300 then true
  else if 400 < exponent + (toString digits).length then false
  else if 0 ≤ exponent then (Decimal.Binary.nearest (digits * Nat.pow 10 exponent.toNat) 1).isSome
  else (Decimal.Binary.nearest digits (Nat.pow 10 (-exponent).toNat)).isSome

/-- A number that is no integer: with a point, with a power of ten, or one of the two special ones. -/
def float? (text : List Char) : Option Scalar :=
  let (negative, text) := signed text
  if text == "inf".toList || text == "nan".toList then some .float
  else
    let isPower (c : Char) : Bool := c == 'e' || c == 'E'
    let number := text.takeWhile fun c => !isPower c
    let power := (text.dropWhile fun c => !isPower c).drop 1
    let hasPower := text.any isPower
    let whole := number.takeWhile (· != '.')
    let fraction := (number.dropWhile (· != '.')).drop 1
    let hasFraction := number.contains '.'
    let (powerNegative, powerDigits) := signed power
    if !isPlainWhole whole || (hasFraction && !inGroups Char.isDigit fraction) ||
        (hasPower && !inGroups Char.isDigit powerDigits) || !(hasPower || hasFraction) then none
    else
      let digits := groupsValue 10 (whole ++ fraction)
      let places := (fraction.filter (· != '_')).length
      let size : Int := groupsValue 10 powerDigits
      let exponent : Int := (if powerNegative then -size else size) - places
      if negative || isFinite digits exponent then some .float else none

/-! ### Dates and times -/

/-- A number of so many digits within bounds. -/
def inBounds (width low high : Nat) (text : List Char) : Bool :=
  text.length == width && text.all Char.isDigit &&
    low ≤ groupsValue 10 text && groupsValue 10 text ≤ high

/-- Whether a year has a leap day. -/
def isLeapYear (year : Nat) : Bool := year % 4 == 0 && (year % 100 != 0 || year % 400 == 0)

/-- The number of days in a month. -/
def daysIn (year month : Nat) : Nat :=
  if month = 2 then (if isLeapYear year then 29 else 28)
  else if month = 4 || month = 6 || month = 9 || month = 11 then 30
  else 31

/-- Whether a text is a date, as in `1979-05-27`. -/
def isDate (text : List Char) : Bool :=
  match text.splitOn '-' with
  | [year, month, day] =>
    inBounds 4 0 9999 year && inBounds 2 1 12 month &&
      inBounds 2 1 (daysIn (groupsValue 10 year) (groupsValue 10 month)) day
  | _ => false

/-- Whether a text is a time of day, as in `07:32:00.5`. -/
def isTime (text : List Char) : Bool :=
  match text.splitOn ':' with
  | [hour, minute, second] =>
    inBounds 2 0 23 hour && inBounds 2 0 59 minute &&
      match second.splitOn '.' with
      | [whole] => inBounds 2 0 60 whole
      | [whole, fraction] =>
        inBounds 2 0 60 whole && !fraction.isEmpty && fraction.all Char.isDigit
      | _ => false
  | _ => false

/-- Whether a text is a time of day with or without an offset, as in `07:32:00-08:00`. -/
def isTimeWithOffset (text : List Char) : Bool :=
  let isMark (c : Char) : Bool := c == 'Z' || c == 'z' || c == '+' || c == '-'
  let time := text.takeWhile fun c => !isMark c
  isTime time &&
    match text.dropWhile fun c => !isMark c with
    | [] => true
    | mark :: offset =>
      if mark == 'Z' || mark == 'z' then offset.isEmpty
      else
        match offset.splitOn ':' with
        | [hour, minute] => inBounds 2 0 23 hour && inBounds 2 0 59 minute
        | _ => false

/-- Whether a text is a date, a time, or a date and a time with a mark between them. -/
def isMoment (text : List Char) : Bool :=
  isDate text || isTime text ||
    (isDate (text.take 10) &&
      match text.drop 10 with
      | mark :: time => (mark == 'T' || mark == 't' || mark == ' ') && isTimeWithOffset time
      | [] => false)

/-- What a run of characters stands for. -/
def scalar? (text : List Char) : Option Scalar :=
  if text == "true".toList then some (.boolean true)
  else if text == "false".toList then some (.boolean false)
  else (integer? text).orElse fun _ => (float? text).orElse fun _ =>
    if isMoment text then some .moment else none

end LineKin.Toml
