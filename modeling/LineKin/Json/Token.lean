import LineKin.Json.Basic

/-!
# The tokens of a JSON text

A text is cut into tokens by a machine that looks at one character after the other. A token ends
before the first character that cannot belong to it, so two tokens may touch; whether they may
follow each other is for the reader of tokens to say. The machine refuses what no JSON text holds:
unknown words, numbers in another form, control characters and unknown escapes within a string.

A number in the right form may still be too large to have a value, and an escape may be half of a
character whose other half is missing. Such a token is read like any other, but comes without a value.
-/

namespace LineKin.Json

/-- A token. -/
inductive Token where
  /-- `[` -/
  | openArray
  /-- `]` -/
  | closeArray
  /-- An opening brace. -/
  | openObject
  /-- A closing brace. -/
  | closeObject
  /-- `,` -/
  | comma
  /-- `:` -/
  | colon
  /-- A string, with its characters unless one of them is incomplete. -/
  | text (value : Option String)
  /-- A word or a number, with its value unless it is a number that is too large. -/
  | scalar (value : Option Json)

/-! ### Numbers -/

/-- The parts of a number's text. -/
structure NumberText where
  /-- Whether there is a minus sign. -/
  negative : Bool
  /-- The digits before the point. -/
  whole : List Char
  /-- The digits behind the point, if there is one. -/
  fraction : Option (List Char)
  /-- The power of ten, if there is one: whether it is negative, and its digits. -/
  power : Option (Bool × List Char)

/-- The value of decimal digits. -/
def digitsValue (digits : List Char) : Nat :=
  digits.foldl (fun n c => 10 * n + (c.toNat - '0'.toNat)) 0

/-- Reads the power of ten at the end of a number. -/
def powerOf? : List Char → Option (Option (Bool × List Char))
  | [] => some none
  | e :: rest =>
    if e != 'e' && e != 'E' then none
    else
      let (negative, digits) :=
        match rest with
        | '-' :: digits => (true, digits)
        | '+' :: digits => (false, digits)
        | digits => (false, digits)
      if digits.isEmpty || !digits.all Char.isDigit then none else some (some (negative, digits))

/-- Takes a number apart. Zeros in front and points without digits on both sides are refused. -/
def NumberText.ofChars? (text : List Char) : Option NumberText :=
  let (negative, text) :=
    match text with
    | '-' :: rest => (true, rest)
    | _ => (false, text)
  let whole := text.takeWhile Char.isDigit
  let rest := text.dropWhile Char.isDigit
  if whole.isEmpty || (whole.head? == some '0' && 1 < whole.length) then none
  else
    match rest with
    | '.' :: rest =>
      let fraction := rest.takeWhile Char.isDigit
      if fraction.isEmpty then none
      else (powerOf? (rest.dropWhile Char.isDigit)).map fun power =>
        ⟨negative, whole, some fraction, power⟩
    | _ => (powerOf? rest).map fun power => ⟨negative, whole, none, power⟩

/-- Digits that are put behind a number as long as it stays below `2 ^ 64`; the number, and how many
digits were put behind it. -/
def appendDigits (n : Nat) : List Char → Nat × Nat
  | [] => (n, 0)
  | c :: rest =>
    let next := 10 * n + (c.toNat - '0'.toNat)
    if next < Nat.pow 2 64 then
      let (m, count) := appendDigits next rest
      (m, count + 1)
    else (n, 0)

/-- The value of a number, if it is not too large. An integer without a sign and below `2 ^ 64`, or
with one and not below `-2 ^ 63`, is an integer; only minus zero is not. -/
def NumberText.value? (t : NumberText) : Option Json :=
  let n := digitsValue t.whole
  let plain := t.fraction.isNone && t.power.isNone
  if plain && !t.negative && n < Nat.pow 2 64 then some (.integer n)
  else if plain && t.negative && n != 0 && n ≤ Nat.pow 2 63 then some (.integer (-n))
  else
    let (whole, used) := appendDigits 0 t.whole
    let (digits, places) := appendDigits whole (t.fraction.getD [])
    let power : Int :=
      match t.power with
      | some (true, ds) => -(digitsValue ds : Int)
      | some (false, ds) => digitsValue ds
      | none => 0
    let exponent : Int := power + (t.whole.length - used : Nat) - (places : Int)
    (Decimal.Binary.ofDecimal digits exponent).map (.fraction t.negative)

/-! ### The machine -/

/-- Where the machine stands between two characters. The characters of a token under way are kept
with the latest in front; those of a string are given up as soon as one is incomplete. -/
inductive Mode where
  /-- Between tokens. -/
  | between
  /-- In a word such as `null`. -/
  | word (read : List Char)
  /-- In a number. -/
  | number (read : List Char)
  /-- In a string. -/
  | string (read : Option (List Char))
  /-- Behind a backslash in a string. -/
  | escape (read : Option (List Char))
  /-- In the digits of an escaped code unit: the unit before it, if that is the first half of a
  character, the digits still to come, and the value so far. -/
  | unit (read : Option (List Char)) (high : Option Nat) (owed : Nat) (value : Nat)
  /-- Behind the first half of a character that is written as two units. -/
  | half (read : Option (List Char)) (high : Nat)
  /-- Behind that and a backslash. -/
  | halfEscape (read : Option (List Char)) (high : Nat)

/-- The value of a word. -/
def wordValue? (read : List Char) : Option Json :=
  match String.ofList read.reverse with
  | "null" => some .null
  | "true" => some (.bool true)
  | "false" => some (.bool false)
  | _ => none

/-- The character that a short escape stands for. -/
def escaped? : Char → Option Char
  | '"' => some '"'
  | '\\' => some '\\'
  | '/' => some '/'
  | 'b' => some '\x08'
  | 'f' => some '\x0C'
  | 'n' => some '\n'
  | 'r' => some '\r'
  | 't' => some '\t'
  | _ => none

/-- The value of a digit to base sixteen. -/
def hexDigit? (c : Char) : Option Nat :=
  if c.isDigit then some (c.toNat - '0'.toNat)
  else if 'a' ≤ c && c ≤ 'f' then some (c.toNat - 'a'.toNat + 10)
  else if 'A' ≤ c && c ≤ 'F' then some (c.toNat - 'A'.toNat + 10)
  else none

/-- Goes on in a string behind a whole code unit. A second half alone, and a first half with anything
but a second half behind it, is an incomplete character. -/
def afterUnit (read : Option (List Char)) (high : Option Nat) (value : Nat) : Mode :=
  let second := 0xDC00 ≤ value && value ≤ 0xDFFF
  match high with
  | some high =>
    if second then
      let c := Char.ofNat (0x10000 + 0x400 * (high - 0xD800) + (value - 0xDC00))
      .string (read.map (c :: ·))
    else .string none
  | none =>
    if 0xD800 ≤ value && value ≤ 0xDBFF then .half read value
    else if second then .string none
    else .string (read.map (Char.ofNat value :: ·))

/-- One character between tokens. -/
def startToken (c : Char) : Option (Mode × List Token) :=
  if c == ' ' || c == '\t' || c == '\n' || c == '\r' then some (.between, [])
  else if c == '[' then some (.between, [.openArray])
  else if c == ']' then some (.between, [.closeArray])
  else if c == '{' then some (.between, [.openObject])
  else if c == '}' then some (.between, [.closeObject])
  else if c == ',' then some (.between, [.comma])
  else if c == ':' then some (.between, [.colon])
  else if c == '"' then some (.string (some []), [])
  else if c.isLower then some (.word [c], [])
  else if c == '-' || c.isDigit then some (.number [c], [])
  else none

/-- Whether a character may stand in a number. -/
def isNumberPart (c : Char) : Bool :=
  c.isDigit || c == '-' || c == '+' || c == '.' || c == 'e' || c == 'E'

/-- One character in a string. -/
def inString (read : Option (List Char)) (c : Char) : Option (Mode × List Token) :=
  if c == '"' then some (.between, [.text (read.map fun cs => String.ofList cs.reverse)])
  else if c == '\\' then some (.escape read, [])
  else if c.toNat < 0x20 then none
  else some (.string (read.map (c :: ·)), [])

/-- One character behind a backslash in a string. -/
def inEscape (read : Option (List Char)) (c : Char) : Option (Mode × List Token) :=
  if c == 'u' then some (.unit read none 4 0, [])
  else (escaped? c).map fun d => (.string (read.map (d :: ·)), [])

/-- One character: the mode behind it, and the tokens that it ends or is. -/
def Mode.step : Mode → Char → Option (Mode × List Token)
  | between, c => startToken c
  | word read, c =>
    if c.isLower then some (word (c :: read), [])
    else do
      let value ← wordValue? read
      let (mode, tokens) ← startToken c
      some (mode, .scalar (some value) :: tokens)
  | number read, c =>
    if isNumberPart c then some (number (c :: read), [])
    else do
      let text ← NumberText.ofChars? read.reverse
      let (mode, tokens) ← startToken c
      some (mode, .scalar text.value? :: tokens)
  | string read, c => inString read c
  | escape read, c => inEscape read c
  | unit read high owed value, c => do
    let value := 16 * value + (← hexDigit? c)
    if owed ≤ 1 then some (afterUnit read high value, [])
    else some (unit read high (owed - 1) value, [])
  | half read high, c => if c == '\\' then some (halfEscape read high, []) else inString none c
  | halfEscape read high, c =>
    if c == 'u' then some (unit read (some high) 4 0, []) else inEscape none c

/-- The end of the text: the token that it ends. -/
def Mode.finish : Mode → Option (List Token)
  | between => some []
  | word read => (wordValue? read).map fun value => [.scalar (some value)]
  | number read => (NumberText.ofChars? read.reverse).map fun text => [.scalar text.value?]
  | _ => none

/-- Cuts a text into tokens, from a mode on. The tokens found before are kept with the latest in
front. -/
def Mode.run (mode : Mode) (found : List Token) : List Char → Option (List Token)
  | [] => mode.finish.map fun tokens => found.reverse ++ tokens
  | c :: rest =>
    match mode.step c with
    | some (mode, tokens) => mode.run (tokens.reverse ++ found) rest
    | none => none

/-- The tokens of a text. -/
def tokens? (text : List Char) : Option (List Token) := Mode.between.run [] text

end LineKin.Json
