import LineKin.Toml.Quoted
import LineKin.Toml.Scalar

/-!
# Reading TOML

A text is a list of statements, each on a line of its own: a key with a value, or a header. A value
may run over several lines if it is an array or a string in three quotes. Each reading function takes
the characters that are left and gives what it read together with what is left then.

The functions that read values within values are bounded by a count of steps, for which the number of
characters of the text is enough, since each step reads one. What a text may say has bounds of its
own: a key has at most `keyLimit` parts, and brackets are nested at most `nestingLimit` deep.
-/

namespace LineKin.Toml

/-- Whether a character is a blank within a line. -/
def isSpace (c : Char) : Bool := c == ' ' || c == '\t'

/-- Whether a character may stand in a comment. -/
def isCommentPart (c : Char) : Bool := c == '\t' || (0x20 ≤ c.toNat && c.toNat != 0x7F)

/-- What is left behind blanks. -/
def skipSpaces (text : List Char) : List Char := text.dropWhile isSpace

/-- What is left behind blanks and a comment, before the line break. -/
def skipToBreak (text : List Char) : List Char :=
  match skipSpaces text with
  | '#' :: rest => rest.dropWhile isCommentPart
  | rest => rest

/-- What is left behind the line break that ends a statement, or at the end of the text. -/
def endLine (text : List Char) : Option (List Char) :=
  match skipToBreak text with
  | [] => some []
  | '\n' :: rest => some rest
  | _ => none

/-- What is left behind blanks, comments and line breaks. -/
def skipAll (inComment : Bool) : List Char → List Char
  | [] => []
  | c :: rest =>
    if inComment && isCommentPart c then skipAll true rest
    else if c == '\n' then skipAll false rest
    else if inComment then c :: rest
    else if c == '#' then skipAll true rest
    else if isSpace c then skipAll false rest
    else c :: rest

/-! ### Keys -/

/-- Whether a character may stand in a key without quotes. -/
def isBareKeyPart (c : Char) : Bool := c.isAlphanum || c == '_' || c == '-'

/-- Reads one part of a key. -/
def readKeyPart (text : List Char) : Option (String × List Char) :=
  let bare := text.takeWhile isBareKeyPart
  if bare.isEmpty then (readLineString text).map fun (key, rest) => (String.ofList key, rest)
  else some (String.ofList bare, text.dropWhile isBareKeyPart)

/-- The greatest number of parts of a key. -/
def keyLimit : Nat := 79

/-- Reads a key of at most so many parts with dots between them. -/
def readKey : Nat → List Char → Option (List String × List Char)
  | 0, _ => none
  | steps + 1, text => do
    let (part, rest) ← readKeyPart (skipSpaces text)
    match skipSpaces rest with
    | '.' :: rest => do
      let (parts, rest) ← readKey steps rest
      some (part :: parts, rest)
    | rest => some ([part], rest)

/-- The parts of a key before its last one, and the last one. -/
def splitKey (parts : List String) : Option (List String × String) :=
  parts.getLast?.map fun last => (parts.dropLast, last)

/-! ### Values -/

/-- Whether a character may stand in a value without quotes or brackets. -/
def isBarePart (c : Char) : Bool :=
  c.isAlphanum || c == '_' || c == '-' || c == '+' || c == '.' || c == ':'

/-- Reads a value without quotes or brackets. A time may follow a date behind one space. -/
def readBare (text : List Char) : Option (Item × List Char) :=
  let run := text.takeWhile isBarePart
  let rest := text.dropWhile isBarePart
  let (run, rest) :=
    match rest with
    | ' ' :: c :: more =>
      if isDate run && c.isDigit then
        (run ++ ' ' :: (c :: more).takeWhile isBarePart, (c :: more).dropWhile isBarePart)
      else (run, rest)
    | _ => (run, rest)
  (scalar? run).map fun value => (.scalar value, rest)

/-- The greatest depth to which brackets are nested within a value. -/
def nestingLimit : Nat := 79

mutual

/-- Reads a value with brackets of at most the given depth. -/
def readValue (depth : Nat) : Nat → List Char → Option (Item × List Char)
  | 0, _ => none
  | steps + 1, text =>
    match depth, text with
    | depth + 1, '[' :: rest => do
      let (items, rest) ← readItems depth steps (skipAll false rest)
      some (.array items, rest)
    | depth + 1, '{' :: rest =>
      match skipSpaces rest with
      | '}' :: rest => some (.table .inline [], rest)
      | rest => do
        let (entries, rest) ← readMembers depth steps [] rest
        some (.table .inline entries, rest)
    | _, '"' :: _ | _, '\'' :: _ => do
      let (value, rest) ← readString text
      some (.scalar (.string (String.ofList value)), rest)
    | _, text => readBare text

/-- Reads the items of an array, up to its end. -/
def readItems (depth : Nat) : Nat → List Char → Option (List Item × List Char)
  | 0, _ => none
  | steps + 1, text =>
    match text with
    | ']' :: rest => some ([], rest)
    | _ => do
      let (item, rest) ← readValue depth steps text
      match skipAll false rest with
      | ',' :: rest => do
        let (items, rest) ← readItems depth steps (skipAll false rest)
        some (item :: items, rest)
      | ']' :: rest => some ([item], rest)
      | _ => none

/-- Reads the members of a table in braces, up to its end. -/
def readMembers (depth : Nat) : Nat → Entries → List Char → Option (Entries × List Char)
  | 0, _, _ => none
  | steps + 1, entries, text => do
    let (key, rest) ← readKey keyLimit text
    let (path, last) ← splitKey key
    match rest with
    | '=' :: rest => do
      let (item, rest) ← readValue depth steps (skipSpaces rest)
      let entries ← setKey path last item .headed entries
      match skipSpaces rest with
      | ',' :: rest => readMembers depth steps entries rest
      | '}' :: rest => some (entries, rest)
      | _ => none
    | _ => none

end

/-! ### Statements -/

/-- What a text has said so far. -/
structure Reader where
  /-- The whole table. -/
  root : Entries := []
  /-- The keys that lead to the table that statements go into. -/
  current : List String := []

/-- Puts a value under a key of the current table. -/
def Reader.assign (r : Reader) (path : List String) (key : String) (item : Item) : Option Reader :=
  (updateAt .implied (setKey path key item) r.current .headed r.root).map fun root =>
    { r with root := root }

/-- Reads a header behind its opening brackets, and opens its table. -/
def Reader.header (r : Reader) (isElement : Bool) (text : List Char) : Option (Reader × List Char) := do
  let (key, rest) ← readKey keyLimit text
  let (path, last) ← splitKey key
  if isElement then
    match rest with
    | ']' :: ']' :: rest => some (⟨← openElement path last r.root, key⟩, rest)
    | _ => none
  else
    match rest with
    | ']' :: rest => some (⟨← openTable path last r.root, key⟩, rest)
    | _ => none

/-- Reads one statement, with so many steps for its value; the text does not start with a blank, a
comment or a line break. -/
def Reader.statement (r : Reader) (steps : Nat) (text : List Char) :
    Option (Reader × List Char) := do
  let (r, rest) ←
    match text with
    | '[' :: '[' :: rest => r.header true rest
    | '[' :: rest => r.header false rest
    | _ => do
      let (key, rest) ← readKey keyLimit text
      let (path, last) ← splitKey key
      match rest with
      | '=' :: rest => do
        let (item, rest) ← readValue nestingLimit steps (skipSpaces rest)
        some (← r.assign path last item, rest)
      | _ => none
  some (r, ← endLine rest)

/-- Reads at most so many statements. Each of them has at least one character, so the steps that are
left are always enough for the characters that are left. -/
def Reader.run (r : Reader) : Nat → List Char → Option Reader
  | 0, _ => none
  | steps + 1, text =>
    match skipAll false text with
    | [] => some r
    | text => do
      let (r, rest) ← r.statement (steps + 1) text
      r.run steps rest

/-- A text whose line breaks of two characters are line feeds. -/
def unifyBreaks : List Char → List Char
  | [] => []
  | '\r' :: '\n' :: rest => '\n' :: unifyBreaks rest
  | c :: rest => c :: unifyBreaks rest

/-- A text without the mark that may stand at its beginning. -/
def withoutByteOrderMark : List Char → List Char
  | '\uFEFF' :: rest => rest
  | text => text

/-- The table that a TOML text stands for, if the text is one. -/
def parse? (text : String) : Option Entries :=
  let chars := unifyBreaks (withoutByteOrderMark text.toList)
  ((Reader.run {} (chars.length + 1) chars)).map (·.root)

end LineKin.Toml
