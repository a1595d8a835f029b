/-!
# Arguments

A command line is a list of words. A word that starts with a dash gives options: one with two dashes
and a long name, or any number of letters behind one dash. The value of an option stands in the same
word, with or without an equals sign, or is the next word, if that is none of options. All other
words are operands, and so are all words behind `--`. No option is given twice.
-/

namespace LineKin.CommandLine

/-- An option. -/
structure Switch where
  /-- Its long name. -/
  long : String
  /-- Its letter, if it has one. -/
  letter : Option Char := none
  /-- Whether it has a value. -/
  hasValue : Bool := false

/-- What a list of words says. -/
structure Words where
  /-- The options that are given, by long name, with their values. -/
  given : List (String × String) := []
  /-- The operands. -/
  operands : List String := []

namespace Words

/-- Whether an option is given. -/
def has (w : Words) (long : String) : Bool := w.given.any fun entry => entry.1 == long

/-- The value of an option. -/
def value? (w : Words) (long : String) : Option String :=
  (w.given.find? fun entry => entry.1 == long).map (·.2)

/-- The words with one more option, which must be new. -/
def give (w : Words) (long value : String) : Option Words :=
  if w.has long then none else some { w with given := w.given ++ [(long, value)] }

/-- The words with one more operand. -/
def operand (w : Words) (word : String) : Words := { w with operands := w.operands ++ [word] }

end Words

/-- What a word with options says: the options that are complete, and one that still waits for its
value. -/
structure WordOptions where
  /-- The complete options with their values. -/
  complete : List (String × String)
  /-- The option whose value is the next word. -/
  waiting : Option String

/-- Whether a word gives options. -/
def isOptionWord (word : String) : Bool := "-".toList.isPrefixOf word.toList && word != "-"

/-- Reads the letters behind one dash. -/
def readLetters (switches : List Switch) : List Char → Option WordOptions
  | [] => some ⟨[], none⟩
  | c :: rest => do
    let switch ← switches.find? fun switch => switch.letter == some c
    if switch.hasValue then
      match rest with
      | [] => some ⟨[], some switch.long⟩
      | '=' :: value => some ⟨[(switch.long, String.ofList value)], none⟩
      | value => some ⟨[(switch.long, String.ofList value)], none⟩
    else
      let more ← readLetters switches rest
      some { more with complete := (switch.long, "") :: more.complete }

/-- Reads a long name, with a value if there is an equals sign. -/
def readLong (switches : List Switch) (text : List Char) : Option WordOptions := do
  let name := String.ofList (text.takeWhile (· != '='))
  let switch ← switches.find? fun switch => switch.long == name
  match text.dropWhile (· != '=') with
  | _ :: value =>
    if switch.hasValue then some ⟨[(name, String.ofList value)], none⟩ else none
  | [] => some (if switch.hasValue then ⟨[], some name⟩ else ⟨[(name, "")], none⟩)

/-- Reads a word with options. -/
def readOptionWord (switches : List Switch) (word : String) : Option WordOptions :=
  match word.toList with
  | '-' :: '-' :: text => readLong switches text
  | '-' :: text => readLetters switches text
  | _ => none

/-- Reads words. -/
def Words.read (switches : List Switch) (w : Words) : List String → Option Words
  | [] => some w
  | word :: rest =>
    if word == "--" then some (rest.foldl Words.operand w)
    else if isOptionWord word then do
      let options ← readOptionWord switches word
      let w ← options.complete.foldlM (fun w entry => w.give entry.1 entry.2) w
      match options.waiting with
      | none => w.read switches rest
      | some long =>
        match rest with
        | value :: rest =>
          if isOptionWord value then none else do
            (← w.give long value).read switches rest
        | [] => none
    else (w.operand word).read switches rest

end LineKin.CommandLine
