import LineKin.Text.Blank
import LineKin.Text.WordChar

/-!
# Patterns in a line of text

A `Pattern` describes a piece of a line. It is read at a `Place`, which splits the line into the
characters passed and the characters ahead, and its meaning is the list of places where a piece
that fits can end: `Pattern.ways`. The order of that list is the order of preference. An
alternative prefers its left side, a repetition prefers to go on, a sequence prefers first by its
first part. So the head of the list is the preferred reading, and a pattern fits at all exactly
when the list is not empty.

A `Shape` is a pattern in three parts whose middle part spells a name. `Shape.first?` gives the
name of the leftmost fit, `Shape.all` those of all fits from left to right, where the search for
the next one starts where the last one ended and still sees what stands before that place.

No pattern here needs to look further back than one character, and each is finite or a repetition
that moves ahead, so all functions are structural.
-/

namespace LineKin

open Text

/-- A place in a line: between two characters, at its beginning or at its end. -/
structure Place where
  /-- The characters passed, nearest first. -/
  before : List Char
  /-- The characters ahead, nearest first. -/
  after : List Char
  /-- How many characters are passed. -/
  passed : Nat
  /-- They are those before the place. -/
  passed_eq : passed = before.length
  deriving DecidableEq

namespace Place

/-- The place at the beginning of a text. -/
def start (text : List Char) : Place := ⟨[], text, 0, rfl⟩

/-- The place behind one more character, with the given ones ahead. -/
def behind (x : Place) (c : Char) (rest : List Char) : Place :=
  ⟨c :: x.before, rest, x.passed + 1, by rw [x.passed_eq, List.length_cons]⟩

/-- Two places are the same if the same characters stand before and ahead of them. -/
@[ext] theorem ext {x y : Place} (hb : x.before = y.before) (ha : x.after = y.after) : x = y := by
  cases x; cases y; simp_all

/-- Whether exactly one of the two neighbours of the place is a word character. -/
def atWordEdge (x : Place) : Bool :=
  x.before.head?.any isWordChar != x.after.head?.any isWordChar

/-- The characters from a place to a later one of the same line. -/
def upTo (x later : Place) : List Char := x.after.take (later.passed - x.passed)

end Place

/-- A description of a piece of a line. -/
inductive Pattern where
  /-- The empty piece. -/
  | nothing
  /-- One character of a class. -/
  | one (allowed : Char → Bool)
  /-- Any number of characters of a class, as many as possible first. -/
  | run (allowed : Char → Bool)
  /-- A piece of the first kind, then one of the second. -/
  | sequence (first second : Pattern)
  /-- A piece of the first kind, or else one of the second. -/
  | choice (first second : Pattern)
  /-- Any number of pieces of a kind, as many as possible first. A piece is expected not to be empty,
  so no more are tried than there are characters ahead. -/
  | many (piece : Pattern)
  /-- The empty piece at an edge of a word. -/
  | wordEdge
  /-- The empty piece at the end of the line. -/
  | lineEnd

namespace Pattern

instance : Append Pattern := ⟨sequence⟩
instance : OrOp Pattern := ⟨choice⟩

/-- The places reached by passing characters of a class from a place, farthest first. The places
that were already reached, nearer ones, are handed along. -/
def runWays (allowed : Char → Bool) (x : Place) : List Char → List Place → List Place
  | [], nearer => x :: nearer
  | c :: rest, nearer =>
    if allowed c then runWays allowed (x.behind c rest) rest (x :: nearer) else x :: nearer

/-- The places reached by steps, most steps first, at most as many as there are characters in a
list. -/
def manyWays (step : Place → List Place) : List Char → Place → List Place
  | [], x => [x]
  | _ :: rest, x => (step x).flatMap (manyWays step rest) ++ [x]

/-- The places where a piece that fits and starts at the given place can end, preferred ones
first. -/
def ways : Pattern → Place → List Place
  | nothing, x => [x]
  | one allowed, x =>
    match x.after with
    | c :: rest => if allowed c then [x.behind c rest] else []
    | [] => []
  | run allowed, x => runWays allowed x x.after []
  | sequence p q, x => (p.ways x).flatMap q.ways
  | choice p q, x => p.ways x ++ q.ways x
  | many p, x => manyWays p.ways x.after x
  | wordEdge, x => if x.atWordEdge then [x] else []
  | lineEnd, x => if x.after.isEmpty then [x] else []

/-- Whether some piece at the place fits. -/
def fits (p : Pattern) (x : Place) : Bool := !(p.ways x).isEmpty

/-- Whether the pattern fits at the beginning of a text. -/
def opens (p : Pattern) (text : List Char) : Bool := p.fits (.start text)

/-- Whether the pattern fits somewhere, from a place with the given characters ahead on. -/
def occursFrom (p : Pattern) (x : Place) : List Char → Bool
  | [] => p.fits x
  | c :: rest => p.fits x || p.occursFrom (x.behind c rest) rest

/-- Whether the pattern fits somewhere in a text. -/
def occursIn (p : Pattern) (text : List Char) : Bool := p.occursFrom (.start text) text

/-! ### Building blocks -/

/-- These characters, one after the other. -/
def chars : List Char → Pattern
  | [] => nothing
  | c :: rest => one (· == c) ++ chars rest

/-- This text. -/
def text (s : String) : Pattern := chars s.toList

/-- One of these texts, earlier ones preferred. -/
def anyOf (texts : List String) : Pattern :=
  match texts with
  | [] => one fun _ => false
  | [s] => text s
  | s :: rest => text s ||| anyOf rest

/-- A piece, or nothing. -/
def maybe (p : Pattern) : Pattern := p ||| nothing

/-- Any number of blanks. -/
def blanks : Pattern := run isBlank

/-- One blank or more. -/
def gap : Pattern := one isBlank ++ run isBlank

/-- One character. -/
def char (c : Char) : Pattern := one (· == c)

/-- A name: an ASCII letter or underscore and then ASCII letters, digits and underscores. -/
def name : Pattern := one isNameStart ++ run isNamePart

/-! ### What each kind of pattern reaches -/

@[simp] theorem ways_nothing (x : Place) : nothing.ways x = [x] := rfl

@[simp] theorem ways_sequence (p q : Pattern) (x : Place) :
    (p ++ q).ways x = (p.ways x).flatMap q.ways := rfl

@[simp] theorem ways_choice (p q : Pattern) (x : Place) :
    (p ||| q).ways x = p.ways x ++ q.ways x := rfl

theorem ways_one_cons {allowed : Char → Bool} {x : Place} {c : Char} {rest : List Char}
    (h : x.after = c :: rest) :
    (one allowed).ways x = if allowed c then [x.behind c rest] else [] := by simp [ways, h]

theorem ways_one_nil {allowed : Char → Bool} {x : Place} (h : x.after = []) :
    (one allowed).ways x = [] := by simp [ways, h]

end Pattern

/-- A pattern in three parts, of which the middle one spells a name. -/
structure Shape where
  /-- What stands before the name. -/
  lead : Pattern := .nothing
  /-- The name. -/
  name : Pattern := Pattern.name
  /-- What stands behind the name. -/
  trail : Pattern := .nothing

namespace Shape

/-- A name that was found, and the place where the whole fit ends. -/
structure Found where
  /-- The characters of the name. -/
  name : List Char
  /-- The place behind the trail. -/
  finish : Place

/-- The preferred fit that starts at a place. -/
def at? (s : Shape) (x : Place) : Option Found :=
  let fits := (s.lead.ways x).flatMap fun start =>
    (s.name.ways start).flatMap fun stop =>
      (s.trail.ways stop).map fun finish => (start, stop, finish)
  fits.head?.map fun (start, stop, finish) => ⟨start.upTo stop, finish⟩

/-- The name of the fit at the beginning of a text. -/
def atStart? (s : Shape) (text : List Char) : Option (List Char) :=
  (s.at? (.start text)).map (·.name)

/-- The name of the leftmost fit, from a place with the given characters ahead on. -/
def firstFrom? (s : Shape) (x : Place) : List Char → Option (List Char)
  | [] => (s.at? x).map (·.name)
  | c :: rest =>
    match s.at? x with
    | some found => some found.name
    | none => s.firstFrom? (x.behind c rest) rest

/-- The name of the leftmost fit in a text. -/
def first? (s : Shape) (text : List Char) : Option (List Char) := s.firstFrom? (.start text) text

/-- Names found before, in reverse, and then those of all fits from a place with the given characters
ahead on, once `skip` more characters are passed. -/
def allFrom (s : Shape) (names : List (List Char)) : Nat → Place → List Char → List (List Char)
  | _, x, [] => names.reverse ++ (s.at? x).toList.map (·.name)
  | skip + 1, x, c :: rest => s.allFrom names skip (x.behind c rest) rest
  | 0, x, c :: rest =>
    match s.at? x with
    | some found =>
      s.allFrom (found.name :: names) (found.finish.passed - (x.passed + 1)) (x.behind c rest) rest
    | none => s.allFrom names 0 (x.behind c rest) rest

/-- The names of all fits in a text, left to right and without overlaps. -/
def all (s : Shape) (text : List Char) : List (List Char) := s.allFrom [] 0 (.start text) text

/-- The names found before stand in front of those that are found. -/
theorem allFrom_append (s : Shape) (names : List (List Char)) (skip : Nat) (x : Place)
    (text : List Char) : s.allFrom names skip x text = names.reverse ++ s.allFrom [] skip x text := by
  induction text generalizing names skip x with
  | nil => cases skip <;> simp [allFrom]
  | cons c rest ih =>
    cases skip with
    | succ skip => rw [allFrom, ih, allFrom]
    | zero =>
      rw [allFrom, allFrom]
      split
      · rw [ih, ih [_]]; simp
      · rw [ih]

/-- The name of the fit at the beginning of a line. -/
def nameAtStart? (s : Shape) (line : String) : Option String :=
  (s.atStart? line.toList).map String.ofList

/-- The name of the leftmost fit in a line. -/
def nameIn? (s : Shape) (line : String) : Option String :=
  (s.first? line.toList).map String.ofList

/-- The names of all fits in a line, left to right and without overlaps. -/
def namesIn (s : Shape) (line : String) : List String :=
  (s.all line.toList).map String.ofList

end Shape

end LineKin
