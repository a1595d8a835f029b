import LineKin.Proofs.Line.ImportStatement
import Mathlib.Data.List.DropRight

/-!
# Statements that take a module apart

A `RequireStatement` takes parts of a module and binds each to a name: `const { … } = require('m')`. A
part is a name, with the key that it has in the module in front of it if this is another one, and may have
a default value. Any number of spaces stands around the tokens, and the statement is the text that is
written so (`RequireStatement.chars`).

What is read of a part is its name, with two exceptions (`RequiredPart.nameRead`). In a default value with
a colon, which may be there for any reason, the text behind the last colon is taken for the name. And a
name `type` with a default value behind a space is taken for the mark of a type, so that nothing is left.

* **`bindings_parts`**: the names that are read of a list of parts.
-/

namespace LineKin

open Text

namespace Line

/-- So many spaces. -/
abbrev spaces (n : Nat) : List Char := List.replicate n ' '

theorem not_mem_spaces {c : Char} (hc : c ≠ ' ') (n : Nat) : c ∉ spaces n :=
  fun h => hc (List.eq_of_mem_replicate h)

/-! ### Parts -/

/-- The key of a part, with the spaces behind it and behind its colon. -/
structure PartKey where
  /-- The key. -/
  key : Identifier
  /-- The spaces behind it. -/
  behind : Nat
  /-- The spaces behind the colon. -/
  behindColon : Nat

/-- A default value, with the spaces around it. -/
structure DefaultValue where
  /-- Its text. -/
  text : List Char
  /-- It holds no comma and no brace. -/
  free : ',' ∉ text ∧ '{' ∉ text ∧ '}' ∉ text

/-- A part of a module that is bound to a name. -/
structure RequiredPart where
  /-- The spaces in front. -/
  before : Nat
  /-- The key in the module, if it is not the name itself. -/
  key? : Option PartKey
  /-- The name. -/
  name : Identifier
  /-- The spaces behind the name. -/
  behind : Nat
  /-- What stands behind the equals sign, if there is one. -/
  default? : Option DefaultValue

/-- A key with its colon. -/
def PartKey.chars (k : PartKey) : List Char :=
  k.key.text.toList ++ spaces k.behind ++ ':' :: spaces k.behindColon

namespace RequiredPart

/-- What stands in front of the name. -/
def front (p : RequiredPart) : List Char :=
  spaces p.before ++ (p.key?.map PartKey.chars).getD []

/-- What stands behind the name and its spaces. -/
def back (p : RequiredPart) : List Char :=
  (p.default?.map fun d => '=' :: d.text).getD []

/-- The characters of a part. -/
def chars (p : RequiredPart) : List Char :=
  p.front ++ (p.name.text.toList ++ spaces p.behind ++ p.back)

theorem chars_of_no_key {p : RequiredPart} (hkey : p.key? = none) :
    p.chars = spaces p.before ++ (p.name.text.toList ++ spaces p.behind ++ p.back) := by
  simp [chars, front, hkey]

theorem chars_of_key {p : RequiredPart} {k : PartKey} (hkey : p.key? = some k) :
    p.chars = (spaces p.before ++ (k.key.text.toList ++ spaces k.behind)) ++
      ':' :: (spaces k.behindColon ++ (p.name.text.toList ++ spaces p.behind ++ p.back)) := by
  simp [chars, front, hkey, PartKey.chars]

theorem back_of_no_default {p : RequiredPart} (hdefault : p.default? = none) : p.back = [] := by
  rw [back, hdefault]
  rfl

theorem back_of_default {p : RequiredPart} {d : DefaultValue} (hdefault : p.default? = some d) :
    p.back = '=' :: d.text := by
  rw [back, hdefault]
  rfl

/-- Whether the name would be a mark of types if an imported name followed. -/
def looksMarked (p : RequiredPart) : Bool :=
  p.key?.isNone && p.name.text == "type" && 0 < p.behind

/-- The characters that are read as the name of a part. -/
def charsRead (p : RequiredPart) : List Char :=
  match p.default? with
  | none => p.name.text.toList
  | some d =>
    if ':' ∈ d.text then trim ((d.text.rtakeWhile (· != ':')).takeWhile (· != '='))
    else if p.looksMarked then []
    else p.name.text.toList

/-- The name that is read of a part, if there is any. -/
def nameRead (p : RequiredPart) : Option String :=
  if p.charsRead.isEmpty then none else some (String.ofList p.charsRead)

/-- The default value of a part, if it has one, holds no colon, and the part does not look like a marked
type. -/
structure IsPlain (p : RequiredPart) : Prop where
  /-- There is no colon but that of the key. -/
  colon_free : ∀ d ∈ p.default?, ':' ∉ d.text
  /-- It does not start like a marked type, if something follows the name. -/
  not_marked : p.default?.isSome = true → p.looksMarked = false

instance (p : RequiredPart) : Decidable p.IsPlain :=
  decidable_of_iff
    ((∀ d ∈ p.default?, ':' ∉ d.text) ∧ (p.default?.isSome = true → p.looksMarked = false))
    ⟨fun h => ⟨h.1, h.2⟩, fun h => ⟨h.1, h.2⟩⟩

/-- The name of a plain part is read. -/
theorem IsPlain.nameRead_eq {p : RequiredPart} (h : p.IsPlain) : p.nameRead = some p.name.text := by
  have hchars : p.charsRead = p.name.text.toList := by
    cases hdefault : p.default? with
    | none => simp [charsRead, hdefault]
    | some d =>
      have hcolon : ':' ∉ d.text := h.colon_free d hdefault
      have hmarked : p.looksMarked = false := h.not_marked (by rw [hdefault]; rfl)
      simp [charsRead, hdefault, hcolon, hmarked]
  obtain ⟨c, rest, hname, -⟩ := p.name.isIdentifier.exists_cons
  rw [nameRead, hchars, if_neg (by simp [hname]), String.ofList_toList]

/-! ### What is read of a part -/

section

variable {p : RequiredPart} {d : DefaultValue}

/-- The name and the spaces around it hold none of the marks. -/
theorem not_mem_named {c : Char} (hc : isNamePart c = false) (hspace : c ≠ ' ') (n : Nat) :
    c ∉ spaces n ++ (p.name.text.toList ++ spaces p.behind) := by
  simp [p.name.isIdentifier.not_mem hc, not_mem_spaces hspace]

theorem takeWhile_named (p : RequiredPart) (n : Nat) :
    (spaces n ++ (p.name.text.toList ++ spaces p.behind ++ p.back)).takeWhile (· != '=') =
      spaces n ++ (p.name.text.toList ++ spaces p.behind) := by
  have hnamed : '=' ∉ spaces n ++ (p.name.text.toList ++ spaces p.behind) :=
    not_mem_named (by decide) (by decide) n
  rw [← List.append_assoc]
  cases hdefault : p.default? with
  | none => rw [back_of_no_default hdefault, List.append_nil, takeWhile_ne_eq_self hnamed]
  | some d => rw [back_of_default hdefault, takeWhile_ne_append_cons hnamed]

theorem trim_named (p : RequiredPart) (n : Nat) :
    trim (spaces n ++ (p.name.text.toList ++ spaces p.behind)) = p.name.text.toList := by
  rw [← List.append_assoc, trim_padded (allBlank_spaces n) (allBlank_spaces p.behind),
    p.name.isIdentifier.trim_eq]

/-- Behind a key, the name is read. -/
theorem binding_of_key {k : PartKey} (hkey : p.key? = some k) (hback : ':' ∉ p.back) :
    binding [':'] p.chars = p.name.text.toList := by
  have htail : ':' ∉ spaces k.behindColon ++ (p.name.text.toList ++ spaces p.behind ++ p.back) := by
    rw [← List.append_assoc, List.mem_append, not_or]
    exact ⟨not_mem_named (by decide) (by decide) _, hback⟩
  rw [chars_of_key hkey, binding_colon htail, takeWhile_named, trim_named]

theorem exists_append_rtakeWhile {text : List Char} {c : Char} (h : c ∈ text) :
    ∃ front, text = front ++ c :: text.rtakeWhile (· != c) := by
  induction text using List.reverseRecOn with
  | nil => cases h
  | append_singleton text last ih =>
    rw [List.rtakeWhile_concat]
    by_cases hlast : last = c
    · exact ⟨text, by simp [hlast]⟩
    · have hmem := (List.mem_append.1 h).resolve_right fun hc => hlast (List.mem_singleton.1 hc).symm
      obtain ⟨front, hfront⟩ := ih hmem
      refine ⟨front, ?_⟩
      rw [if_pos (bne_iff_ne.2 hlast), ← List.cons_append, ← List.append_assoc, ← hfront]

/-- Behind the last colon of a default value, its text is read. -/
theorem binding_of_colon (hdefault : p.default? = some d) (hcolon : ':' ∈ d.text) :
    binding [':'] p.chars = trim ((d.text.rtakeWhile (· != ':')).takeWhile (· != '=')) := by
  obtain ⟨before, htext⟩ := exists_append_rtakeWhile hcolon
  have hlast : ':' ∉ d.text.rtakeWhile (· != ':') := fun h => by
    simpa using List.mem_rtakeWhile_imp h
  have hchars : p.chars = (p.front ++ (p.name.text.toList ++ spaces p.behind ++ '=' :: before)) ++
      ':' :: d.text.rtakeWhile (· != ':') := by
    conv_lhs => rw [chars, back_of_default hdefault, htext]
    simp
  rw [hchars, binding_colon hlast]

theorem takeWhile_isNamePart (p : RequiredPart) {more : List Char}
    (hmore : more.head?.any isNamePart = false) :
    (p.name.text.toList ++ more).takeWhile isNamePart = p.name.text.toList := by
  rw [List.takeWhile_append_of_pos p.name.isIdentifier.parts]
  cases more with
  | nil => simp
  | cons c more => rw [List.takeWhile_cons_of_neg (by simpa using hmore), List.append_nil]

theorem trim_chars (hkey : p.key? = none) (hdefault : p.default? = some d) :
    trim p.chars = p.name.text.toList ++ (spaces p.behind ++ '=' :: trimEnd d.text) := by
  have hchars : p.chars =
      (spaces p.before ++ (p.name.text.toList ++ spaces p.behind)) ++ '=' :: d.text := by
    simp [chars_of_no_key hkey, back_of_default hdefault]
  have hstart : trimStart (spaces p.before ++ (p.name.text.toList ++ spaces p.behind)) =
      p.name.text.toList ++ spaces p.behind := by
    obtain ⟨c, rest, hname, -⟩ := p.name.isIdentifier.exists_cons
    have hc : isBlank c = false := p.name.isIdentifier.not_isBlank c (hname ▸ List.mem_cons_self)
    rw [trimStart, List.dropWhile_append_of_pos (allBlank_spaces p.before), hname, List.cons_append,
      List.dropWhile_cons_of_neg (by simp [hc])]
  rw [hchars, trim_append_cons (by decide), hstart, List.append_assoc]

/-- Without a key and a default value, the name is read. -/
theorem binding_of_single (hkey : p.key? = none) (hdefault : p.default? = none) :
    binding [':'] p.chars = p.name.text.toList := by
  have hchars : p.chars = spaces p.before ++ (p.name.text.toList ++ spaces p.behind) := by
    simp [chars_of_no_key hkey, back_of_no_default hdefault]
  have hcolon : ':' ∉ p.chars := hchars ▸ not_mem_named (by decide) (by decide) p.before
  have hmark : ¬ "type ".toList <+: p.name.text.toList := fun h =>
    p.name.isIdentifier.not_mem (by decide) (h.subset (by decide : ' ' ∈ "type ".toList))
  rw [binding_of_not_mem hcolon, hchars, trim_named, withoutMark_eq_self hmark,
    takeWhile_ne_eq_self (p.name.isIdentifier.not_mem (by decide)), p.name.isIdentifier.trim_eq]

/-- A trimmed part starts with the mark of types only if a space stands behind the name `type`. -/
theorem looksMarked_of_mark (hkey : p.key? = none) (hdefault : p.default? = some d)
    (h : "type ".toList <+: trim p.chars) : p.looksMarked = true := by
  obtain ⟨rest, hrest⟩ := h
  rw [trim_chars hkey hdefault] at hrest
  have hmore : (spaces p.behind ++ '=' :: trimEnd d.text).head?.any isNamePart = false := by
    cases p.behind <;> rfl
  have hname : p.name.text.toList = "type".toList := by
    rw [← takeWhile_isNamePart p hmore, ← hrest]
    rfl
  have hbehind : p.behind ≠ 0 := by
    intro hzero
    rw [hname, hzero] at hrest
    have hrest : "type".toList ++ ' ' :: rest = "type".toList ++ '=' :: trimEnd d.text := hrest
    exact absurd (List.cons.inj (List.append_cancel_left hrest)).1 (by decide)
  rw [looksMarked, hkey, String.toList_inj.1 hname]
  simpa using Nat.pos_of_ne_zero hbehind

/-- Behind the mark of types, nothing is left in front of the default value. -/
theorem exists_withoutMark_of_looksMarked (hkey : p.key? = none) (hdefault : p.default? = some d)
    (h : p.looksMarked = true) :
    ∃ n, withoutMark "type ".toList (trim p.chars) = spaces n ++ '=' :: trimEnd d.text := by
  simp only [looksMarked, Bool.and_eq_true, beq_iff_eq, decide_eq_true_eq] at h
  obtain ⟨n, hn⟩ := Nat.exists_eq_succ_of_ne_zero h.2.ne'
  refine ⟨n, ?_⟩
  have hmark : trim p.chars = "type ".toList ++ (spaces n ++ '=' :: trimEnd d.text) := by
    rw [trim_chars hkey hdefault, h.1.2, hn, spaces, List.replicate_succ]
    rfl
  rw [hmark, withoutMark, if_pos (List.isPrefixOf_iff_prefix.2 (List.prefix_append ..)), List.drop_left]

/-- In front of a default value, a name `type` may be taken for a mark, and any other name is read. -/
theorem binding_of_default (hkey : p.key? = none) (hdefault : p.default? = some d)
    (hcolon : ':' ∉ d.text) :
    binding [':'] p.chars = if p.looksMarked then [] else p.name.text.toList := by
  have hmem : ':' ∉ p.chars := by
    rw [chars_of_no_key hkey, ← List.append_assoc, List.mem_append, not_or]
    exact ⟨not_mem_named (by decide) (by decide) _, by simp [back_of_default hdefault, hcolon]⟩
  rw [binding_of_not_mem hmem]
  split
  · rename_i hmarked
    obtain ⟨n, hrest⟩ := exists_withoutMark_of_looksMarked hkey hdefault hmarked
    rw [hrest, takeWhile_ne_append_cons (not_mem_spaces (by decide) n), trim_eq_nil_iff.2 (allBlank_spaces n)]
  · rename_i hmarked
    rw [withoutMark_eq_self (mt (looksMarked_of_mark hkey hdefault) hmarked),
      trim_takeWhile_trim (by decide), chars_of_no_key hkey, takeWhile_named, trim_named]

/-- **What is read of a part.** -/
theorem binding_eq (p : RequiredPart) : binding [':'] p.chars = p.charsRead := by
  cases hdefault : p.default? with
  | none =>
    have hback : ':' ∉ p.back := by simp [back_of_no_default hdefault]
    rw [charsRead, hdefault]
    cases hkey : p.key? with
    | none => exact binding_of_single hkey hdefault
    | some k => exact binding_of_key hkey hback
  | some d =>
    rw [charsRead, hdefault]
    by_cases hcolon : ':' ∈ d.text
    · simp only [if_pos hcolon]
      exact binding_of_colon hdefault hcolon
    · simp only [if_neg hcolon]
      cases hkey : p.key? with
      | none => exact binding_of_default hkey hdefault hcolon
      | some k =>
        have hback : ':' ∉ p.back := by simp [back_of_default hdefault, hcolon]
        rw [binding_of_key hkey hback, looksMarked, hkey]
        rfl

end

/-- A part holds no comma and no brace. -/
theorem not_mem_chars (p : RequiredPart) {c : Char} (hc : c ∈ [',', '{', '}']) : c ∉ p.chars := by
  have hsign : isNamePart c = false ∧ c ≠ ' ' ∧ c ≠ ':' ∧ c ≠ '=' := by
    simp only [List.mem_cons, List.not_mem_nil, or_false] at hc
    rcases hc with rfl | rfl | rfl <;> decide
  obtain ⟨hpart, hspace, hcolon, hequals⟩ := hsign
  have hspaces := not_mem_spaces hspace
  have hfront : c ∉ p.front := by
    cases hkey : p.key? with
    | none => simp [front, hkey, hspaces]
    | some k => simp [front, hkey, PartKey.chars, hspaces, hcolon, k.key.isIdentifier.not_mem hpart]
  have hback : c ∉ p.back := by
    cases hdefault : p.default? with
    | none => simp [back_of_no_default hdefault]
    | some d =>
      have hfree : c ∉ d.text := by
        simp only [List.mem_cons, List.not_mem_nil, or_false] at hc
        rcases hc with rfl | rfl | rfl
        · exact d.free.1
        · exact d.free.2.1
        · exact d.free.2.2
      simp [back_of_default hdefault, hequals, hfree]
  simp [chars, hfront, hback, hspaces, p.name.isIdentifier.not_mem hpart]

theorem bindings_chars (p : RequiredPart) : bindings ":" p.chars = p.nameRead.toList := by
  have hcomma : ',' ∉ p.chars := p.not_mem_chars List.mem_cons_self
  have hname : binding ":".toList p.chars = p.charsRead := p.binding_eq
  rw [bindings, List.splitOn_eq_singleton hcomma, List.filterMap_cons, List.filterMap_nil]
  simp only [hname, nameRead]
  cases p.charsRead with
  | nil => rfl
  | cons c rest => rfl

end RequiredPart

/-- The parts with commas between them. -/
def partsChars (parts : List RequiredPart) : List Char :=
  [','].intercalate (parts.map RequiredPart.chars)

theorem partsChars_cons (p q : RequiredPart) (parts : List RequiredPart) :
    partsChars (p :: q :: parts) = p.chars ++ ',' :: partsChars (q :: parts) := by
  simp [partsChars, List.intercalate_cons_cons]

/-- **The names of a list of parts** are read of each part by itself. -/
theorem bindings_parts (parts : List RequiredPart) :
    bindings ":" (partsChars parts) = parts.filterMap RequiredPart.nameRead := by
  induction parts with
  | nil => exact bindings_blanks nofun
  | cons p parts ih =>
    cases parts with
    | nil =>
      rw [partsChars, List.map_singleton, List.intercalate_singleton, p.bindings_chars]
      cases hread : p.nameRead <;> simp [hread]
    | cons q parts =>
      rw [partsChars_cons, bindings_append (p.not_mem_chars List.mem_cons_self), p.bindings_chars, ih,
        List.filterMap_cons (a := p)]
      cases p.nameRead <;> rfl

/-! ### Statements -/

/-- A statement that takes parts of a module. -/
structure RequireStatement where
  /-- The spaces in front. -/
  indent : Nat
  /-- The word that introduces the names. -/
  keyword : String
  /-- It is one of three. -/
  keyword_mem : keyword ∈ ["const", "let", "var"]
  /-- The spaces behind it. -/
  behindKeyword : Nat
  /-- The parts. -/
  parts : List RequiredPart
  /-- The spaces behind the closing brace. -/
  behindParts : Nat
  /-- The spaces behind the equals sign. -/
  behindEquals : Nat
  /-- The spaces behind the word for the call. -/
  behindRequire : Nat
  /-- The spaces behind the opening parenthesis. -/
  behindOpening : Nat
  /-- The name of the module. -/
  origin : List Char
  /-- The spaces behind the quoted name. -/
  behindOrigin : Nat
  /-- The spaces at the end. -/
  behindClosing : Nat

namespace RequireStatement

/-- What stands in front of the opening brace. -/
def head (s : RequireStatement) : List Char := s.keyword.toList ++ spaces s.behindKeyword

/-- What stands between the closing brace and the quoted name. -/
def call (s : RequireStatement) : List Char :=
  spaces s.behindParts ++ '=' :: (spaces s.behindEquals ++ ("require".toList ++ (spaces s.behindRequire ++
    '(' :: spaces s.behindOpening)))

/-- What stands behind the quoted name. -/
def ending (s : RequireStatement) : List Char := spaces s.behindOrigin ++ ')' :: spaces s.behindClosing

/-- The characters of the statement, without the spaces in front. -/
def chars (s : RequireStatement) : List Char :=
  s.head ++ '{' :: (partsChars s.parts ++ '}' :: (s.call ++ '\'' :: (s.origin ++ '\'' :: s.ending)))

/-- The statement as a line. -/
def line (s : RequireStatement) : String := String.ofList (spaces s.indent ++ s.chars)

/-- The names that the statement binds. -/
def names (s : RequireStatement) : List String := s.parts.map fun p => p.name.text

end RequireStatement

end Line

end LineKin
