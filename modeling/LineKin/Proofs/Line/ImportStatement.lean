import LineKin.Proofs.Line.Bindings

/-!
# Import statements

An `ImportStatement` imports a default export, a list of names or a whole module, or the first together
with one of the others, and may be marked as one of types. Its tokens are written one after the other with
spaces between them (`ImportStatement.WrittenAs`).

A list of names that is written like this is read as the names that it binds (`bindings_list`).
-/

namespace LineKin

open Text

namespace Line

/-! ### Statements -/

/-- A word that is spelled like an identifier. -/
structure Identifier where
  /-- The word. -/
  text : String
  /-- Its spelling. -/
  isIdentifier : IsIdentifier text.toList

/-- The word that starts a statement. -/
def importWord : Identifier := ⟨"import", by decide⟩

/-- The mark of a statement or a name that imports a type. -/
def typeWord : Identifier := ⟨"type", by decide⟩

/-- The word in front of a local name. -/
def asWord : Identifier := ⟨"as", by decide⟩

/-- The word in front of the module. -/
def fromWord : Identifier := ⟨"from", by decide⟩

/-- An identifier without a meaning of its own in an import statement. -/
structure ImportName extends Identifier where
  /-- It is none of the words that have one. -/
  free : text ∉ ["type", "as", "from"]

/-- One name of a list. -/
structure Specifier where
  /-- Whether it is marked as a type. -/
  typeOnly : Bool
  /-- The name in the module. -/
  imported : ImportName
  /-- The local name, if it is another one. -/
  alias? : Option ImportName

/-- The name that is bound. -/
def Specifier.localName (s : Specifier) : ImportName := s.alias?.getD s.imported

/-- What stands next to the default export, or without it. -/
inductive ImportPart where
  /-- A list of names in braces. -/
  | list (specifiers : List Specifier)
  /-- The whole module under a name. -/
  | star (name : ImportName)

/-- What a statement imports. -/
inductive ImportClause where
  /-- The default export. -/
  | byDefault (name : ImportName)
  /-- A list or the whole module. -/
  | part (part : ImportPart)
  /-- Both. -/
  | both (name : ImportName) (part : ImportPart)

/-- An import statement. -/
structure ImportStatement where
  /-- Whether it is marked as one of types. -/
  typeOnly : Bool
  /-- What it imports. -/
  clause : ImportClause
  /-- The module that it imports from. -/
  origin : String
  /-- The name of the module is made of word characters and those of paths. -/
  origin_chars : ∀ c ∈ origin.toList, isWordChar c = true ∨ c ∈ ['.', '/', '-', '@']

/-- The names of a list. -/
def ImportPart.listed : ImportPart → List String
  | list l => l.map fun s => s.localName.text
  | star _ => []

/-- The name of a whole module. -/
def ImportPart.wholeModule : ImportPart → List String
  | list _ => []
  | star name => [name.text]

/-- The list or the whole module that is imported. -/
def ImportClause.part? : ImportClause → Option ImportPart
  | byDefault _ => none
  | part p | both _ p => some p

/-- The name of the default export. -/
def ImportClause.defaults : ImportClause → List String
  | byDefault name | both name _ => [name.text]
  | part _ => []

/-- The names that are imported one by one. -/
def ImportClause.listed (c : ImportClause) : List String := (c.part?.map ImportPart.listed).getD []

/-- The name of the whole module. -/
def ImportClause.wholeModule (c : ImportClause) : List String :=
  (c.part?.map ImportPart.wholeModule).getD []

/-! ### Tokens -/

/-- A piece of a statement in front of the module. -/
inductive Token where
  /-- A keyword or an identifier. -/
  | word (w : Identifier)
  /-- A comma. -/
  | comma
  /-- An opening brace. -/
  | opening
  /-- A closing brace. -/
  | closing
  /-- A star. -/
  | star

/-- The characters of a token. -/
def Token.chars : Token → List Char
  | word w => w.text.toList
  | comma => [',']
  | opening => ['{']
  | closing => ['}']
  | star => ['*']

/-- The tokens of one name of a list, without the mark of a type. -/
def Specifier.nameTokens (s : Specifier) : List Token :=
  .word s.imported.toIdentifier ::
    match s.alias? with
    | none => []
    | some name => [.word asWord, .word name.toIdentifier]

/-- The tokens of one name of a list. -/
def Specifier.tokens (s : Specifier) : List Token :=
  (if s.typeOnly then [.word typeWord] else []) ++ s.nameTokens

/-- The tokens of a list, without the braces. -/
def listTokens (specifiers : List Specifier) : List Token :=
  [Token.comma].intercalate (specifiers.map Specifier.tokens)

theorem listTokens_cons (s t : Specifier) (rest : List Specifier) :
    listTokens (s :: t :: rest) = s.tokens ++ .comma :: listTokens (t :: rest) := by
  simp [listTokens]

/-- The tokens of a list or of a whole module. -/
def ImportPart.tokens : ImportPart → List Token
  | list specifiers => .opening :: listTokens specifiers ++ [.closing]
  | star name => [.star, .word asWord, .word name.toIdentifier]

/-- The tokens of what is imported. -/
def ImportClause.tokens : ImportClause → List Token
  | byDefault name => [.word name.toIdentifier]
  | part p => p.tokens
  | both name p => .word name.toIdentifier :: .comma :: p.tokens

/-- The tokens of a statement, up to the word in front of the module. -/
def ImportStatement.tokens (s : ImportStatement) : List Token :=
  .word importWord ::
    ((if s.typeOnly then [.word typeWord] else []) ++ (s.clause.tokens ++ [.word fromWord]))

/-! ### How tokens are written -/

/-- Whether a space has to follow a token that stands in front of the given ones. A word needs one, unless
a comma or a closing brace follows. -/
def Token.needsSpace : Token → List Token → Bool
  | word _, comma :: _ => false
  | word _, closing :: _ => false
  | word _, _ => true
  | _, _ => false

/-- Tokens in front of other ones, with spaces behind each of them. -/
inductive Written : List Token → List Token → List Char → Prop where
  /-- No tokens. -/
  | nil {following : List Token} : Written [] following []
  /-- One token and more. -/
  | cons {token : Token} {tokens following : List Token} {spaces : Nat} {text : List Char}
      (hspaces : token.needsSpace (tokens ++ following) = true → 0 < spaces)
      (htokens : Written tokens following text) :
      Written (token :: tokens) following (token.chars ++ List.replicate spaces ' ' ++ text)

/-- A line that holds the statement, with the module in quotes. -/
def ImportStatement.WrittenAs (s : ImportStatement) (line : String) : Prop :=
  ∃ text, Written s.tokens [] text ∧ line.toList = text ++ '\'' :: s.origin.toList ++ ['\'']

theorem Token.exists_cons (token : Token) :
    ∃ c rest, token.chars = c :: rest ∧ isBlank c = false := by
  cases token with
  | word w =>
    obtain ⟨c, rest, hw, hc, -⟩ := w.isIdentifier.exists_cons
    exact ⟨c, rest, hw, w.isIdentifier.not_isBlank c (hw ▸ List.mem_cons_self)⟩
  | comma | opening | closing | star => exact ⟨_, [], rfl, by decide⟩

theorem written_append {tokens more following : List Token} {text : List Char}
    (h : Written (tokens ++ more) following text) : ∃ front back, text = front ++ back ∧
      Written tokens (more ++ following) front ∧ Written more following back := by
  induction tokens generalizing text with
  | nil => exact ⟨[], text, rfl, .nil, h⟩
  | cons token tokens ih =>
    cases h with
    | cons hspaces htokens =>
      obtain ⟨front, back, rfl, hfront, hback⟩ := ih htokens
      have hassoc : tokens.append more ++ following = tokens ++ (more ++ following) :=
        List.append_assoc ..
      rw [hassoc] at hspaces
      exact ⟨_, back, (List.append_assoc ..).symm, .cons hspaces hfront, hback⟩

/-! ### Clauses -/

/-- A clause starts with a name that is free, a brace or a star. -/
theorem ImportClause.exists_tokens_cons (c : ImportClause) : ∃ token rest,
    c.tokens ++ [.word fromWord] = token :: rest ∧ token ≠ .comma ∧ token ≠ .closing ∧
      ∀ w, token = .word w → w.text ∉ ["type", "as", "from"] := by
  have hname : ∀ (name : ImportName) (w : Identifier), Token.word name.toIdentifier = .word w →
      w.text ∉ ["type", "as", "from"] := by
    rintro name _ ⟨⟩
    exact name.free
  have hpart : ∀ p : ImportPart, ∃ token rest, p.tokens ++ [.word fromWord] = token :: rest ∧
      token ≠ .comma ∧ token ≠ .closing ∧ ∀ w, token = .word w → w.text ∉ ["type", "as", "from"] := by
    rintro (l | name)
    · exact ⟨.opening, _, rfl, nofun, nofun, nofun⟩
    · exact ⟨.star, _, rfl, nofun, nofun, nofun⟩
  cases c with
  | byDefault name => exact ⟨_, _, rfl, nofun, nofun, hname name⟩
  | part p => exact hpart p
  | both name p => exact ⟨_, _, rfl, nofun, nofun, hname name⟩

theorem ImportClause.needsSpace (c : ImportClause) (w : Identifier) :
    (Token.word w).needsSpace (c.tokens ++ [.word fromWord]) = true := by
  obtain ⟨token, rest, heq, hcomma, hclosing, -⟩ := c.exists_tokens_cons
  rw [heq]
  cases token with
  | word _ | opening | star => rfl
  | comma => exact absurd rfl hcomma
  | closing => exact absurd rfl hclosing

/-! ### The names of a list -/

theorem Written.exists_next {token : Token} {following : List Token} {text : List Char}
    (h : Written (token :: tokens) following text) : ∃ spaces rest,
      text = token.chars ++ List.replicate spaces ' ' ++ rest ∧ Written tokens following rest ∧
        (token.needsSpace (tokens ++ following) = true → 0 < spaces) := by
  cases h with
  | cons hspaces htokens => exact ⟨_, _, rfl, htokens, hspaces⟩

/-- What is written for a name of a list, without the mark of a type and the spaces at its end. -/
theorem Specifier.exists_named {s : Specifier} {following : List Token} {text : List Char}
    (h : Written s.nameTokens following text) :
    ∃ named spaces front, text = named ++ List.replicate spaces ' ' ∧
      s.imported.text.toList <+: named ∧ s.localName.text.toList <:+ named ∧
      named.takeWhile isNamePart = s.imported.text.toList ∧
      AllBlank front ∧
      (afterLast? " as ".toList named).getD named = front ++ s.localName.text.toList := by
  rw [nameTokens] at h
  obtain ⟨m, rest, rfl, hrest, hm⟩ := h.exists_next
  have himported := s.imported.isIdentifier
  cases halias : s.alias? with
  | none =>
    rw [halias] at hrest
    have hlocal : s.localName = s.imported := by rw [Specifier.localName, halias, Option.getD_none]
    cases hrest
    refine ⟨s.imported.text.toList, m, [], List.append_nil _, List.prefix_refl _, ?_, ?_, nofun, ?_⟩
    · exact hlocal ▸ List.suffix_refl _
    · exact List.takeWhile_eq_self_iff.2 himported.parts
    · rw [afterLast?_word (himported.not_mem (by decide)), hlocal]
      rfl
  | some other =>
    rw [halias] at hrest hm
    have hlocal : s.localName = other := by rw [Specifier.localName, halias, Option.getD_some]
    obtain ⟨n, rest, rfl, hrest, hn⟩ := hrest.exists_next
    obtain ⟨k, rest, rfl, hrest, -⟩ := hrest.exists_next
    cases hrest
    obtain ⟨m, rfl⟩ := Nat.exists_eq_succ_of_ne_zero (hm rfl).ne'
    obtain ⟨n, rfl⟩ := Nat.exists_eq_succ_of_ne_zero (hn rfl).ne'
    rw [hlocal]
    refine ⟨s.imported.text.toList ++ List.replicate (m + 1) ' ' ++ "as".toList ++
      List.replicate (n + 1) ' ' ++ other.text.toList, k, List.replicate n ' ', ?_, ?_, ?_, ?_, ?_, ?_⟩
    · simp [Token.chars, asWord]
    · simp only [List.append_assoc]
      exact List.prefix_append ..
    · exact List.suffix_append ..
    · rw [List.append_assoc, List.append_assoc, List.append_assoc,
        List.takeWhile_append_of_pos himported.parts, List.replicate_succ]
      exact List.append_nil _
    · exact allBlank_spaces n
    · rw [afterLast?_rename m n (other.isIdentifier.not_mem (by decide))]
      rfl

/-- A name of a list is read as its local name. -/
theorem Specifier.binding_eq {s : Specifier} {following : List Token} {front text : List Char}
    (hfront : AllBlank front) (h : Written s.tokens following text) :
    binding " as ".toList (front ++ text) = s.localName.text.toList := by
  rw [tokens] at h
  cases htype : s.typeOnly with
  | false =>
    rw [htype] at h
    obtain ⟨named, spaces, before, rfl, himported, hlocal, hahead, hbefore, htarget⟩ := exists_named h
    refine Line.binding_eq s.localName.isIdentifier hbefore ?_ htarget
    have htrim := trim_words s.imported.isIdentifier s.localName.isIdentifier himported hlocal
    have hne : named.takeWhile isNamePart ≠ "type".toList := by
      rw [hahead]
      exact fun heq => s.imported.free (String.toList_inj.1 heq ▸ List.mem_cons_self)
    rw [← List.append_assoc, trim_padded hfront (allBlank_spaces spaces), htrim,
      withoutMark_type_of_ne hne, htrim]
  | true =>
    rw [htype] at h
    obtain ⟨n, rest, rfl, hrest, hn⟩ := Written.exists_next h
    obtain ⟨named, spaces, before, rfl, himported, hlocal, -, hbefore, htarget⟩ := exists_named hrest
    obtain ⟨n, rfl⟩ := Nat.exists_eq_succ_of_ne_zero (hn rfl).ne'
    refine Line.binding_eq s.localName.isIdentifier hbefore ?_ htarget
    have htrim := trim_words s.imported.isIdentifier s.localName.isIdentifier himported hlocal
    have hmarked : trim ("type".toList ++ List.replicate (n + 1) ' ' ++ named) =
        "type".toList ++ List.replicate (n + 1) ' ' ++ named := by
      refine trim_words typeWord.isIdentifier s.localName.isIdentifier ?_ ?_
      · rw [List.append_assoc]
        exact List.prefix_append ..
      · exact hlocal.trans (List.suffix_append ..)
    have hcut : front ++ ((Token.word typeWord).chars ++ List.replicate (n + 1) ' ' ++
        (named ++ List.replicate spaces ' ')) = front ++
          ("type".toList ++ List.replicate (n + 1) ' ' ++ named) ++ List.replicate spaces ' ' := by
      simp [Token.chars, typeWord]
    rw [hcut, trim_padded hfront (allBlank_spaces spaces), hmarked, trim_withoutMark_type, htrim]

theorem Written.not_mem {tokens following : List Token} {text : List Char} {c : Char}
    (h : Written tokens following text) (hc : c ≠ ' ') (htokens : ∀ t ∈ tokens, c ∉ t.chars) :
    c ∉ text := by
  induction h with
  | nil => exact List.not_mem_nil
  | cons hspaces hrest ih =>
    rw [List.forall_mem_cons] at htokens
    rw [List.mem_append, List.mem_append, not_or, not_or]
    exact ⟨⟨htokens.1, fun hmem => hc (List.eq_of_mem_replicate hmem)⟩, ih htokens.2⟩

/-- The tokens of one name are words. -/
theorem Specifier.exists_word {s : Specifier} {t : Token} (ht : t ∈ s.tokens) : ∃ w, t = .word w := by
  rw [tokens, nameTokens] at ht
  rcases List.mem_append.1 ht with ht | ht
  · split at ht
    · exact ⟨_, List.mem_singleton.1 ht⟩
    · cases ht
  · rcases List.mem_cons.1 ht with rfl | ht
    · exact ⟨_, rfl⟩
    · split at ht
      · cases ht
      · rcases List.mem_pair.1 ht with rfl | rfl <;> exact ⟨_, rfl⟩

theorem Specifier.not_mem_tokens {c : Char} (hc : isNamePart c = false) (s : Specifier) :
    ∀ t ∈ s.tokens, c ∉ t.chars := by
  intro t ht
  obtain ⟨w, rfl⟩ := s.exists_word ht
  exact w.isIdentifier.not_mem hc

/-- No comma is written for one name. -/
theorem Specifier.comma_not_mem {s : Specifier} {following : List Token} {front text : List Char}
    (hfront : AllBlank front) (h : Written s.tokens following text) : ',' ∉ front ++ text := by
  rw [List.mem_append, not_or]
  refine ⟨fun hmem => absurd (hfront ',' hmem) (by decide), ?_⟩
  exact h.not_mem (by decide) (s.not_mem_tokens (by decide))

/-- A list of one name. -/
theorem Specifier.bindings_eq {s : Specifier} {following : List Token} {front text : List Char}
    (hfront : AllBlank front) (h : Written s.tokens following text) :
    bindings " as " (front ++ text) = [s.localName.text] := by
  obtain ⟨c, more, hname, -⟩ := s.localName.isIdentifier.exists_cons
  exact bindings_word (comma_not_mem hfront h) (binding_eq hfront h) (hname ▸ List.cons_ne_nil c more)

/-- The tokens of a list are words and commas. -/
theorem not_mem_listTokens {c : Char} (hc : isNamePart c = false) (hcomma : c ≠ ',')
    (l : List Specifier) : ∀ t ∈ listTokens l, c ∉ t.chars := by
  induction l with
  | nil => nofun
  | cons s rest ih =>
    cases rest with
    | nil =>
      have hsingle : listTokens [s] = s.tokens := List.intercalate_singleton ..
      exact hsingle ▸ s.not_mem_tokens hc
    | cons t rest =>
      rw [listTokens_cons, List.forall_mem_append, List.forall_mem_cons]
      exact ⟨s.not_mem_tokens hc, fun hmem => hcomma (List.mem_singleton.1 hmem), ih⟩

/-- The names of a list are read in their order. -/
theorem bindings_listTokens {s : Specifier} {rest : List Specifier} {following : List Token}
    {front text : List Char} (hfront : AllBlank front)
    (h : Written (listTokens (s :: rest)) following text) :
    bindings " as " (front ++ text) = (s :: rest).map fun s => s.localName.text := by
  induction rest generalizing s front text with
  | nil =>
    rw [listTokens, List.map_singleton, List.intercalate_singleton] at h
    exact Specifier.bindings_eq hfront h
  | cons t rest ih =>
    rw [listTokens_cons] at h
    obtain ⟨piece, back, rfl, hpiece, hback⟩ := written_append h
    obtain ⟨spaces, more, rfl, hmore, -⟩ := hback.exists_next
    have hcut : front ++ (piece ++ (Token.comma.chars ++ List.replicate spaces ' ' ++ more)) =
        (front ++ piece) ++ ',' :: (List.replicate spaces ' ' ++ more) := by
      simp [Token.chars]
    rw [hcut, bindings_append (Specifier.comma_not_mem hfront hpiece), Specifier.bindings_eq hfront hpiece,
      ih (allBlank_spaces spaces) hmore]
    rfl

theorem bindings_list {l : List Specifier} {following : List Token} {front text : List Char}
    (hfront : AllBlank front) (h : Written (listTokens l) following text) :
    bindings " as " (front ++ text) = l.map fun s => s.localName.text := by
  cases l with
  | nil =>
    cases h
    rw [List.append_nil]
    exact bindings_blanks hfront
  | cons s rest => exact bindings_listTokens hfront h

end Line

end LineKin
