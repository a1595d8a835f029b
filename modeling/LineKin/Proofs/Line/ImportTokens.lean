import LineKin.Proofs.Line.ImportStatement
import LineKin.Proofs.Pattern.Ahead

/-!
# Passing the tokens of an import statement

A place shows tokens if they are written ahead of it (`Place.Shows`). The pieces that the shapes of imports
have in common pass these tokens one by one: a keyword (`flatMap_keyword`), the words that start a statement
(`flatMap_importHead`), a default export in front of a comma (`flatMap_defaultThenComma`). A piece that
does not know the next token comes to nothing.
-/

namespace LineKin

open Text Line

/-- A place in front of tokens that are written there, and of the module behind them. -/
def Place.Shows (x : Place) (tokens : List Token) (tail : List Char) : Prop :=
  ∃ text, Written tokens [] text ∧ x.after = text ++ '\'' :: tail

namespace Place

variable {x y : Place} {token : Token} {tokens : List Token} {tail : List Char}

/-- A place that shows tokens stands in front of the first one, or of the quote. -/
theorem Shows.beforeInk (h : x.Shows tokens tail) : x.BeforeInk := by
  obtain ⟨text, htext, hafter⟩ := h
  rw [BeforeInk, hafter]
  cases htext with
  | nil => rfl
  | @cons token _ _ _ _ _ _ =>
    obtain ⟨c, rest, hchars, hc⟩ := token.exists_cons
    rw [hchars]
    simpa using hc

/-- Behind the first token and the spaces that follow it, the other ones are shown. -/
theorem Shows.exists_next (h : x.Shows (token :: tokens) tail) : ∃ spaces z y,
    x.Leads token.chars z ∧ z.Leads (List.replicate spaces ' ') y ∧ y.Shows tokens tail ∧
      (token.needsSpace tokens = true → 0 < spaces) := by
  obtain ⟨text, htext, hafter⟩ := h
  cases htext with
  | @cons _ _ _ spaces text hspaces htokens =>
    rw [List.append_nil] at hspaces
    rw [List.append_assoc, List.append_assoc] at hafter
    obtain ⟨z, hz, hzafter⟩ := exists_leads hafter
    obtain ⟨y, hy, hyafter⟩ := exists_leads hzafter
    exact ⟨spaces, z, y, hz, hy, ⟨text, htokens, hyafter⟩, hspaces⟩

theorem Shows.head?_eq {token : Token} (h : x.Shows (token :: tokens) tail) :
    x.after.head? = token.chars.head? := by
  obtain ⟨spaces, z, y, hz, -⟩ := h.exists_next
  obtain ⟨c, rest, hchars, -⟩ := token.exists_cons
  rw [hz.1, hchars]
  rfl

theorem Shows.beforeEnd {token : Token} (h : x.Shows (token :: tokens) tail)
    (htoken : token.chars.head?.any isNamePart = false) : x.BeforeEnd := by
  rwa [BeforeEnd, h.head?_eq]

theorem Shows.head?_ne_of_word {w : Identifier} {c : Char} (h : x.Shows (.word w :: tokens) tail)
    (hc : isNamePart c = false) : x.after.head? ≠ some c := by
  obtain ⟨d, rest, hw, hd, -⟩ := w.isIdentifier.exists_cons
  rw [h.head?_eq, Token.chars, hw, List.head?_cons]
  rintro heq
  rw [← Option.some.inj heq, isNamePart_of_isNameStart hd] at hc
  exact Bool.noConfusion hc

/-- Only a comma shows a comma. -/
theorem Shows.head?_ne_comma (h : x.Shows tokens tail) (htokens : ∀ rest, tokens ≠ .comma :: rest) :
    x.after.head? ≠ some ',' := by
  cases tokens with
  | nil =>
    obtain ⟨text, htext, hafter⟩ := h
    cases htext
    rw [hafter, List.nil_append, List.head?_cons]
    decide
  | cons token rest =>
    cases token with
    | word w => exact h.head?_ne_of_word (by decide)
    | comma => exact absurd rfl (htokens rest)
    | opening | closing | star => exact h.head?_eq ▸ by decide

/-- A word ends where its token ends. -/
theorem Shows.exists_next_word {w : Identifier} (h : x.Shows (.word w :: tokens) tail) : ∃ spaces z y,
    x.Leads w.text.toList z ∧ z.BeforeEnd ∧ z.Leads (List.replicate spaces ' ') y ∧
      y.Shows tokens tail ∧ ((Token.word w).needsSpace tokens = true → 0 < spaces) := by
  obtain ⟨spaces, z, y, hz, hy, hshows, hspaces⟩ := h.exists_next
  refine ⟨spaces, z, y, hz, ?_, hy, hshows, hspaces⟩
  cases spaces with
  | succ n =>
    refine .of_beforeBlank fun c hc => ?_
    rw [hy.1, List.replicate_succ, List.cons_append, List.head?_cons] at hc
    exact Option.some.inj hc ▸ by decide
  | zero =>
    -- a comma or a closing brace follows
    obtain rfl : y = z := hy.unique (.refl z)
    cases tokens with
    | nil => exact absurd (hspaces rfl) (Nat.lt_irrefl 0)
    | cons token rest =>
      cases token with
      | word _ | opening | star => exact absurd (hspaces rfl) (Nat.lt_irrefl 0)
      | comma | closing => exact hshows.beforeEnd rfl

theorem Shows.ahead_word {w : Identifier} (h : x.Shows (.word w :: tokens) tail) :
    x.ahead = w.text.toList := by
  obtain ⟨spaces, z, y, hz, hend, -⟩ := h.exists_next_word
  exact hz.ahead_eq w.isIdentifier.parts hend

/-- A word that is not the first token does not stand ahead. -/
theorem Shows.ahead_ne {s : String} (h : x.Shows tokens tail) (hs : s ≠ "")
    (hword : ∀ w rest, tokens = .word w :: rest → w.text ≠ s) : x.ahead ≠ s.toList := by
  have hempty : x.BeforeEnd → x.ahead ≠ s.toList := by
    intro hend
    rw [hend.ahead_eq]
    exact fun heq => hs (String.toList_eq_nil_iff.1 heq.symm)
  cases tokens with
  | nil =>
    obtain ⟨text, htext, hafter⟩ := h
    cases htext
    refine hempty ?_
    rw [BeforeEnd, hafter]
    rfl
  | cons token rest =>
    cases token with
    | word w =>
      rw [h.ahead_word]
      exact fun heq => hword w rest rfl (String.toList_inj.1 heq)
    | comma | opening | closing | star => exact hempty (h.beforeEnd rfl)

end Place

/-! ### Passing tokens -/

namespace Pattern

open Place

variable {α : Type} {f : Place → List α} {x y : Place} {w : Identifier} {tokens : List Token}
  {tail : List Char} {p : Pattern} {n : Nat}

theorem flatMap_spaces (hf : FailsAtBlank f) (hx : x.Leads (List.replicate n ' ') y)
    (h : y.Shows tokens tail) : (blanks.ways x).flatMap f = f y :=
  flatMap_blanks hf hx (allBlank_spaces n) h.beforeInk

theorem flatMap_gap_spaces (hf : FailsAtBlank f) (hx : x.Leads (List.replicate n ' ') y) (hn : 0 < n)
    (h : y.Shows tokens tail) : (gap.ways x).flatMap f = f y := by
  refine flatMap_gap hf hx (allBlank_spaces n) ?_ h.beforeInk
  obtain ⟨n, rfl⟩ := Nat.exists_eq_succ_of_ne_zero hn.ne'
  exact List.cons_ne_nil ' ' _

/-- A keyword and the spaces behind it are passed. -/
theorem flatMap_keyword {s : String} (hs : w.text = s) (hf : FailsAtBlank f)
    (h : x.Shows (.word w :: tokens) tail) (hneeds : (Token.word w).needsSpace tokens = true) :
    ∃ y : Place, y.Shows tokens tail ∧ ((text s ++ gap).ways x).flatMap f = f y := by
  obtain ⟨spaces, z, y, hz, -, hy, hshows, hspaces⟩ := h.exists_next_word
  refine ⟨y, hshows, ?_⟩
  rw [← hs, ways_sequence, ways_text_of_leads hz, List.flatMap_singleton]
  exact flatMap_gap_spaces hf hy (hspaces hneeds) hshows

/-- The words that start a statement are passed. -/
theorem flatMap_importHead (hf : FailsAtBlank f)
    (h : x.Shows (.word importWord :: tokens) tail)
    (hneeds : (Token.word importWord).needsSpace tokens = true) :
    ∃ y : Place, y.Shows tokens tail ∧ (importHead.ways x).flatMap f = f y := by
  have hsplit : (importHead.ways x).flatMap f =
      (blanks.ways x).flatMap fun a => ((text "import" ++ gap).ways a).flatMap f := by
    simp only [importHead, ways_sequence, List.flatMap_assoc]
  rw [hsplit, flatMap_blanks (.flatMap (by decide)) (.refl x) nofun h.beforeInk]
  exact flatMap_keyword rfl hf h hneeds

/-- A mark that is not there is passed over. -/
theorem flatMap_typeMark_of_ne (h : x.ahead ≠ "type".toList) :
    ((maybe (text "type" ++ gap)).ways x).flatMap f = f x := by
  rw [flatMap_maybe, ways_text_gap_eq_nil (by decide) h, List.flatMap_nil, List.nil_append]

/-! ### A default export in front of a comma -/

/-- A word in front of a comma is passed together with the comma, and nothing else is. -/
theorem exists_ways_defaultThenComma
    (h : x.Shows (.word w :: tokens) tail) : ∃ y : Place, y.Shows tokens tail ∧
      (defaultThenComma.ways x).flatMap f = ((Pattern.char ',' ++ blanks).ways y).flatMap f := by
  obtain ⟨spaces, z, y, hz, hend, hy, hshows, -⟩ := h.exists_next_word
  refine ⟨y, hshows, ?_⟩
  have hsplit : (defaultThenComma.ways x).flatMap f = (name.ways x).flatMap fun a =>
      (blanks.ways a).flatMap fun b => ((Pattern.char ',' ++ blanks).ways b).flatMap f := by
    simp only [defaultThenComma, ways_sequence, List.flatMap_assoc]
  have hinside : ∀ a : Place, a.Inside →
      ((blanks.ways a).flatMap fun b => ((Pattern.char ',' ++ blanks).ways b).flatMap f) = [] := by
    intro a ha
    rw [ways_blanks_of_inside ha, List.flatMap_singleton, ways_sequence,
      ways_char_of_inside (by decide) ha, List.flatMap_nil, List.flatMap_nil]
  rw [hsplit, flatMap_name hinside hz w.isIdentifier hend,
    flatMap_spaces (.flatMap (by decide)) hy hshows]

theorem flatMap_defaultThenComma (hf : FailsAtBlank f)
    (h : x.Shows (.word w :: .comma :: tokens) tail) :
    ∃ y : Place, y.Shows tokens tail ∧ ((maybe defaultThenComma).ways x).flatMap f = f y ++ f x := by
  obtain ⟨u, hu, hways⟩ := exists_ways_defaultThenComma h
  obtain ⟨spaces, z, y, hz, hy, hshows, -⟩ := hu.exists_next
  refine ⟨y, hshows, ?_⟩
  rw [flatMap_maybe, hways, ways_sequence, ways_char_of_leads hz, List.flatMap_singleton,
    flatMap_spaces hf hy hshows]

theorem flatMap_defaultThenComma_of_ne (h : x.Shows (.word w :: tokens) tail)
    (htokens : ∀ rest, tokens ≠ .comma :: rest) :
    ((maybe defaultThenComma).ways x).flatMap f = f x := by
  obtain ⟨y, hy, hways⟩ := exists_ways_defaultThenComma (f := f) h
  rw [flatMap_maybe, hways, ways_sequence, ways_char_eq_nil (hy.head?_ne_comma htokens)]
  rfl

theorem flatMap_defaultThenComma_of_mark (h : x.after.head?.any isNameStart = false) :
    ((maybe defaultThenComma).ways x).flatMap f = f x := by
  have hname : defaultThenComma.ways x = [] := by
    simp only [defaultThenComma, ways_sequence, ways_name_eq_nil h, List.flatMap_nil]
  rw [flatMap_maybe, hname]
  rfl

/-! ### The word in front of the module -/

theorem exists_ways_from (h : x.Shows [.word fromWord] tail) :
    ∃ y, (text "from" ++ wordEdge).ways x = [y] := by
  obtain ⟨spaces, z, y, hz, hend, hy, -, hspaces⟩ := h.exists_next_word
  have hblank : z.after.head?.any isWordChar = false := by
    obtain ⟨n, rfl⟩ := Nat.exists_eq_succ_of_ne_zero (hspaces rfl).ne'
    rw [hy.1, List.replicate_succ]
    rfl
  have hedge : z.atWordEdge = true := by
    rw [hz.atWordEdge_end fromWord.isIdentifier, hblank]
    rfl
  have htext : (text "from").ways x = [z] := ways_text_of_leads hz
  refine ⟨z, ?_⟩
  rw [ways_sequence, htext, List.flatMap_singleton, ways, if_pos hedge]

end Pattern

end LineKin
