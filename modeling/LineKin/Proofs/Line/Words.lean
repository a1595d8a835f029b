import LineKin.Proofs.Line.Names
import LineKin.Proofs.Pattern.Places

/-!
# Whole words

An identifier is an ASCII letter or underscore followed by ASCII letters, digits and underscores. It is
a whole word of a line if no word character stands right before or behind it (`Place.Word`). At most one
whole word begins at a place, and none begins inside another one, so the words of a line are exactly the
identifiers that stand in it as whole words (`mem_words_iff`).

**`mentions_iff_mem_words`**: the test whether a line holds an identifier as a whole word agrees with
the list of its words.
-/

namespace LineKin

open Text

namespace Line

/-- A word that is spelled like an identifier. -/
structure IsIdentifier (word : List Char) : Prop where
  /-- It starts with a letter or an underscore. -/
  start : ∃ c ∈ word.head?, isNameStart c = true
  /-- It goes on with letters, digits and underscores. -/
  parts : ∀ c ∈ word, isNamePart c = true

variable {word : List Char} {c : Char} {rest : List Char}

theorem isIdentifier_cons : IsIdentifier (c :: rest) ↔
    isNameStart c = true ∧ ∀ d ∈ rest, isNamePart d = true := by
  constructor
  · intro h
    obtain ⟨d, hd, hstart⟩ := h.start
    obtain rfl : c = d := Option.some.inj hd
    exact ⟨hstart, fun d hd => h.parts d (List.mem_cons_of_mem _ hd)⟩
  · rintro ⟨hstart, hrest⟩
    exact ⟨⟨c, rfl, hstart⟩, List.forall_mem_cons.2 ⟨isNamePart_of_isNameStart hstart, hrest⟩⟩

theorem isIdentifier_iff :
    IsIdentifier word ↔ (word.head?.any isNameStart && word.all isNamePart) = true := by
  rw [Bool.and_eq_true, Option.any_eq_true, List.all_eq_true]
  exact ⟨fun h => ⟨h.start, h.parts⟩, fun h => ⟨h.1, h.2⟩⟩

instance : Decidable (IsIdentifier word) := decidable_of_iff' _ isIdentifier_iff

theorem IsIdentifier.exists_cons (h : IsIdentifier word) :
    ∃ c rest, word = c :: rest ∧ isNameStart c = true ∧ ∀ d ∈ rest, isNamePart d = true := by
  cases word with
  | nil => exact absurd h.start (by simp)
  | cons c rest => exact ⟨c, rest, rfl, isIdentifier_cons.1 h⟩

theorem IsIdentifier.isName {name : String} (h : IsIdentifier name.toList) : IsName name := by
  obtain ⟨c, rest, hname, -⟩ := h.exists_cons
  exact ⟨hname ▸ List.cons_ne_nil c rest, h.parts⟩

theorem IsIdentifier.not_isBlank (h : IsIdentifier word) : ∀ c ∈ word, isBlank c = false :=
  fun c hc => not_isBlank_of_rejectsBlanks rejectsBlanks_isNamePart (h.parts c hc)

theorem IsIdentifier.not_mem {c : Char} (h : IsIdentifier word) (hc : isNamePart c = false) : c ∉ word := by
  intro hmem
  rw [h.parts c hmem] at hc
  exact Bool.noConfusion hc

theorem toNat_lt_of_isNamePart (h : isNamePart c = true) : c.toNat < 0x80 := by
  replace h : (decide ('A'.val ≤ c.val ∧ c.val ≤ 'Z'.val) || ('a'.val ≤ c.val && c.val ≤ 'z'.val) ||
    ('0'.val ≤ c.val && c.val ≤ '9'.val) || c == '_') = true := h
  simp only [Bool.or_eq_true, Bool.and_eq_true, decide_eq_true_eq, beq_iff_eq,
    UInt32.le_iff_toNat_le] at h
  rcases h with ((h | h) | h) | rfl
  · exact Nat.lt_of_le_of_lt h.2 (by decide)
  · exact Nat.lt_of_le_of_lt h.2 (by decide)
  · exact Nat.lt_of_le_of_lt h.2 (by decide)
  · decide

theorem isWordChar_of_isNamePart (h : isNamePart c = true) : isWordChar c = true := by
  rw [isWordChar, if_pos (toNat_lt_of_isNamePart h)]
  exact h

end Line

open Line

/-! ### Pieces of patterns -/

namespace Pattern

variable {p q : Pattern} {x y : Place} {cs : List Char} {s : String}

theorem fits_iff : p.fits x = true ↔ ∃ y, y ∈ p.ways x := by
  rw [fits, Bool.not_eq_true', List.isEmpty_eq_false_iff_exists_mem]

theorem mem_ways_append : y ∈ (p ++ q).ways x ↔ ∃ z ∈ p.ways x, y ∈ q.ways z := List.mem_flatMap

theorem mem_ways_or : y ∈ (p ||| q).ways x ↔ y ∈ p.ways x ∨ y ∈ q.ways x := List.mem_append

theorem mem_ways_chars : y ∈ (chars cs).ways x ↔ x.Leads cs y := by
  induction cs generalizing x with
  | nil =>
    rw [chars, ways_nothing, List.mem_singleton]
    exact ⟨fun h => h ▸ .refl x, fun h => h.unique (.refl x)⟩
  | cons c cs ih =>
    rw [chars, mem_ways_append]
    constructor
    · rintro ⟨z, hz, hy⟩
      obtain ⟨d, hd, heq⟩ := mem_ways_one.1 hz
      obtain rfl : d = c := beq_iff_eq.1 heq
      exact hd.trans (ih.1 hy)
    · intro h
      refine ⟨x.behind c (cs ++ y.after), ?_, ih.2 h.of_cons⟩
      exact mem_ways_one.2 ⟨c, Place.leads_behind h.1, beq_self_eq_true c⟩

theorem mem_ways_text : y ∈ (text s).ways x ↔ x.Leads s.toList y := mem_ways_chars

theorem mem_ways_anyOf {texts : List String} :
    y ∈ (anyOf texts).ways x ↔ ∃ s ∈ texts, x.Leads s.toList y := by
  induction texts using anyOf.induct with
  | case1 => simp [anyOf, mem_ways_one]
  | case2 s => simp [anyOf, mem_ways_text]
  | case3 s rest hrest ih =>
    rw [anyOf, mem_ways_or, ih, mem_ways_text, List.exists_mem_cons_iff]
    exact hrest

theorem mem_ways_wordEdge : y ∈ wordEdge.ways x ↔ y = x ∧ x.atWordEdge = true := by
  rw [ways]
  split
  · rename_i h
    simp [h]
  · rename_i h
    simp [h]

theorem mem_ways_name : y ∈ name.ways x ↔ ∃ word, x.Leads word y ∧ IsIdentifier word := by
  rw [name, mem_ways_append]
  constructor
  · rintro ⟨z, hz, hy⟩
    obtain ⟨c, hc, hstart⟩ := mem_ways_one.1 hz
    obtain ⟨rest, hrest, hparts⟩ := mem_ways_run.1 hy
    exact ⟨c :: rest, hc.trans hrest, isIdentifier_cons.2 ⟨hstart, hparts⟩⟩
  · rintro ⟨word, hleads, hword⟩
    obtain ⟨c, rest, rfl, hstart, hparts⟩ := hword.exists_cons
    refine ⟨x.behind c (rest ++ y.after), ?_, mem_ways_run.2 ⟨rest, hleads.of_cons, hparts⟩⟩
    exact mem_ways_one.2 ⟨c, Place.leads_behind hleads.1, hstart⟩

end Pattern

theorem Shape.mem_founds {s : Shape} {x : Place} {found : Shape.Found} : found ∈ s.founds x ↔
    ∃ start ∈ s.lead.ways x, ∃ stop ∈ s.name.ways start, found.finish ∈ s.trail.ways stop ∧
      start.upTo stop = found.name := by
  simp only [Shape.founds, List.mem_flatMap, List.mem_map]
  constructor
  · rintro ⟨start, hstart, stop, hstop, finish, hfinish, rfl⟩
    exact ⟨start, hstart, stop, hstop, hfinish, rfl⟩
  · rintro ⟨start, hstart, stop, hstop, hfinish, hname⟩
    exact ⟨start, hstart, stop, hstop, found.finish, hfinish, by rw [hname]⟩

/-- If all fits at a place are the same, then the one that a shape prefers is any of them. -/
theorem Shape.at?_eq_some_iff_mem {s : Shape} {x : Place} {found : Shape.Found}
    (h : ∀ f ∈ s.founds x, ∀ g ∈ s.founds x, f = g) : s.at? x = some found ↔ found ∈ s.founds x := by
  rw [at?_eq_head?]
  constructor
  · exact List.mem_of_head?
  · intro hmem
    cases hfounds : s.founds x with
    | nil => simp [hfounds] at hmem
    | cons f fs =>
      rw [List.head?_cons, h found hmem f (by simp [hfounds])]

/-! ### Whole words -/

/-- An identifier stands between two places of a line, and no word character right before or behind
it. -/
structure Place.Word (x : Place) (word : List Char) (y : Place) : Prop where
  /-- It stands there. -/
  leads : x.Leads word y
  /-- Its spelling. -/
  isIdentifier : IsIdentifier word
  /-- What stands before it. -/
  before : x.before.head?.any isWordChar = false
  /-- What stands behind it. -/
  after : y.after.head?.any isWordChar = false

namespace Place.Word

variable {x y z : Place} {word other : List Char}

theorem eq_takeWhile (h : x.Word word y) : word = x.after.takeWhile isWordChar := by
  have hword : ∀ c ∈ word, isWordChar c = true :=
    fun c hc => isWordChar_of_isNamePart (h.isIdentifier.parts c hc)
  have hstop : y.after.takeWhile isWordChar = [] := by
    cases hy : y.after with
    | nil => rfl
    | cons c rest =>
      have hc := h.after
      rw [hy, List.head?_cons, Option.any_some] at hc
      exact List.takeWhile_cons_of_neg (by simp [hc])
  rw [h.leads.1, List.takeWhile_append_of_pos hword, hstop, List.append_nil]

/-- At most one whole word begins at a place. -/
theorem unique (h : x.Word word y) (h' : x.Word other z) : word = other ∧ y = z := by
  have heq : word = other := h.eq_takeWhile.trans h'.eq_takeWhile.symm
  exact ⟨heq, h.leads.unique (heq ▸ h'.leads)⟩

/-- No whole word begins inside another one. -/
theorem not_inside (h : x.Word word y) {c : Char} {passed : List Char} (hz : x.Leads (c :: passed) z)
    (hlt : z.passed < y.passed) {w : Place} : ¬ z.Word other w := by
  intro hother
  -- the character before the place belongs to the word around it
  have hprefix : c :: passed <+: word := by
    refine List.prefix_of_prefix_length_le ⟨z.after, hz.1.symm⟩ ⟨y.after, h.leads.1.symm⟩ ?_
    have := hz.passed_eq
    have := h.leads.passed_eq
    omega
  have hlast : (c :: passed).getLast (List.cons_ne_nil c passed) ∈ word :=
    hprefix.subset (List.getLast_mem _)
  have hbefore := hother.before
  rw [hz.2, List.head?_append, List.head?_reverse,
    List.getLast?_eq_some_getLast (List.cons_ne_nil c passed), Option.some_or, Option.any_some,
    isWordChar_of_isNamePart (h.isIdentifier.parts _ hlast)] at hbefore
  exact Bool.noConfusion hbefore

end Place.Word

section Edges

variable {x y : Place} {word : List Char}

/-- Where an identifier starts is the edge of a word if no word character stands before it. -/
theorem Place.Leads.atWordEdge_start (h : x.Leads word y) (hword : IsIdentifier word) :
    x.atWordEdge = !x.before.head?.any isWordChar := by
  obtain ⟨c, rest, rfl, hstart, -⟩ := hword.exists_cons
  have hc := isWordChar_of_isNamePart (isNamePart_of_isNameStart hstart)
  rw [atWordEdge, h.1, List.cons_append, List.head?_cons, Option.any_some, hc, Bool.bne_true]

/-- Where an identifier ends is the edge of a word if no word character stands behind it. -/
theorem Place.Leads.atWordEdge_end (h : x.Leads word y) (hword : IsIdentifier word) :
    y.atWordEdge = !y.after.head?.any isWordChar := by
  obtain ⟨c, rest, rfl, -⟩ := hword.exists_cons
  have hlast := hword.parts _ (List.getLast_mem (List.cons_ne_nil c rest))
  rw [atWordEdge, h.2, List.head?_append, List.head?_reverse,
    List.getLast?_eq_some_getLast (List.cons_ne_nil c rest), Option.some_or, Option.any_some,
    isWordChar_of_isNamePart hlast, Bool.true_bne]

/-- A whole word is an identifier between two edges of words. -/
theorem Place.word_iff : x.Word word y ↔
    x.Leads word y ∧ IsIdentifier word ∧ x.atWordEdge = true ∧ y.atWordEdge = true := by
  constructor
  · intro h
    rw [h.leads.atWordEdge_start h.isIdentifier, h.leads.atWordEdge_end h.isIdentifier, h.before,
      h.after]
    exact ⟨h.leads, h.isIdentifier, rfl, rfl⟩
  · rintro ⟨hleads, hword, hx, hy⟩
    rw [hleads.atWordEdge_start hword, Bool.not_eq_true'] at hx
    rw [hleads.atWordEdge_end hword, Bool.not_eq_true'] at hy
    exact ⟨hleads, hword, hx, hy⟩

end Edges

namespace Line

open Pattern

variable {x y : Place} {word : List Char} {name line : String} {found : Shape.Found}

theorem mem_founds_wordShape : found ∈ wordShape.founds x ↔ x.Word found.name found.finish := by
  simp only [Shape.mem_founds, wordShape, mem_ways_wordEdge, mem_ways_name, Place.word_iff]
  constructor
  · rintro ⟨_, ⟨rfl, hx⟩, _, ⟨word, hleads, hword⟩, ⟨rfl, hy⟩, hname⟩
    rw [hleads.upTo_eq] at hname
    exact hname ▸ ⟨hleads, hword, hx, hy⟩
  · rintro ⟨hleads, hword, hx, hy⟩
    exact ⟨x, ⟨rfl, hx⟩, found.finish, ⟨_, hleads, hword⟩, ⟨rfl, hy⟩, hleads.upTo_eq⟩

theorem at?_wordShape : wordShape.at? x = some found ↔ x.Word found.name found.finish := by
  rw [Shape.at?_eq_some_iff_mem, mem_founds_wordShape]
  intro f hf g hg
  obtain ⟨hname, hfinish⟩ := (mem_founds_wordShape.1 hf).unique (mem_founds_wordShape.1 hg)
  cases f
  cases g
  simp_all

theorem apart_wordShape : wordShape.Apart := by
  intro x found hat c passed y hleads hlt
  rw [Option.eq_none_iff_forall_ne_some]
  intro other hother
  exact (at?_wordShape.1 hat).not_inside hleads hlt (at?_wordShape.1 hother)

/-- The words of a line are the identifiers that stand in it as whole words. -/
theorem mem_words_iff : name ∈ words line ↔
    ∃ before x y, (Place.start line.toList).Leads before x ∧ x.Word name.toList y := by
  rw [words, Shape.namesIn, List.mem_map]
  simp only [Shape.mem_all_iff apart_wordShape, at?_wordShape]
  constructor
  · rintro ⟨_, ⟨before, x, found, hleads, hword, rfl⟩, rfl⟩
    rw [← String.toList_ofList (l := found.name)] at hword
    exact ⟨before, x, found.finish, hleads, hword⟩
  · rintro ⟨before, x, y, hleads, hword⟩
    exact ⟨name.toList, ⟨before, x, ⟨name.toList, y⟩, hleads, hword, rfl⟩, String.ofList_toList⟩

/-- Whatever shape finds a name, the name is an identifier. -/
theorem isIdentifier_of_mem_namesIn {s : Shape} (hs : s.name = Pattern.name)
    (h : name ∈ s.namesIn line) : IsIdentifier name.toList := by
  obtain ⟨start, stop, hstop, hname⟩ := exists_mem_ways_of_mem_namesIn h
  rw [hs] at hstop
  obtain ⟨word, hleads, hword⟩ := mem_ways_name.1 hstop
  exact hname ▸ hleads.upTo_eq ▸ hword

/-- An identifier fits as a whole word where it stands as one. -/
theorem fits_wholeWord (hname : IsIdentifier name.toList) :
    (wholeWord name).fits x = true ↔ ∃ y, x.Word name.toList y := by
  rw [fits_iff]
  simp only [wholeWord, mem_ways_append, mem_ways_wordEdge, mem_ways_text, Place.word_iff]
  constructor
  · rintro ⟨_, z, ⟨_, ⟨rfl, hx⟩, hleads⟩, rfl, hz⟩
    exact ⟨_, hleads, hname, hx, hz⟩
  · rintro ⟨y, hleads, -, hx, hy⟩
    exact ⟨y, y, ⟨x, ⟨rfl, hx⟩, hleads⟩, rfl, hy⟩

/-- **The two notions of a word agree.** -/
theorem mentions_iff_mem_words (hname : IsIdentifier name.toList) :
    mentions name line = true ↔ name ∈ words line := by
  rw [mentions, occursIn_iff, mem_words_iff]
  simp only [fits_wholeWord hname]
  constructor
  · rintro ⟨before, x, hleads, y, hword⟩
    exact ⟨before, x, y, hleads, hword⟩
  · rintro ⟨before, x, y, hleads, hword⟩
    exact ⟨before, x, hleads, y, hword⟩

end Line

end LineKin
