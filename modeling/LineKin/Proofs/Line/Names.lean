import LineKin.Line.Name
import LineKin.Proofs.Pattern.Search

/-!
# Names are made of ink

Every name that a line shows is a word of characters that may be part of a name (`IsName`), whichever
shape it was found with (`isName_of_mem_namesIn`) and however the lists of names are put together
(`mem_foldl_addNames`). Such a word holds no blank, so as a pattern it passes characters that are
not blank and fails in front of a blank: `firm_text`, `needsInk_text`, `atBlank_text`.
-/

namespace LineKin

open Text

/-! ### Words as patterns -/

namespace Pattern

variable {c : Char} {cs : List Char} {s : String}

theorem rejectsBlanks_beq (hc : isBlank c = false) : rejectsBlanks (· == c) = true := by
  have hpoints : ∀ point ∈ blankPoints, isBlank (Char.ofNat point) = true := by decide +kernel
  rw [rejectsBlanks, List.all_eq_true]
  intro point hpoint
  rw [Bool.not_eq_true', beq_eq_false_iff_ne]
  rintro rfl
  rw [hpoints point hpoint] at hc
  exact Bool.noConfusion hc

theorem endFree_chars (cs : List Char) : (chars cs).endFree = true := by
  induction cs with
  | nil => rfl
  | cons c cs ih => exact ih

theorem inkLast_chars (hcs : ∀ c ∈ cs, isBlank c = false) : (chars cs).inkLast = true := by
  induction cs with
  | nil => rfl
  | cons c cs ih =>
    show ((chars cs).inkLast && (rejectsBlanks (· == c) || (chars cs).needsInk)) = true
    rw [ih fun d hd => hcs d (List.mem_cons_of_mem _ hd),
      rejectsBlanks_beq (hcs c List.mem_cons_self)]
    rfl

theorem needsInk_chars (hne : cs ≠ []) (hcs : ∀ c ∈ cs, isBlank c = false) :
    (chars cs).needsInk = true := by
  obtain ⟨c, cs, rfl⟩ := List.exists_cons_of_ne_nil hne
  show (rejectsBlanks (· == c) || (chars cs).needsInk) = true
  rw [rejectsBlanks_beq (hcs c List.mem_cons_self), Bool.true_or]

theorem atBlank_chars (hne : cs ≠ []) (hcs : ∀ c ∈ cs, isBlank c = false) :
    (chars cs).atBlank = .fails := by
  obtain ⟨c, cs, rfl⟩ := List.exists_cons_of_ne_nil hne
  refine atBlank_append_of_fails ?_
  rw [atBlank, if_pos (rejectsBlanks_beq (hcs c List.mem_cons_self))]

end Pattern

namespace Line

open Pattern

/-- A word that consists of characters of names. -/
structure IsName (word : String) : Prop where
  /-- It is not empty. -/
  ne_nil : word.toList ≠ []
  /-- Its characters. -/
  isNamePart : ∀ c ∈ word.toList, isNamePart c = true

variable {word line name : String} {names more : List String}

theorem rejectsBlanks_isNamePart : rejectsBlanks isNamePart = true := by decide

theorem IsName.not_isBlank (h : IsName word) : ∀ c ∈ word.toList, isBlank c = false :=
  fun c hc => not_isBlank_of_rejectsBlanks rejectsBlanks_isNamePart (h.isNamePart c hc)

theorem IsName.isInk (h : IsName word) : isInk word.toList = true :=
  isInk_iff.2 ⟨h.ne_nil, h.not_isBlank⟩

theorem endFree_text (word : String) : (text word).endFree = true := endFree_chars word.toList

theorem inkLast_text (h : IsName word) : (text word).inkLast = true := inkLast_chars h.not_isBlank

theorem needsInk_text (h : IsName word) : (text word).needsInk = true :=
  needsInk_chars h.ne_nil h.not_isBlank

theorem atBlank_text (h : IsName word) : (text word).atBlank = .fails :=
  atBlank_chars h.ne_nil h.not_isBlank

/-! ### Names that are found -/

/-- Every piece of the pattern is a word of characters of names. -/
def SpellsNames (p : Pattern) : Prop :=
  ∀ x, ∀ y ∈ p.ways x, ∃ cs, x.Leads cs y ∧ cs ≠ [] ∧ ∀ c ∈ cs, isNamePart c = true

theorem spellsNames_of_start {allowed : Char → Bool}
    (h : ∀ c, allowed c = true → isNamePart c = true) :
    SpellsNames (one allowed ++ run isNamePart) := by
  intro x y hy
  obtain ⟨z, hz, hy⟩ := List.mem_flatMap.1 hy
  obtain ⟨c, hc, hallowed⟩ := mem_ways_one.1 hz
  obtain ⟨cs, hcs, hparts⟩ := mem_ways_run.1 hy
  refine ⟨c :: cs, hc.trans hcs, List.cons_ne_nil c cs, ?_⟩
  simpa [h c hallowed] using hparts

theorem spellsNames_name : SpellsNames Pattern.name :=
  spellsNames_of_start fun _ => isNamePart_of_isNameStart

theorem spellsNames_capitalized : SpellsNames capitalizedShape.name := by
  refine spellsNames_of_start fun c hc => ?_
  show (((c.isUpper || c.isLower) || c.isDigit) || c == '_') = true
  rw [hc]
  rfl

theorem exists_founds_of_mem_allFrom {s : Shape} {name : List Char} {n : Nat} {x : Place}
    {cs : List Char} (h : name ∈ s.allFrom [] n x cs) :
    ∃ y, ∃ found ∈ s.founds y, found.name = name := by
  induction cs generalizing n x with
  | nil =>
    simp only [Shape.allFrom, List.reverse_nil, List.nil_append, List.mem_map,
      Option.mem_toList, s.at?_eq_head?] at h
    obtain ⟨found, hfound, rfl⟩ := h
    exact ⟨x, found, List.mem_of_head? hfound, rfl⟩
  | cons c rest ih =>
    cases n with
    | succ n => exact ih h
    | zero =>
      rw [Shape.allFrom] at h
      cases hat : s.at? x with
      | none =>
        rw [hat] at h
        exact ih h
      | some found =>
        rw [hat] at h
        replace h : name ∈ s.allFrom [found.name] _ _ _ := h
        rw [Shape.allFrom_append] at h
        rcases List.mem_append.1 h with h | h
        · rw [List.mem_singleton.1 h]
          exact ⟨x, found, List.mem_of_head? (s.at?_eq_head? x ▸ hat), rfl⟩
        · exact ih h

/-- A name that was found is a piece of the kind that the shape calls a name. -/
theorem exists_mem_ways_of_mem_namesIn {s : Shape} (h : word ∈ s.namesIn line) :
    ∃ start, ∃ stop ∈ s.name.ways start, start.upTo stop = word.toList := by
  obtain ⟨name, hname, rfl⟩ := List.mem_map.1 h
  obtain ⟨x, found, hfound, rfl⟩ := exists_founds_of_mem_allFrom hname
  simp only [Shape.founds, List.mem_flatMap, List.mem_map] at hfound
  obtain ⟨start, -, stop, hstop, finish, -, rfl⟩ := hfound
  exact ⟨start, stop, hstop, String.toList_ofList.symm⟩

/-- **Names are spelled like names**, wherever they were found. -/
theorem isName_of_mem_namesIn {s : Shape} (hs : SpellsNames s.name) (h : word ∈ s.namesIn line) :
    IsName word := by
  obtain ⟨start, stop, hstop, hword⟩ := exists_mem_ways_of_mem_namesIn h
  obtain ⟨cs, hleads, hne, hparts⟩ := hs start stop hstop
  rw [hleads.upTo_eq] at hword
  exact ⟨hword ▸ hne, hword ▸ hparts⟩

/-! ### Lists of names -/

theorem mem_addName {first : String} : name ∈ addName names first ↔
    name ∈ names ∨ isKeyword first = false ∧ name = first := by
  rw [addName]
  cases hkey : isKeyword first with
  | true => simp
  | false =>
    rw [Bool.false_or]
    split
    · rename_i hmem
      rw [List.contains_iff_mem] at hmem
      exact ⟨.inl, fun h => h.elim id fun h => h.2 ▸ hmem⟩
    · simp

/-- Keywords are left out, and so are names that are there already. -/
theorem mem_addNames : name ∈ addNames names more ↔
    name ∈ names ∨ isKeyword name = false ∧ name ∈ more := by
  induction more generalizing names with
  | nil => simp [addNames]
  | cons first more ih =>
    show name ∈ addNames (addName names first) more ↔ _
    rw [ih, mem_addName, List.mem_cons, or_assoc]
    refine or_congr_right ⟨?_, ?_⟩
    · rintro (⟨hkey, rfl⟩ | ⟨hkey, hmem⟩)
      · exact ⟨hkey, .inl rfl⟩
      · exact ⟨hkey, .inr hmem⟩
    · rintro ⟨hkey, rfl | hmem⟩
      · exact .inl ⟨hkey, rfl⟩
      · exact .inr ⟨hkey, hmem⟩

theorem mem_foldl_addNames {lists : List (List String)} : name ∈ lists.foldl addNames names ↔
    name ∈ names ∨ isKeyword name = false ∧ ∃ list ∈ lists, name ∈ list := by
  induction lists generalizing names with
  | nil => simp
  | cons list lists ih =>
    rw [List.foldl_cons, ih, mem_addNames, or_assoc, ← and_or_left]
    simp

theorem isName_of_mem_foldl_addNames {lists : List (List String)}
    (hlists : ∀ list ∈ lists, ∀ name ∈ list, IsName name) :
    ∀ name ∈ lists.foldl addNames [], IsName name := by
  intro name hname
  obtain ⟨-, list, hlist, hmem⟩ := (mem_foldl_addNames.1 hname).resolve_left List.not_mem_nil
  exact hlists list hlist name hmem

theorem isName_of_mem_called : ∀ name ∈ called line, IsName name :=
  fun _ => isName_of_mem_namesIn spellsNames_name

theorem isName_of_mem_accessed : ∀ name ∈ accessed line, IsName name :=
  fun _ => isName_of_mem_namesIn spellsNames_name

theorem isName_of_mem_indexed : ∀ name ∈ indexed line, IsName name :=
  fun _ => isName_of_mem_namesIn spellsNames_name

theorem isName_of_mem_importableNames : ∀ name ∈ importableNames line, IsName name := by
  refine isName_of_mem_foldl_addNames ?_
  simp only [List.forall_mem_cons]
  exact ⟨fun _ => isName_of_mem_namesIn spellsNames_capitalized, isName_of_mem_called,
    isName_of_mem_accessed, isName_of_mem_indexed, by simp⟩

theorem isName_of_mem_memberNames : ∀ name ∈ memberNames line, IsName name := by
  refine isName_of_mem_foldl_addNames ?_
  simp only [List.forall_mem_cons]
  exact ⟨fun _ => isName_of_mem_namesIn spellsNames_name,
    fun name h => isName_of_mem_called name (List.mem_filter.1 h).1, by simp⟩

end Line

end LineKin
