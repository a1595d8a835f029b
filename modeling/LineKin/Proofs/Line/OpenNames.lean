import LineKin.Proofs.Line.Definitions
import LineKin.Proofs.Line.Occurrences

/-!
# Names that nothing has to close

Three shapes put no condition on what stands behind a name: a name behind a binder, a member, and the name
of a class. There the name goes on as long as the characters of names do, so that it is the longest one
behind its lead (`Shape.exists_longest_of_at?`). Nothing of an identifier is lost that way, but a word goes
on for longer than an identifier if it has a letter outside ASCII, and then the name is only the beginning
of that word.

* **`open_names_are_tokens`**: each name found stands in the line as a whole run of characters of names
  (`Occurrence.IsTokenOf`), and it is a word of the line unless it is cut off in front of a word character
  that no name has (`Occurrence.isCutOff`). If no name is found, then no such run stands behind the lead.
-/

namespace LineKin

open Text Line

/-! ### The longest way -/

namespace Pattern

variable {x y : Place} {allowed : Char → Bool}

/-- A run prefers to end where no character of its class is ahead. -/
theorem stops_of_head?_ways_run (h : ((run allowed).ways x).head? = some y) :
    y.after.head?.any allowed = false := by
  induction hx : x.after generalizing x with
  | nil =>
    rw [ways_run_nil hx, List.head?_cons, Option.some.injEq] at h
    rw [← h, hx]
    rfl
  | cons c rest ih =>
    rw [ways_run_cons hx] at h
    by_cases hc : allowed c = true
    · rw [if_pos hc, List.head?_append] at h
      have hne : (run allowed).ways (x.behind c rest) ≠ [] :=
        List.ne_nil_of_mem (mem_ways_run.2 ⟨[], .refl _, nofun⟩)
      rw [List.head?_eq_some_head hne, Option.some_or, ← List.head?_eq_some_head hne] at h
      exact ih h rfl
    · rw [if_neg hc, List.head?_cons, Option.some.injEq] at h
      rw [← h, hx]
      simpa using hc

/-- A name prefers to end where no character of a name is ahead. -/
theorem beforeEnd_of_head?_ways_name (h : (name.ways x).head? = some y) : y.BeforeEnd := by
  rw [name, ways_sequence, List.head?_flatMap] at h
  obtain ⟨z, -, hrun⟩ := List.exists_of_findSome?_eq_some h
  exact stops_of_head?_ways_run hrun

/-- An identifier behind a sign is not the rest of a longer word. -/
theorem startsWordAt_char {c : Char} (hc : isWordChar c = false) (p : Pattern) (x : Place) :
    (p ++ Pattern.char c).StartsWordAt x := by
  intro start hstart word stop hleads hword
  obtain ⟨y, -, hstart⟩ := mem_ways_append.1 hstart
  rw [(mem_ways_char.1 hstart).2]
  exact hc

end Pattern

namespace Shape

open Pattern

variable {s : Shape} {x : Place} {found : Found} {name line : String}

/-- If nothing has to follow a name, then the longest one is found. -/
theorem exists_longest_of_at? (hname : s.name = Pattern.name) (htrail : s.trail = .nothing)
    (h : s.at? x = some found) : ∃ start ∈ s.lead.ways x,
      start.Leads found.name found.finish ∧ IsIdentifier found.name ∧ found.finish.BeforeEnd := by
  rw [at?_eq_head?, founds, List.head?_flatMap] at h
  obtain ⟨start, hstart, hfirst⟩ := List.exists_of_findSome?_eq_some h
  have hstops : ∀ stop, (s.trail.ways stop).map (Found.mk (start.upTo stop)) =
      [⟨start.upTo stop, stop⟩] := by
    intro stop
    rw [htrail]
    rfl
  simp only [hname, hstops, ← List.map_eq_flatMap, List.head?_map] at hfirst
  obtain ⟨stop, hstop, rfl⟩ := Option.map_eq_some_iff.1 hfirst
  obtain ⟨word, hleads, hword⟩ := mem_ways_name.1 (List.mem_of_head? hstop)
  rw [hleads.upTo_eq]
  exact ⟨start, hstart, hleads, hword, beforeEnd_of_head?_ways_name hstop⟩

/-- If a lead and an identifier behind it stand at a place, and nothing has to follow, then the shape fits. -/
theorem exists_at?_of_leads {start stop : Place} {word : List Char} (hname : s.name = Pattern.name)
    (htrail : s.trail = .nothing) (hstart : start ∈ s.lead.ways x) (hleads : start.Leads word stop)
    (hword : IsIdentifier word) : ∃ found, s.at? x = some found := by
  have hfits : Found.mk (start.upTo stop) stop ∈ s.founds x := by
    rw [mem_founds, hname, htrail]
    exact ⟨start, hstart, stop, mem_ways_name.2 ⟨word, hleads, hword⟩, List.mem_singleton.2 rfl, rfl⟩
  rw [at?_eq_head?]
  exact ⟨_, List.head?_eq_some_head (List.ne_nil_of_mem hfits)⟩

/-- What a search finds in a line fits at a place of it. -/
theorem exists_at?_of_mem_namesIn (h : name ∈ s.namesIn line) : ∃ x ∈ (Place.start line.toList).onward,
    ∃ found, s.at? x = some found ∧ found.name = name.toList := by
  obtain ⟨cs, hcs, rfl⟩ := List.mem_map.1 h
  rw [all_eq_taken, List.mem_map] at hcs
  obtain ⟨fit, hfit, rfl⟩ := hcs
  obtain ⟨hplace, hat⟩ := mem_fitsFrom.1 ((Fit.taken_sublist 0 _).subset hfit)
  exact ⟨fit.place, Place.mem_onward.2 hplace, fit.found, hat, String.toList_ofList.symm⟩

/-- A search finds something in a line in which the shape fits. -/
theorem at?_eq_none_of_namesIn_eq_nil (h : s.namesIn line = []) :
    ∀ x ∈ (Place.start line.toList).onward, s.at? x = none := by
  intro x hx
  rw [namesIn, List.map_eq_nil_iff, all_eq_taken, List.map_eq_nil_iff] at h
  by_contra hne
  obtain ⟨found, hat⟩ := Option.ne_none_iff_exists'.1 hne
  have hfit : Fit.mk x found ∈ s.fitsFrom (.start line.toList) :=
    mem_fitsFrom.2 ⟨Place.mem_onward.1 hx, hat⟩
  -- the first fit is always taken
  cases hfits : s.fitsFrom (.start line.toList) with
  | nil => simp [hfits] at hfit
  | cons fit rest => simp [hfits, Fit.taken] at h

/-- What is found at the beginning of a line fits there. -/
theorem exists_at?_of_nameAtStart? (h : s.nameAtStart? line = some name) :
    ∃ found, s.at? (.start line.toList) = some found ∧ found.name = name.toList := by
  obtain ⟨cs, hcs, rfl⟩ := Option.map_eq_some_iff.1 h
  obtain ⟨found, hat, rfl⟩ := Option.map_eq_some_iff.1 hcs
  exact ⟨found, hat, String.toList_ofList.symm⟩

end Shape

namespace Line

open Pattern Place

variable {line name : String} {lead : Pattern} {s : Shape} {x : Place} {found : Shape.Found}

/-! ### Tokens of a line -/

/-- What is no word character is neither a character of names nor a word character besides. -/
theorem not_isWordChar_iff {next : Option Char} : next.any isWordChar = false ↔
    next.any isNamePart = false ∧ (next.any fun c => isWordChar c && !isNamePart c) = false := by
  cases next with
  | none => simp
  | some c =>
    by_cases hc : isNamePart c = true
    · simp [hc, isWordChar_of_isNamePart hc]
    · simp [hc]

namespace Occurrence

variable {o : Occurrence}

/-- The text starts behind a piece of the given kind that starts at one of the places. -/
def Follows (o : Occurrence) (lead : Pattern) (places : List Place) : Prop :=
  ∃ x ∈ places, ∃ start ∈ lead.ways x, start.passed = o.start

/-- The text is a token of the line: it is spelled like an identifier, no word character stands right before
it, and no character of a name right behind it. -/
def IsTokenOf (o : Occurrence) (line : String) : Prop :=
  ∃ front back, line.toList = front ++ o.word.toList ++ back ∧ o.start = front.length ∧
    IsIdentifier o.word.toList ∧ front.getLast?.any isWordChar = false ∧
    back.head?.any isNamePart = false

/-- Whether the text is followed at once by a word character that no name has. -/
def isCutOff (o : Occurrence) (line : String) : Bool :=
  line.toList[o.stop]?.any fun c => isWordChar c && !isNamePart c

theorem isCutOff_eq {front back : List Char} (hline : line.toList = front ++ o.word.toList ++ back)
    (hstart : o.start = front.length) :
    o.isCutOff line = back.head?.any fun c => isWordChar c && !isNamePart c := by
  have hnext : line.toList[o.stop]? = back.head? := by
    rw [hline, stop, hstart, ← List.length_append, List.getElem?_append_right (Nat.le_refl _),
      Nat.sub_self, List.head?_eq_getElem?]
  rw [isCutOff, hnext]

/-- Words are tokens that are not cut off. -/
theorem isWordOf_iff_isTokenOf : o.IsWordOf line ↔ o.IsTokenOf line ∧ o.isCutOff line = false := by
  constructor
  · rintro ⟨front, back, hline, hstart, hword, hfront, hback⟩
    obtain ⟨hend, hcut⟩ := not_isWordChar_iff.1 hback
    exact ⟨⟨front, back, hline, hstart, hword, hfront, hend⟩, (isCutOff_eq hline hstart).trans hcut⟩
  · rintro ⟨⟨front, back, hline, hstart, hword, hfront, hend⟩, hcut⟩
    rw [isCutOff_eq hline hstart] at hcut
    exact ⟨front, back, hline, hstart, hword, hfront, not_isWordChar_iff.2 ⟨hend, hcut⟩⟩

/-- A line in which all word characters may stand in a name cuts nothing off. -/
theorem isCutOff_of_plain (h : ∀ c ∈ line.toList, isWordChar c = true → isNamePart c = true) :
    o.isCutOff line = false := by
  rw [isCutOff, Bool.eq_false_iff]
  intro hany
  obtain ⟨c, hc, hcut⟩ := (Option.any_eq_true ..).1 hany
  rw [Bool.and_eq_true, Bool.not_eq_true'] at hcut
  rw [h c (List.mem_of_getElem? hc) hcut.1] at hcut
  exact Bool.noConfusion hcut.2

end Occurrence

/-! ### Names without a closing edge -/

/-- A line shows a name behind a lead: it is a token there, and it is a word unless it is cut off. -/
def ShowsToken (lead : Pattern) (places : List Place) (line name : String) : Prop :=
  ∃ o : Occurrence, o.word = name ∧ o.Follows lead places ∧ o.IsTokenOf line ∧
    (o.IsWordOf line ↔ o.isCutOff line = false)

/-- The names are tokens behind a lead, and there is one of them if the line shows any. -/
structure AreTokens (lead : Pattern) (places : List Place) (line : String) (names : List String) :
    Prop where
  /-- The names are tokens. -/
  shown : ∀ name ∈ names, ShowsToken lead places line name
  /-- If there are none, then there is no token. -/
  none_shown : names = [] → ∀ name, ¬ ShowsToken lead places line name

/-- What an open shape finds at a place of a line is a token. -/
theorem showsToken_of_at? {places : List Place} (hname : s.name = Pattern.name)
    (htrail : s.trail = .nothing) (hlead : ∀ x, s.lead.StartsWordAt x)
    (hplaces : places ⊆ (Place.start line.toList).onward) (hx : x ∈ places)
    (hat : s.at? x = some found) (hfound : found.name = name.toList) :
    ShowsToken s.lead places line name := by
  obtain ⟨before, hbefore⟩ := mem_onward.1 (hplaces hx)
  obtain ⟨start, hstart, hleads, hword, hend⟩ := s.exists_longest_of_at? hname htrail hat
  rw [hfound] at hleads hword
  obtain ⟨passed, hpassed⟩ := exists_leads_of_mem_ways hstart
  have hfront := hbefore.trans hpassed
  have htoken : Occurrence.IsTokenOf ⟨name, start.passed⟩ line := by
    refine ⟨before ++ passed, found.finish.after, ?_, hfront.passed_start, hword, ?_, hend⟩
    · rw [List.append_assoc, ← hleads.1]
      exact hfront.1
    · rw [← List.head?_reverse, ← hfront.before_start]
      exact hlead x start hstart _ _ hleads hword
  refine ⟨⟨name, start.passed⟩, rfl, ⟨x, hx, start, hstart, rfl⟩, htoken, ?_⟩
  rw [Occurrence.isWordOf_iff_isTokenOf]
  exact and_iff_right htoken

/-- Where a line shows a token behind the lead of an open shape, the shape fits. -/
theorem ShowsToken.exists_at? {places : List Place} (hname : s.name = Pattern.name)
    (htrail : s.trail = .nothing) (hplaces : places ⊆ (Place.start line.toList).onward)
    (h : ShowsToken s.lead places line name) : ∃ x ∈ places, ∃ found, s.at? x = some found := by
  obtain ⟨o, -, ⟨x, hx, start, hstart, hpassed⟩, htoken, -⟩ := h
  obtain ⟨front, back, hline, hfront, hword, -⟩ := htoken
  obtain ⟨before, hbefore⟩ := mem_onward.1 (hplaces hx)
  obtain ⟨passed, hleads⟩ := exists_leads_of_mem_ways hstart
  have hafter : start.after = o.word.toList ++ back := by
    rw [← (hbefore.trans hleads).drop_start, hpassed, hfront, hline, List.append_assoc, List.drop_left]
  obtain ⟨stop, hstop, -⟩ := exists_leads hafter
  exact ⟨x, hx, s.exists_at?_of_leads hname htrail hstart hstop hword⟩

/-- **A search for an open shape** finds tokens. -/
theorem areTokens_namesIn (hname : s.name = Pattern.name) (htrail : s.trail = .nothing)
    (hlead : ∀ x, s.lead.StartsWordAt x) (line : String) :
    AreTokens s.lead (Place.start line.toList).onward line (s.namesIn line) where
  shown name hmem := by
    obtain ⟨x, hx, found, hat, hfound⟩ := Shape.exists_at?_of_mem_namesIn hmem
    exact showsToken_of_at? hname htrail hlead (List.Subset.refl _) hx hat hfound
  none_shown hnil name hshown := by
    obtain ⟨x, hx, found, hat⟩ := hshown.exists_at? hname htrail (List.Subset.refl _)
    rw [Shape.at?_eq_none_of_namesIn_eq_nil hnil x hx] at hat
    cases hat

/-- An open shape at the beginning of a line finds a token. -/
theorem areTokens_nameAtStart? (hname : s.name = Pattern.name) (htrail : s.trail = .nothing)
    (hlead : ∀ x, s.lead.StartsWordAt x) (line : String) :
    AreTokens s.lead [.start line.toList] line (s.nameAtStart? line).toList := by
  have hplaces : [Place.start line.toList] ⊆ (Place.start line.toList).onward := by
    rw [List.cons_subset, mem_onward]
    exact ⟨⟨[], .refl _⟩, List.nil_subset _⟩
  constructor
  · intro name hmem
    obtain ⟨found, hat, hfound⟩ := Shape.exists_at?_of_nameAtStart? (Option.mem_toList.1 hmem)
    exact showsToken_of_at? hname htrail hlead hplaces (List.mem_singleton.2 rfl) hat hfound
  · intro hnil name hshown
    obtain ⟨x, hx, found, hat⟩ := hshown.exists_at? hname htrail hplaces
    rw [List.mem_singleton.1 hx] at hat
    rw [Shape.nameAtStart?, Shape.atStart?, hat] at hnil
    cases hnil

/-- On a plain line, a token that a line shows is one of its words. -/
theorem ShowsToken.mem_words {places : List Place} (h : ShowsToken lead places line name)
    (hline : ∀ c ∈ line.toList, isWordChar c = true → isNamePart c = true) : name ∈ words line := by
  obtain ⟨o, rfl, -, -, hword⟩ := h
  rw [words_eq]
  exact List.mem_map_of_mem (mem_occurrences.2 (hword.2 (o.isCutOff_of_plain hline)))

/-- **Names that nothing closes are tokens.** Each name that a line declares, each member that it reaches
and the name of the class that it declares is the longest identifier behind the binder, the object or the
head that shows it, and it is a word of the line exactly if it is not followed at once by a word character
that no name has. So if the line has no such characters, all these names are words of the line. If no name
is found, then no identifier stands behind such a lead. -/
theorem open_names_are_tokens (line : String) :
    AreTokens declaredShape.lead (Place.start line.toList).onward line (declared line) ∧
      AreTokens memberShape.lead (Place.start line.toList).onward line (members line) ∧
      AreTokens classHead.lead [.start line.toList] line (className? line).toList ∧
      ((∀ c ∈ line.toList, isWordChar c = true → isNamePart c = true) →
        ∀ name ∈ declared line ++ members line ++ (className? line).toList, name ∈ words line) := by
  have hdeclared : AreTokens declaredShape.lead _ line (declared line) :=
    areTokens_namesIn rfl rfl (startsWordAt_gap _) line
  have hmembers : AreTokens memberShape.lead _ line (members line) :=
    areTokens_namesIn rfl rfl (startsWordAt_char (by decide) _) line
  have hclass : AreTokens classHead.lead _ line (className? line).toList :=
    areTokens_nameAtStart? rfl rfl (startsWordAt_gap _) line
  refine ⟨hdeclared, hmembers, hclass, fun hline name hname => ?_⟩
  rw [List.mem_append, List.mem_append] at hname
  rcases hname with (hname | hname) | hname
  · exact (hdeclared.shown name hname).mem_words hline
  · exact (hmembers.shown name hname).mem_words hline
  · exact (hclass.shown name hname).mem_words hline

/-- In front of a letter outside ASCII, each of the three shapes finds the beginning of a word. -/
theorem open_name_is_cut_off : declared "const café = 1" = ["caf"] ∧ words "const café = 1" = ["const"] ∧
    members "this.größe" = ["gr"] ∧ words "this.größe" = ["this"] ∧
    className? "class Größe \x7b" = some "Gr" ∧ words "class Größe \x7b" = ["class"] := by
  decide +kernel

end Line

end LineKin
