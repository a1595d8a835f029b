import LineKin.Line.Definition
import LineKin.Proofs.Line.Followed

/-!
# Forms of definition

A definition is recognised in two ways: a form shows the name that a line defines
(`DefinitionForm.read`), or a known name is looked for between the pieces that surround it in a form
(`definitionFits_eq`). In both cases the name stands in the line between a lead and a trail
(`Place.Frames`, `Line.Spells`), and it is a whole word if the lead ends and the trail starts where a word
may end.

* **`mem_words_or_called_of_fits`**, **`DefinitionForm.mem_words_or_called_of_read`**: a recognised name is
  a whole word of the line, except that nothing has to stand between the keyword `function` and the name, so
  that in this form it may be the rest of a word that starts with the keyword.
* **`DefinitionForm.functionName?_eq_some_iff`**: the name of a function is read off the first form that
  shows one which is no keyword.
* **`DefinitionForm.defines_of_read`**: a line that shows a name in one of the first three forms is found
  when the name is looked for, unless it binds the name to an arrow without parentheses.
-/

namespace LineKin

open Text Line

/-! ### Marks and edges of patterns -/

namespace Pattern

variable {p q r : Pattern} {x y : Place} {mark : List Char}

theorem ways_append (p q : Pattern) : (p ++ q).ways = fun x => (p.ways x).flatMap q.ways := rfl

theorem occursIn_congr (h : p.ways = q.ways) (text : List Char) : p.occursIn text = q.occursIn text := by
  rw [Bool.eq_iff_iff, occursIn_iff, occursIn_iff]
  simp only [fits, h]

/-- Every piece of the pattern holds a text. -/
def Holds (p : Pattern) (mark : List Char) : Prop :=
  ∀ x, ∀ y ∈ p.ways x, ∃ passed, x.Leads passed y ∧ mark <:+: passed

theorem holds_chars (mark : List Char) : (chars mark).Holds mark :=
  fun _ _ hy => ⟨mark, mem_ways_chars.1 hy, List.infix_rfl⟩

theorem holds_char (c : Char) : (Pattern.char c).Holds [c] :=
  fun _ _ hy => ⟨[c], mem_ways_char.1 hy, List.infix_rfl⟩

theorem Holds.append_left (hp : p.Holds mark) (q : Pattern) : (p ++ q).Holds mark := by
  intro x z hz
  obtain ⟨y, hy, hz⟩ := mem_ways_append.1 hz
  obtain ⟨passed, hleads, hmark⟩ := hp x y hy
  obtain ⟨more, hmore⟩ := exists_leads_of_mem_ways hz
  exact ⟨passed ++ more, hleads.trans hmore, hmark.trans (List.infix_append' [] passed more)⟩

theorem Holds.append_right (p : Pattern) (hq : q.Holds mark) : (p ++ q).Holds mark := by
  intro x z hz
  obtain ⟨y, hy, hz⟩ := mem_ways_append.1 hz
  obtain ⟨passed, hleads⟩ := exists_leads_of_mem_ways hy
  obtain ⟨more, hmore, hmark⟩ := hq y z hz
  exact ⟨passed ++ more, hleads.trans hmore, hmark.trans (List.suffix_append passed more).isInfix⟩

/-- A text in which the pattern occurs holds its mark. -/
theorem Holds.of_occursIn {text : List Char} (hp : p.Holds mark) (h : p.occursIn text = true) :
    mark <:+: text := by
  obtain ⟨before, x, hx, hfits⟩ := occursIn_iff.1 h
  obtain ⟨y, hy⟩ := fits_iff.1 hfits
  obtain ⟨passed, hpassed, hmark⟩ := hp x y hy
  have htext : text = before ++ passed ++ y.after := (hx.trans hpassed).1
  rw [htext]
  exact hmark.trans (List.infix_append before passed y.after)

/-- No word goes on where the pattern fits. -/
def EndsWord (p : Pattern) : Prop := ∀ x, p.fits x = true → x.after.head?.any isWordChar = false

theorem StartsWithSign.endsWord (hp : p.StartsWithSign) : (blanks ++ p).EndsWord := by
  intro x hx
  obtain ⟨y, hy⟩ := fits_iff.1 hx
  obtain ⟨z, hz, hy⟩ := mem_ways_append.1 hy
  exact (mem_ways_blanks.1 hz).not_isWordChar (hp z y hy)

theorem EndsWord.append (hp : p.EndsWord) (q : Pattern) : (p ++ q).EndsWord := by
  intro x hx
  obtain ⟨z, hz⟩ := fits_iff.1 hx
  obtain ⟨y, hy, -⟩ := mem_ways_append.1 hz
  exact hp x (fits_iff.2 ⟨y, hy⟩)

theorem startsWithSign_parameters : parameters.StartsWithSign :=
  ((startsWithSign_char (by decide) (by decide)).append _).append _

theorem endsWord_blanks_char {c : Char} (hc : isBlank c = false) (hc' : isWordChar c = false) :
    (blanks ++ Pattern.char c).EndsWord := (startsWithSign_char hc hc').endsWord

/-- An identifier behind a piece that starts at the place is not the rest of a longer word. -/
def StartsWordAt (p : Pattern) (x : Place) : Prop :=
  ∀ start ∈ p.ways x, ∀ word stop, start.Leads word stop → IsIdentifier word →
    start.before.head?.any isWordChar = false

theorem startsWordAt_wordEdge (x : Place) : wordEdge.StartsWordAt x := by
  intro start hstart word stop hleads hword
  obtain ⟨-, hedge⟩ := mem_ways_wordEdge.1 hstart
  obtain rfl := (mem_ways_wordEdge.1 hstart).1
  rwa [hleads.atWordEdge_start hword, Bool.not_eq_true'] at hedge

/-- No word character stands before the end of a gap. -/
theorem not_isWordChar_before_gap (hy : y ∈ gap.ways x) : y.before.head?.any isWordChar = false := by
  obtain ⟨c, z, hz, hblank, hskip⟩ := mem_ways_gap.1 hy
  refine hskip.not_isWordChar_before ?_
  rw [hz.2]
  exact eq_false_of_rejectsBlanks rejectsBlanks_isWordChar hblank

theorem startsWordAt_gap (p : Pattern) (x : Place) : (p ++ gap).StartsWordAt x := by
  intro start hstart word stop hleads hword
  obtain ⟨y, -, hstart⟩ := mem_ways_append.1 hstart
  exact not_isWordChar_before_gap hstart

end Pattern

/-! ### A name between two pieces -/

open Pattern

/-- A text stands in a line between a piece of one kind, which starts at the place, and one of another
kind. -/
def Place.Frames (x : Place) (lead trail : Pattern) (word : List Char) : Prop :=
  ∃ start ∈ lead.ways x, ∃ stop, start.Leads word stop ∧ trail.fits stop = true

namespace Place.Frames

variable {x : Place} {lead trail trail' : Pattern} {word : List Char} {s : Shape}
  {found : Shape.Found}

theorem of_at? (hname : s.name = Pattern.name) (h : s.at? x = some found) :
    x.Frames s.lead s.trail found.name ∧ IsIdentifier found.name := by
  obtain ⟨start, hstart, stop, hstop, hfinish, hfound⟩ :=
    Shape.mem_founds.1 (List.mem_of_head? (Shape.at?_eq_head? .. ▸ h))
  obtain ⟨word, hleads, hword⟩ := mem_ways_name.1 (hname ▸ hstop)
  rw [hleads.upTo_eq] at hfound
  exact hfound ▸ ⟨⟨start, hstart, stop, hleads, fits_iff.2 ⟨_, hfinish⟩⟩, hword⟩

/-- A name between a piece behind which a word starts and one in front of which a word ends is a whole
word. -/
theorem exists_word (h : x.Frames lead trail word) (hlead : lead.StartsWordAt x)
    (htrail : trail.EndsWord) (hword : IsIdentifier word) :
    ∃ passed start stop, x.Leads passed start ∧ start.Word word stop := by
  obtain ⟨start, hstart, stop, hleads, hfits⟩ := h
  obtain ⟨passed, hpassed⟩ := exists_leads_of_mem_ways hstart
  exact ⟨passed, start, stop, hpassed, hleads, hword, hlead start hstart word stop hleads hword,
    htrail stop hfits⟩

end Place.Frames

namespace Line

variable {lead trail : Pattern} {name line : String} {s : Shape} {mark : String} {p : Pattern}

/-- A line spells a name between a piece of one kind and one of another. -/
def Spells (lead trail : Pattern) (name line : String) : Prop :=
  ∃ before x, (Place.start line.toList).Leads before x ∧ x.Frames lead trail name.toList

theorem spells_iff_occursIn :
    Spells lead trail name line ↔ (lead ++ text name ++ trail).occursIn line.toList = true := by
  rw [occursIn_iff, Spells]
  refine exists_congr fun before => exists_congr fun x => and_congr_right fun _ => ?_
  simp only [fits_iff, mem_ways_append, mem_ways_text, Place.Frames]
  constructor
  · rintro ⟨start, hstart, stop, hleads, finish, hfinish⟩
    exact ⟨finish, stop, ⟨start, hstart, hleads⟩, hfinish⟩
  · rintro ⟨finish, stop, ⟨start, hstart, hleads⟩, hfinish⟩
    exact ⟨start, hstart, stop, hleads, finish, hfinish⟩

theorem spells_of_nameIn? (hs : s.name = Pattern.name) (h : s.nameIn? line = some name) :
    Spells s.lead s.trail name line ∧ IsIdentifier name.toList := by
  obtain ⟨cs, hfirst, rfl⟩ := Option.map_eq_some_iff.1 h
  obtain ⟨before, x, found, hleads, hat, rfl⟩ := Shape.exists_at?_of_first? hfirst
  rw [String.toList_ofList]
  obtain ⟨hframes, hword⟩ := Place.Frames.of_at? hs hat
  exact ⟨⟨before, x, hleads, by rwa [String.toList_ofList]⟩, hword⟩

theorem frames_of_nameAtStart? (hs : s.name = Pattern.name) (h : s.nameAtStart? line = some name) :
    (Place.start line.toList).Frames s.lead s.trail name.toList ∧ IsIdentifier name.toList := by
  obtain ⟨cs, hfirst, rfl⟩ := Option.map_eq_some_iff.1 h
  obtain ⟨found, hat, rfl⟩ := Option.map_eq_some_iff.1 hfirst
  rw [String.toList_ofList]
  exact Place.Frames.of_at? hs hat

theorem mem_words_of_frames {before : List Char} {x : Place}
    (hx : (Place.start line.toList).Leads before x) (h : x.Frames lead trail name.toList)
    (hlead : lead.StartsWordAt x) (htrail : trail.EndsWord) (hname : IsIdentifier name.toList) :
    name ∈ words line := by
  obtain ⟨passed, start, stop, hpassed, hword⟩ := h.exists_word hlead htrail hname
  exact mem_words_iff.2 ⟨before ++ passed, start, stop, hx.trans hpassed, hword⟩

/-! ### Looking for a known name -/

/-- What stands before and behind the name in each form in which a definition of a known name is
recognised. -/
def surroundings : List (Pattern × Pattern) :=
  let equals := blanks ++ Pattern.char '=' ++ blanks
  [(functionKeyword.lead, functionKeyword.trail),
   (functionBinding.lead, equals ++ maybeAsync ++ text "function" ++ wordEdge),
   (functionBinding.lead, equals ++ maybe (text "async" ++ blanks) ++ Pattern.char '('),
   (wordEdge, functionProperty.trail),
   (wordEdge, blanks ++ parameters ++ arrow)]

/-- The mark of a form rules out no line that holds the form. -/
theorem holdsAny_and_occursIn {q : Pattern} (hp : p.Holds mark.toList) (hpq : p.ways = q.ways) :
    (holdsAny [mark] line && p.occursIn line.toList) = q.occursIn line.toList := by
  rw [← occursIn_congr hpq, Bool.and_eq_right_iff_imp]
  intro h
  rw [holdsAny, List.any_cons, List.any_nil, Bool.or_false, Text.holds_iff]
  exact hp.of_occursIn h

theorem definitionFits_eq (name line : String) : definitionFits name line =
    surroundings.map fun around => (around.1 ++ text name ++ around.2).occursIn line.toList := by
  have hfunction : ∀ p : Pattern, (p ++ text "function").Holds "function".toList :=
    fun p => (holds_chars _).append_right p
  have hequals : ∀ p : Pattern, (p ++ Pattern.char '=').Holds "=".toList :=
    fun p => (holds_char '=').append_right p
  have harrow : ∀ p : Pattern, (p ++ arrow).Holds "=>".toList :=
    fun p => ((holds_chars _).append_right blanks).append_right p
  simp only [definitionFits, definitionShapes, surroundings, List.map_cons, List.map_nil,
    List.cons.injEq, and_true]
  refine ⟨holdsAny_and_occursIn ?_ ?_, holdsAny_and_occursIn ?_ ?_, holdsAny_and_occursIn ?_ ?_,
    holdsAny_and_occursIn ?_ ?_, holdsAny_and_occursIn (harrow _) ?_⟩
  · exact ((((((hfunction _).append_left _).append_left _).append_left _).append_left _).append_left
      _).append_left _
  · simp only [functionKeyword, ways_append, List.flatMap_assoc]
  · exact (hfunction _).append_left _
  · simp only [functionBinding, ways_append, List.flatMap_assoc]
  · exact (((hequals _).append_left _).append_left _).append_left _
  · simp only [functionBinding, ways_append, List.flatMap_assoc]
  · exact (hfunction _).append_left _
  · simp only [functionProperty, ways_append, List.flatMap_assoc]
  · simp only [ways_append, List.flatMap_assoc]

theorem getElem?_definitionFits {k : Nat} : (definitionFits name line)[k]? = some true ↔
    ∃ around, surroundings[k]? = some around ∧ Spells around.1 around.2 name line := by
  simp only [definitionFits_eq, List.getElem?_map, Option.map_eq_some_iff, spells_iff_occursIn]

theorem defines_iff : defines name line = true ↔
    ∃ around ∈ surroundings, Spells around.1 around.2 name line := by
  simp only [defines, definitionFits_eq, List.any_map, List.any_eq_true, Function.comp_apply, id,
    spells_iff_occursIn]

/-- Except behind the keyword alone, a name is looked for between pieces at which words end. -/
theorem edges_of_mem_surroundings {around : Pattern × Pattern} (h : around ∈ surroundings.tail) :
    (∀ x, around.1.StartsWordAt x) ∧ around.2.EndsWord := by
  have hequals : (blanks ++ Pattern.char '=' ++ blanks).EndsWord :=
    (endsWord_blanks_char (by decide) (by decide)).append _
  have hcolon : (blanks ++ Pattern.char ':').EndsWord := endsWord_blanks_char (by decide) (by decide)
  have hbinding : ∀ x, functionBinding.lead.StartsWordAt x := startsWordAt_gap _
  simp only [surroundings, List.tail_cons, List.mem_cons, List.not_mem_nil, or_false] at h
  rcases h with rfl | rfl | rfl | rfl
  · exact ⟨hbinding, ((hequals.append _).append _).append _⟩
  · exact ⟨hbinding, (hequals.append _).append _⟩
  · exact ⟨startsWordAt_wordEdge, (((hcolon.append _).append _).append _).append _⟩
  · exact ⟨startsWordAt_wordEdge, startsWithSign_parameters.endsWord.append _⟩

/-! ### The keyword in front of a name -/

theorem mem_ways_functionKeyword {x start : Place} : start ∈ functionKeyword.lead.ways x ↔
    x.atWordEdge = true ∧ ∃ u v w, x.Leads "function".toList u ∧ u.Skips v ∧
      (v.Leads ['*'] w ∨ v = w) ∧ w.Skips start := by
  simp only [functionKeyword, maybe, mem_ways_append, mem_ways_or, ways_nothing, List.mem_singleton,
    mem_ways_wordEdge, mem_ways_text, mem_ways_blanks, mem_ways_char]
  constructor
  · rintro ⟨w, ⟨v, ⟨u, ⟨_, ⟨rfl, hedge⟩, hu⟩, hv⟩, hw⟩, hstart⟩
    exact ⟨hedge, u, v, w, hu, hv, hw.imp id Eq.symm, hstart⟩
  · rintro ⟨hedge, u, v, w, hu, hv, hw, hstart⟩
    exact ⟨w, ⟨v, ⟨u, ⟨x, ⟨rfl, hedge⟩, hu⟩, hv⟩, hw.imp id Eq.symm⟩, hstart⟩

theorem fits_functionKeyword {stop : Place} : functionKeyword.trail.fits stop = true ↔
    ∃ z, stop.Skips z ∧ z.after.head? = some '(' := by
  simp only [functionKeyword, fits_iff, mem_ways_append, mem_ways_blanks, mem_ways_char]
  constructor
  · rintro ⟨y, z, hz, hy⟩
    exact ⟨z, hz, by rw [hy.1]; rfl⟩
  · rintro ⟨z, hz, hhead⟩
    obtain ⟨rest, hafter⟩ := List.head?_eq_some_iff.1 hhead
    exact ⟨z.behind '(' rest, z, hz, Place.leads_behind hafter⟩

/-- Behind the keyword stands either a star or a blank, or the name itself. -/
theorem separated_or_eq {u v w start : Place} (hv : u.Skips v) (hw : v.Leads ['*'] w ∨ v = w)
    (hstart : w.Skips start) : start.before.head?.any isWordChar = false ∨ start = u := by
  rcases hw with hw | rfl
  · refine .inl (hstart.not_isWordChar_before ?_)
    rw [hw.2]
    exact (by decide : isWordChar '*' = false)
  · rcases hstart.before_or_eq with hbefore | rfl
    · exact .inl hbefore
    · exact hv.before_or_eq

theorem IsIdentifier.append {word more : List Char} (h : IsIdentifier word)
    (hmore : ∀ c ∈ more, isNamePart c = true) : IsIdentifier (word ++ more) := by
  obtain ⟨c, rest, rfl, hstart, hrest⟩ := h.exists_cons
  exact isIdentifier_cons.2 ⟨hstart, List.forall_mem_append.2 ⟨hrest, hmore⟩⟩

/-- A name behind the keyword is a whole word, or one word together with the keyword. -/
theorem frames_functionKeyword {x : Place} {word : List Char}
    (h : x.Frames functionKeyword.lead functionKeyword.trail word) (hword : IsIdentifier word) :
    (∃ passed start stop, x.Leads passed start ∧ start.Word word stop) ∨
      ∃ stop z, x.Word ("function".toList ++ word) stop ∧ stop.Skips z ∧ z.after.head? = some '(' := by
  obtain ⟨start, hstart, stop, hleads, htrail⟩ := h
  obtain ⟨passed, hpassed⟩ := exists_leads_of_mem_ways hstart
  obtain ⟨hedge, u, v, w, hu, hv, hw, hskip⟩ := mem_ways_functionKeyword.1 hstart
  have hafter : stop.after.head?.any isWordChar = false :=
    endsWord_blanks_char (by decide) (by decide) stop htrail
  rcases separated_or_eq hv hw hskip with hbefore | rfl
  · exact .inl ⟨passed, start, stop, hpassed, hleads, hword, hbefore, hafter⟩
  · have hkeyword : IsIdentifier ("function".toList ++ word) :=
      IsIdentifier.append (by decide) hword.parts
    have hglued := hu.trans hleads
    rw [hglued.atWordEdge_start hkeyword, Bool.not_eq_true'] at hedge
    obtain ⟨z, hz, hhead⟩ := fits_functionKeyword.1 htrail
    exact .inr ⟨stop, z, ⟨hglued, hkeyword, hedge, hafter⟩, hz, hhead⟩

/-- **A name behind the keyword** is a whole word of the line, or the line calls the word that both are
glued to. -/
theorem Spells.mem_words_or_called (h : Spells functionKeyword.lead functionKeyword.trail name line)
    (hname : IsIdentifier name.toList) : name ∈ words line ∨ "function" ++ name ∈ called line := by
  obtain ⟨before, x, hx, hframes⟩ := h
  rcases frames_functionKeyword hframes hname with ⟨passed, start, stop, hpassed, hword⟩ |
    ⟨stop, z, hword, hskip, hhead⟩
  · exact .inl (mem_words_iff.2 ⟨before ++ passed, start, stop, hx.trans hpassed, hword⟩)
  · refine .inr ((mem_namesIn_followedBy_iff (by decide) (by decide)).2
      ⟨before, x, stop, z, hx, ?_, hskip, hhead⟩)
    rwa [String.toList_append]

theorem spells_of_called (h : "function" ++ name ∈ called line) :
    Spells functionKeyword.lead functionKeyword.trail name line := by
  obtain ⟨before, x, stop, z, hx, hword, hskip, hhead⟩ :=
    (mem_namesIn_followedBy_iff (by decide) (by decide)).1 h
  have hafter := hword.leads.1
  rw [String.toList_append, List.append_assoc] at hafter
  obtain ⟨u, hu, hrest⟩ := Place.exists_leads hafter
  have hleads : u.Leads name.toList stop := by
    refine ⟨hrest, ?_⟩
    rw [hword.leads.2, String.toList_append, List.reverse_append, List.append_assoc, hu.2]
  refine ⟨before, x, hx, u, ?_, stop, hleads, fits_functionKeyword.2 ⟨z, hskip, hhead⟩⟩
  exact mem_ways_functionKeyword.2
    ⟨(Place.word_iff.1 hword).2.2.1, u, u, u, hu, .refl u, .inr rfl, .refl u⟩

/-- **A known name that is recognised** is a whole word of the line, except in the form of the keyword,
where it may be glued to it. -/
theorem mem_words_or_called_of_fits {k : Nat} (hname : IsIdentifier name.toList)
    (h : (definitionFits name line)[k]? = some true) :
    name ∈ words line ∨ k = 0 ∧ "function" ++ name ∈ called line := by
  obtain ⟨around, hmem, hspells⟩ := getElem?_definitionFits.1 h
  cases k with
  | zero =>
    obtain rfl : (functionKeyword.lead, functionKeyword.trail) = around := Option.some.inj hmem
    exact (hspells.mem_words_or_called hname).imp_right fun hcalled => ⟨rfl, hcalled⟩
  | succ k =>
    rw [← List.getElem?_tail] at hmem
    obtain ⟨hlead, htrail⟩ := edges_of_mem_surroundings (List.mem_of_getElem? hmem)
    obtain ⟨before, x, hx, hframes⟩ := hspells
    exact .inl (mem_words_of_frames hx hframes (hlead x) htrail hname)

theorem mem_words_or_called_of_defines (hname : IsIdentifier name.toList)
    (h : defines name line = true) : name ∈ words line ∨ "function" ++ name ∈ called line := by
  obtain ⟨fit, hfit, rfl⟩ := List.any_eq_true.1 h
  obtain ⟨k, hk⟩ := List.getElem?_of_mem hfit
  exact (mem_words_or_called_of_fits hname hk).imp_right And.right

/-- A call of the name glued to the keyword is taken for a definition of the name. -/
theorem fits_of_called (h : "function" ++ name ∈ called line) :
    (definitionFits name line)[0]? = some true :=
  getElem?_definitionFits.2 ⟨_, rfl, spells_of_called h⟩

/-! ### Marks in front of a method -/

theorem not_isWordChar_before_many {piece : Pattern} {x : Place}
    (hpiece : ∀ y, ∀ z ∈ piece.ways y, z.before.head?.any isWordChar = false)
    (hx : x.before.head?.any isWordChar = false) :
    ∀ y ∈ (many piece).ways x, y.before.head?.any isWordChar = false := by
  have hmany : ∀ (cs : List Char) (x : Place), x.before.head?.any isWordChar = false →
      ∀ y ∈ manyWays piece.ways cs x, y.before.head?.any isWordChar = false := by
    intro cs
    induction cs with
    | nil =>
      intro x hx y hy
      rwa [List.mem_singleton.1 hy]
    | cons c cs ih =>
      intro x hx y hy
      rcases List.mem_append.1 hy with hy | hy
      · obtain ⟨z, hz, hy⟩ := List.mem_flatMap.1 hy
        exact ih z (hpiece x z hz) y hy
      · rwa [List.mem_singleton.1 hy]
  exact hmany x.after x hx

/-- Each mark has a gap behind it, so that the name of a method starts a word if the line does. -/
theorem startsWordAt_methodHead {x : Place} (hx : x.before.head?.any isWordChar = false) :
    methodHead.lead.StartsWordAt x := by
  intro start hstart word stop hleads hword
  obtain ⟨y, hy, hstart⟩ := mem_ways_append.1 hstart
  have hmark : ∀ y, ∀ z ∈ (anyOf methodMarks ++ gap).ways y, z.before.head?.any isWordChar = false := by
    intro y z hz
    obtain ⟨u, -, hz⟩ := mem_ways_append.1 hz
    exact not_isWordChar_before_gap hz
  exact not_isWordChar_before_many hmark ((mem_ways_blanks.1 hy).not_isWordChar_before hx) start hstart

/-! ### Bindings of functions and arrows -/

/-- A line binds a name to an arrow whose only parameter has no parentheses. -/
def BindsBareArrow (name line : String) : Prop :=
  Spells functionBinding.lead (blanks ++ Pattern.char '=' ++ blanks ++ maybeAsync ++ (Pattern.name ++ arrow))
    name line

theorem mem_ways_blanks_of_gap {x y : Place} (h : y ∈ gap.ways x) : y ∈ blanks.ways x := by
  obtain ⟨c, z, hz, hblank, cs, hcs, hblanks⟩ := mem_ways_gap.1 h
  exact mem_ways_blanks.2 ⟨c :: cs, hz.trans hcs, List.forall_mem_cons.2 ⟨hblank, hblanks⟩⟩

theorem mem_ways_async_of_maybeAsync {x y : Place} (h : y ∈ maybeAsync.ways x) :
    y ∈ (maybe (text "async" ++ blanks)).ways x := by
  rcases mem_ways_or.1 h with h | h
  · obtain ⟨z, hz, hy⟩ := mem_ways_append.1 h
    exact mem_ways_or.2 (.inl (mem_ways_append.2 ⟨z, hz, mem_ways_blanks_of_gap hy⟩))
  · exact mem_ways_or.2 (.inr h)

/-- A binding that shows the name of a function is one of the forms in which it is looked for, or a bare
arrow. -/
theorem defines_or_bindsBareArrow
    (h : Spells functionBinding.lead functionBinding.trail name line) :
    defines name line = true ∨ BindsBareArrow name line := by
  obtain ⟨before, x, hx, start, hstart, stop, hleads, hfits⟩ := h
  have hspells : ∀ {trail : Pattern} {z : Place}, z ∈ trail.ways stop →
      Spells functionBinding.lead trail name line :=
    fun hz => ⟨before, x, hx, start, hstart, stop, hleads, fits_iff.2 ⟨_, hz⟩⟩
  obtain ⟨z, hz⟩ := fits_iff.1 hfits
  obtain ⟨y, hy, hz⟩ := mem_ways_append.1 hz
  rcases mem_ways_or.1 hz with hz | hz
  · refine .inl (defines_iff.2 ?_)
    rcases mem_ways_or.1 hz with hz | hz
    · obtain ⟨u, hu, hz⟩ := mem_ways_append.1 hz
      have hfunction := mem_ways_append.2 ⟨y, hy, hu⟩
      exact ⟨_, .tail _ (.head _), hspells (mem_ways_append.2 ⟨u, hfunction, hz⟩)⟩
    · -- the parentheses of the arrow are enough
      obtain ⟨u, hu, -⟩ := mem_ways_append.1 hz
      obtain ⟨v, hv, -⟩ := mem_ways_append.1 hu
      obtain ⟨w, hw, -⟩ := mem_ways_append.1 hv
      obtain ⟨e, he, hy⟩ := mem_ways_append.1 hy
      have hasync := mem_ways_append.2 ⟨e, he, mem_ways_async_of_maybeAsync hy⟩
      exact ⟨_, .tail _ (.tail _ (.head _)), hspells (mem_ways_append.2 ⟨y, hasync, hw⟩)⟩
  · exact .inr (hspells (mem_ways_append.2 ⟨y, hy, hz⟩))

/-! ### The name that a line defines -/

/-- The forms of definition that show the name of a function. -/
inductive DefinitionForm where
  /-- `function NAME(`. -/
  | keyword
  /-- `const NAME =` and a function or an arrow. -/
  | binding
  /-- `NAME: function`. -/
  | property
  /-- `def NAME(` at the start of a line. -/
  | definition
  /-- `NAME(...) {` at the start of a line. -/
  | method
  deriving DecidableEq

namespace DefinitionForm

variable {form : DefinitionForm}

/-- The forms in the order in which they are tried. -/
def all : List DefinitionForm := [keyword, binding, property, definition, method]

/-- The name that a line shows in a form. -/
def read : DefinitionForm → String → Option String
  | keyword, line => functionKeyword.nameIn? line
  | binding, line => boundFunction? line
  | property, line => functionProperty.nameIn? line
  | definition, line => functionDef.nameAtStart? line
  | method, line => methodHead.nameAtStart? line

theorem definitionReadings_eq (line : String) : definitionReadings line = all.map (·.read line) := rfl

/-- A line defines a function because of a form: the form shows a name that is no keyword, and what the
earlier ones show, if anything, are keywords. -/
structure Decides (form : DefinitionForm) (line name : String) : Prop where
  /-- The form shows the name. -/
  shown : form.read line = some name
  /-- It is no keyword. -/
  not_keyword : isKeyword name = false
  /-- The earlier forms are passed over. -/
  passed : ∃ earlier later, all = earlier ++ form :: later ∧
    ∀ other ∈ earlier, ∀ word, other.read line = some word → isKeyword word = true

/-- **The name of a function** is read off the first form that shows one which is no keyword. -/
theorem functionName?_eq_some_iff :
    functionName? line = some name ↔ ∃ form : DefinitionForm, form.Decides line name := by
  rw [functionName?, definitionReadings_eq, List.findSome?_map, List.findSome?_eq_some_iff]
  simp only [Function.comp_apply, Option.filter_eq_some_iff, Option.filter_eq_none_iff, Bool.not_eq_true',
    Bool.not_eq_false]
  constructor
  · rintro ⟨earlier, form, later, hall, ⟨hshown, hkey⟩, hpassed⟩
    exact ⟨form, hshown, hkey, earlier, later, hall, hpassed⟩
  · rintro ⟨form, hshown, hkey, earlier, later, hall, hpassed⟩
    exact ⟨earlier, form, later, hall, ⟨hshown, hkey⟩, hpassed⟩

theorem mem_words_or_called_of_read (h : form.read line = some name) : IsIdentifier name.toList ∧
    (name ∈ words line ∨ form = keyword ∧ "function" ++ name ∈ called line) := by
  have hequals : (blanks ++ Pattern.char '=').EndsWord := endsWord_blanks_char (by decide) (by decide)
  have hcolon : (blanks ++ Pattern.char ':').EndsWord := endsWord_blanks_char (by decide) (by decide)
  have hopening : (blanks ++ Pattern.char '(').EndsWord := endsWord_blanks_char (by decide) (by decide)
  cases form with
  | keyword =>
    obtain ⟨hspells, hname⟩ := spells_of_nameIn? rfl h
    exact ⟨hname, (hspells.mem_words_or_called hname).imp_right fun hcalled => ⟨rfl, hcalled⟩⟩
  | binding =>
    obtain ⟨⟨before, x, hx, hframes⟩, hname⟩ :=
      spells_of_nameIn? rfl (Option.ite_none_right_eq_some.1 h).2
    exact ⟨hname, .inl (mem_words_of_frames hx hframes (startsWordAt_gap _ x)
      (((hequals.append _).append _).append _) hname)⟩
  | property =>
    obtain ⟨⟨before, x, hx, hframes⟩, hname⟩ := spells_of_nameIn? rfl h
    exact ⟨hname, .inl (mem_words_of_frames hx hframes (startsWordAt_wordEdge x)
      ((((hcolon.append _).append _).append _).append _) hname)⟩
  | definition =>
    obtain ⟨hframes, hname⟩ := frames_of_nameAtStart? rfl h
    exact ⟨hname, .inl (mem_words_of_frames (.refl _) hframes (startsWordAt_gap _ _) hopening hname)⟩
  | method =>
    obtain ⟨hframes, hname⟩ := frames_of_nameAtStart? rfl h
    exact ⟨hname, .inl (mem_words_of_frames (.refl _) hframes (startsWordAt_methodHead rfl)
      (((startsWithSign_parameters.endsWord.append _).append _).append _) hname)⟩

/-- **A name read off a line** is found on it again, except in front of a bare arrow. -/
theorem defines_of_read (h : form.read line = some name)
    (hform : form = keyword ∨ form = binding ∨ form = property) :
    defines name line = true ∨ form = binding ∧ BindsBareArrow name line := by
  rcases hform with rfl | rfl | rfl
  · exact .inl (defines_iff.2 ⟨_, .head _, (spells_of_nameIn? rfl h).1⟩)
  · have hspells := (spells_of_nameIn? rfl (Option.ite_none_right_eq_some.1 h).2).1
    exact (defines_or_bindsBareArrow hspells).imp_right fun harrow => ⟨rfl, harrow⟩
  · exact .inl (defines_iff.2
      ⟨_, .tail _ (.tail _ (.tail _ (.head _))), (spells_of_nameIn? rfl h).1⟩)

end DefinitionForm

end Line

end LineKin
