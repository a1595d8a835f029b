import LineKin.Line.Definition
import LineKin.Line.Import
import LineKin.Proofs.Line.Names

/-!
# Lines padded with blanks

A line is `Padded` with any blanks in front and at its end, as by another indentation. Whatever is
read of a line is read of the padded line as well: the names on it, the function or class that it
defines, and what it imports. So a line of blanks shows what the empty line shows, which is nothing.

The shapes and patterns of the readings are checked one by one: their conditions are computed, except
where a known name or the end of the line is part of a pattern (`settled_plainEquals`,
`definitionShapes_firm`, `memberShapes_settled`).
-/

namespace LineKin.Line

open Text Pattern

/-- The second line is the first one with blanks in front and at its end. -/
def Padded (line padded : String) : Prop :=
  ∃ front back : List Char, AllBlank front ∧ AllBlank back ∧
    padded.toList = front ++ line.toList ++ back

variable {line padded word : String} {s : Shape} {p : Pattern}

theorem Padded.refl (line : String) : Padded line line :=
  ⟨[], [], nofun, nofun, (List.append_nil line.toList).symm⟩

/-- A line of blanks is the empty line, padded. -/
theorem padded_of_isBlankText (h : isBlankText line = true) : Padded "" line :=
  ⟨line.toList, [], List.all_eq_true.1 h, nofun, by simp⟩

/-! ### Searches -/

theorem Padded.all_eq (h : Padded line padded) (hs : s.Settled) (hi : s.startsInk = true) :
    s.all padded.toList = s.all line.toList := by
  obtain ⟨front, back, hfront, hback, heq⟩ := h
  rw [heq, Shape.all_padded hs hi hfront hback]

theorem Padded.namesIn_eq (h : Padded line padded) (hs : s.Settled) (hi : s.startsInk = true) :
    s.namesIn padded = s.namesIn line := by
  rw [Shape.namesIn, Shape.namesIn, h.all_eq hs hi]

theorem Padded.first?_eq (h : Padded line padded) (hs : s.Settled) (hi : s.startsInk = true) :
    s.first? padded.toList = s.first? line.toList := by
  obtain ⟨front, back, hfront, hback, heq⟩ := h
  rw [heq, Shape.first?_padded hs hi hfront hback]

theorem Padded.nameIn?_eq (h : Padded line padded) (hs : s.Settled) (hi : s.startsInk = true) :
    s.nameIn? padded = s.nameIn? line := by
  rw [Shape.nameIn?, Shape.nameIn?, h.first?_eq hs hi]

theorem Padded.atStart?_eq (h : Padded line padded) (hs : s.Settled) (ha : s.anchored = true) :
    s.atStart? padded.toList = s.atStart? line.toList := by
  obtain ⟨front, back, hfront, hback, heq⟩ := h
  rw [heq, Shape.atStart?_padded hs ha hfront hback]

theorem Padded.nameAtStart?_eq (h : Padded line padded) (hs : s.Settled) (ha : s.anchored = true) :
    s.nameAtStart? padded = s.nameAtStart? line := by
  rw [Shape.nameAtStart?, Shape.nameAtStart?, h.atStart?_eq hs ha]

theorem Padded.occursIn_eq (h : Padded line padded) (hp : p.Settled) (hi : p.atBlank = .fails) :
    p.occursIn padded.toList = p.occursIn line.toList := by
  obtain ⟨front, back, hfront, hback, heq⟩ := h
  rw [heq, Shape.occursIn_padded hp hi hfront hback]

theorem Padded.opens_eq (h : Padded line padded) (hp : p.Settled) (ha : p.anchored = true) :
    p.opens padded.toList = p.opens line.toList := by
  obtain ⟨front, back, hfront, hback, heq⟩ := h
  rw [heq, Shape.opens_padded hp ha hfront hback]

theorem Padded.holds_eq {piece : List Char} (h : Padded line padded) (hink : isInk piece = true) :
    holds piece padded.toList = holds piece line.toList := by
  obtain ⟨front, back, hfront, hback, heq⟩ := h
  rw [heq, holds_padded hink hfront hback]

theorem Padded.trim_eq (h : Padded line padded) : trim padded.toList = trim line.toList := by
  obtain ⟨front, back, hfront, hback, heq⟩ := h
  rw [heq, trim_padded hfront hback]

theorem Padded.trimmed_eq (h : Padded line padded) : trimmed padded = trimmed line := by
  rw [trimmed, trimmed, h.trim_eq]

/-! ### Names -/

/-- A blank behind an equals sign leaves it as plain as the end of the line does. -/
theorem settled_behindEquals : (one (fun c => c != '=' && c != '>') ||| lineEnd).Settled := by
  refine ⟨fun {back} h x => ?_⟩
  rw [ways_choice, ways_choice]
  cases hx : x.after with
  | cons c rest =>
    have hafter : (x.extend back).after = c :: (rest ++ back) := Place.after_extend_cons hx
    have hend : lineEnd.ways x = [] := by rw [ways, hx]; rfl
    have hend' : lineEnd.ways (x.extend back) = [] := by rw [ways, hafter]; rfl
    rw [ways_one_cons hx, ways_one_cons hafter, hend, hend', Place.behind_extend]
    split
    · exact .cons (.inl rfl) .nil
    · exact .nil
  | nil =>
    have hend : lineEnd.ways x = [x] := by rw [ways, hx]; rfl
    have hafter : (x.extend back).after = back := Place.after_extend_nil hx
    rw [ways_one_nil hx, hend, List.nil_append]
    cases back with
    | nil =>
      have hend' : lineEnd.ways (x.extend []) = [x.extend []] := by rw [ways, hafter]; rfl
      rw [ways_one_nil hafter, hend']
      exact .cons (.inl rfl) .nil
    | cons c rest =>
      have hend' : lineEnd.ways (x.extend (c :: rest)) = [] := by rw [ways, hafter]; rfl
      have hplain : (c != '=' && c != '>') = true := by
        have hblank := h.of_cons.1
        rw [Bool.and_eq_true, bne_iff_ne, bne_iff_ne]
        constructor <;> rintro rfl <;> exact absurd hblank (by decide)
      rw [ways_one_cons hafter, if_pos hplain, hend']
      exact .cons (.inr ⟨hx, Nat.le_succ x.passed⟩) .nil

theorem settled_plainEquals : plainEquals.Settled :=
  .sequence (by decide) (.inl (by decide)) settled_behindEquals

theorem needsInk_plainEquals : plainEquals.needsInk = true := by decide

theorem declared_padded (h : Padded line padded) : declared padded = declared line :=
  h.namesIn_eq (.of_settles (by decide)) (by decide)

theorem assigned_padded (h : Padded line padded) : assigned padded = assigned line :=
  h.namesIn_eq (.of_endsInside (by decide)
    (.sequence (by decide) (.inr needsInk_plainEquals) settled_plainEquals)) (by decide)

theorem assigned_blank (h : isBlankText line = true) : assigned line = [] :=
  (assigned_padded (padded_of_isBlankText h)).trans (by decide)

theorem called_padded (h : Padded line padded) : called padded = called line :=
  h.namesIn_eq (.of_settles (by decide)) (by decide)

theorem accessed_padded (h : Padded line padded) : accessed padded = accessed line :=
  h.namesIn_eq (.of_settles (by decide)) (by decide)

theorem indexed_padded (h : Padded line padded) : indexed padded = indexed line :=
  h.namesIn_eq (.of_settles (by decide)) (by decide)

theorem capitalized_padded (h : Padded line padded) : capitalized padded = capitalized line :=
  h.namesIn_eq (.of_settles (by decide)) (by decide)

theorem members_padded (h : Padded line padded) : members padded = members line :=
  h.namesIn_eq (.of_settles (by decide)) (by decide)

theorem words_padded (h : Padded line padded) : words padded = words line :=
  h.namesIn_eq (.of_settles (by decide)) (by decide)

theorem variableNames_padded (h : Padded line padded) : variableNames padded = variableNames line := by
  rw [variableNames, variableNames, declared_padded h, assigned_padded h, called_padded h,
    accessed_padded h, indexed_padded h]

theorem importableNames_padded (h : Padded line padded) :
    importableNames padded = importableNames line := by
  rw [importableNames, importableNames, capitalized_padded h, called_padded h, accessed_padded h,
    indexed_padded h]

theorem memberNames_padded (h : Padded line padded) : memberNames padded = memberNames line := by
  rw [memberNames, memberNames, members_padded h, called_padded h]

theorem declared_blank (h : isBlankText line = true) : declared line = [] :=
  (declared_padded (padded_of_isBlankText h)).trans (by decide)

theorem atBlank_wholeWord (hword : IsName word) : (wholeWord word).atBlank = .fails := by
  simp only [wholeWord, atBlank_append, atBlank_text hword]
  decide

theorem mentions_padded (hword : IsName word) (h : Padded line padded) :
    mentions word padded = mentions word line := by
  have hfirm : (wholeWord word).firm = true := by
    simp only [firm, wholeWord, endFree_append, inkLast_append, endFree_text, inkLast_text hword,
      needsInk_text hword]
    decide
  exact h.occursIn_eq (.of_firm hfirm) (atBlank_wholeWord hword)

theorem mentions_blank (hword : IsName word) (h : isBlankText line = true) :
    mentions word line = false :=
  Shape.occursIn_blanks (atBlank_wholeWord hword) (List.all_eq_true.1 h)

/-! ### Functions and classes -/

/-- Tests that agree on the members of a list agree on whether some member passes. -/
theorem any_eq_of_forall_mem {α : Type} {xs : List α} {f g : α → Bool} (h : ∀ x ∈ xs, f x = g x) :
    xs.any f = xs.any g := by
  rw [Bool.eq_iff_iff, List.any_eq_true, List.any_eq_true]
  exact exists_congr fun x => and_congr_right fun hx => by rw [h x hx]

theorem holdsAny_padded {marks : List String}
    (hmarks : (marks.all fun mark => isInk mark.toList) = true) (h : Padded line padded) :
    holdsAny marks padded = holdsAny marks line :=
  any_eq_of_forall_mem fun mark hmark => h.holds_eq (List.all_eq_true.1 hmarks mark hmark)

theorem boundFunction?_padded (h : Padded line padded) : boundFunction? padded = boundFunction? line := by
  rw [boundFunction?, boundFunction?, holdsAny_padded (by decide) h,
    h.nameIn?_eq (.of_settles (by decide)) (by decide)]

theorem functionName?_padded (h : Padded line padded) : functionName? padded = functionName? line := by
  rw [functionName?, functionName?, definitionReadings, definitionReadings, boundFunction?_padded h,
    h.nameIn?_eq (s := functionKeyword) (.of_settles (by decide)) (by decide),
    h.nameIn?_eq (s := functionProperty) (.of_settles (by decide)) (by decide),
    h.nameAtStart?_eq (s := functionDef) (.of_settles (by decide)) (by decide),
    h.nameAtStart?_eq (s := methodHead) (.of_settles (by decide)) (by decide)]

theorem functionName?_blank (h : isBlankText line = true) : functionName? line = none :=
  (functionName?_padded (padded_of_isBlankText h)).trans (by decide)

theorem className?_padded (h : Padded line padded) : className? padded = className? line :=
  h.nameAtStart?_eq (.of_settles (by decide)) (by decide)

theorem className?_blank (h : isBlankText line = true) : className? line = none :=
  (className?_padded (padded_of_isBlankText h)).trans (by decide)

/-- A known name takes no part in how a form of definition ends. -/
theorem definitionShapes_firm (hword : IsName word) :
    ∀ entry ∈ definitionShapes word, entry.2.firm = true := by
  simp only [definitionShapes, List.forall_mem_cons, firm, endFree_append, inkLast_append,
    endFree_text, inkLast_text hword, needsInk_text hword]
  decide

theorem definitionShapes_atBlank (hword : IsName word) :
    ∀ entry ∈ definitionShapes word, entry.2.atBlank = .fails := by
  simp only [definitionShapes, List.forall_mem_cons, atBlank_append, atBlank_text hword]
  decide

theorem definitionFits_padded (hword : IsName word) (h : Padded line padded) :
    definitionFits word padded = definitionFits word line := by
  have hmarks : ((definitionShapes word).all fun entry => isInk entry.1.toList) = true := by
    simp only [definitionShapes, List.all_cons, List.all_nil]
    decide
  refine List.map_congr_left fun entry hentry => ?_
  show (holdsAny [entry.1] padded && entry.2.occursIn padded.toList) =
    (holdsAny [entry.1] line && entry.2.occursIn line.toList)
  have hmark : ([entry.1].all fun mark => isInk mark.toList) = true := by
    rw [List.all_cons, List.all_eq_true.1 hmarks entry hentry]
    rfl
  rw [holdsAny_padded hmark h,
    h.occursIn_eq (.of_firm (definitionShapes_firm hword entry hentry))
      (definitionShapes_atBlank hword entry hentry)]

theorem defines_padded (hword : IsName word) (h : Padded line padded) :
    defines word padded = defines word line := by
  rw [defines, defines, definitionFits_padded hword h]

theorem defines_blank (hword : IsName word) (h : isBlankText line = true) :
    defines word line = false := by
  refine List.any_eq_false.2 fun fits hfits => ?_
  obtain ⟨entry, hentry, rfl⟩ := List.mem_map.1 hfits
  show ¬ (holdsAny [entry.1] line && entry.2.occursIn line.toList) = true
  rw [Shape.occursIn_blanks (definitionShapes_atBlank hword entry hentry) (List.all_eq_true.1 h),
    Bool.and_false]
  exact Bool.false_ne_true

theorem isConstructor_padded (h : Padded line padded) : isConstructor padded = isConstructor line :=
  h.occursIn_eq (.of_firm (by decide)) (by decide)

theorem isConstructor_blank (h : isBlankText line = true) : isConstructor line = false :=
  Shape.occursIn_blanks (by decide) (List.all_eq_true.1 h)

theorem memberShapes_settled (hword : IsName word) : ∀ p ∈ memberShapes word, p.Settled := by
  have hfirm : ∀ p ∈ (memberShapes word).take 4, p.firm = true := by
    simp only [memberShapes, List.take_succ_cons, List.take_zero, List.forall_mem_cons, firm,
      endFree_append, inkLast_append, endFree_text, inkLast_text hword, needsInk_text hword]
    decide
  have hassigned : (wordEdge ++ text word ++ blanks ++ plainEquals).Settled := by
    refine .sequence ?_ (.inr needsInk_plainEquals) settled_plainEquals
    rw [endFree_append, endFree_append, endFree_text]
    rfl
  intro p hp
  have hsplit : memberShapes word = (memberShapes word).take 4 ++
      [wordEdge ++ text word ++ blanks ++ plainEquals] := rfl
  rw [hsplit, List.mem_append, List.mem_singleton] at hp
  rcases hp with hp | rfl
  · exact .of_firm (hfirm p hp)
  · exact hassigned

theorem memberShapes_atBlank (hword : IsName word) : ∀ p ∈ memberShapes word, p.atBlank = .fails := by
  simp only [memberShapes, List.forall_mem_cons, atBlank_append, atBlank_text hword]
  decide

theorem usesMember_padded (hword : IsName word) (h : Padded line padded) :
    usesMember word padded = usesMember word line :=
  any_eq_of_forall_mem fun p hp => h.occursIn_eq (memberShapes_settled hword p hp)
    (memberShapes_atBlank hword p hp)

theorem usesMember_blank (hword : IsName word) (h : isBlankText line = true) :
    usesMember word line = false := by
  refine List.any_eq_false.2 fun p hp => ?_
  rw [Shape.occursIn_blanks (memberShapes_atBlank hword p hp) (List.all_eq_true.1 h)]
  exact Bool.false_ne_true

/-! ### Imports -/

theorem namedImports_padded (h : Padded line padded) : namedImports padded = namedImports line := by
  rw [namedImports, namedImports, h.atStart?_eq (.of_settles (by decide)) (by decide)]

theorem namedImports_blank (h : isBlankText line = true) : namedImports line = [] :=
  (namedImports_padded (padded_of_isBlankText h)).trans (by decide)

theorem defaultImports_padded (h : Padded line padded) :
    defaultImports padded = defaultImports line := by
  rw [defaultImports, defaultImports, h.nameAtStart?_eq (.of_settles (by decide)) (by decide)]

theorem defaultImports_blank (h : isBlankText line = true) : defaultImports line = [] :=
  (defaultImports_padded (padded_of_isBlankText h)).trans (by decide)

theorem namespaceImports_padded (h : Padded line padded) :
    namespaceImports padded = namespaceImports line := by
  rw [namespaceImports, namespaceImports, h.nameAtStart?_eq (.of_settles (by decide)) (by decide)]

theorem namespaceImports_blank (h : isBlankText line = true) : namespaceImports line = [] :=
  (namespaceImports_padded (padded_of_isBlankText h)).trans (by decide)

theorem requiredNames_padded (h : Padded line padded) : requiredNames padded = requiredNames line := by
  rw [requiredNames, requiredNames, h.nameIn?_eq (.of_settles (by decide)) (by decide),
    h.first?_eq (.of_settles (by decide)) (by decide)]

theorem requiredNames_blank (h : isBlankText line = true) : requiredNames line = [] :=
  (requiredNames_padded (padded_of_isBlankText h)).trans (by decide)

theorem isReExport_padded (h : Padded line padded) : isReExport padded = isReExport line :=
  h.opens_eq (.of_firm (by decide)) (by decide)

theorem isReExport_blank (h : isBlankText line = true) : isReExport line = false :=
  (isReExport_padded (padded_of_isBlankText h)).trans (by decide)

theorem isImport_padded (h : Padded line padded) : isImport padded = isImport line := by
  rw [isImport, isImport, h.opens_eq (.of_firm (by decide)) (by decide),
    h.occursIn_eq (.of_firm (by decide)) (by decide)]

theorem holdsText_padded (hword : IsName word) (h : Padded line padded) :
    holdsText word padded = holdsText word line :=
  h.holds_eq hword.isInk

end LineKin.Line
