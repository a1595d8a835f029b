import LineKin.Proofs.Line.Followed

/-!
# Words and where they stand

An `Occurrence` is a text together with the place of a line where it stands. A word of a line is a maximal
run of word characters that is spelled like an identifier, and it occurs as often as it stands in the line
(`Occurrence.IsWordOf`). The list `occurrences` has them all, from left to right.

A search whose fits are words that pass a test finds these words and no others (`namesIn_eq_filter`). Two
such searches are the one for a word in front of a sign (`namesIn_followedBy`) and the one for a word with a
capital letter (`capitalized_eq`).

* **`words_and_uses_exact`**: the words of a line, those in front of a parenthesis, a dot or a bracket, and
  those that start with a capital letter are read off one list of occurrences.
-/

namespace LineKin

open Text Line

/-! ### Places of a line and the text before them -/

namespace Place

variable {x y : Place} {text front : List Char} {c : Char}

theorem Leads.before_start (h : (start text).Leads front x) : x.before = front.reverse := by
  simpa [start] using h.2

theorem Leads.passed_start (h : (start text).Leads front x) : x.passed = front.length := by
  simp [x.passed_eq, h.before_start]

theorem Leads.drop_start (h : (start text).Leads front x) : text.drop x.passed = x.after := by
  have htext : text = front ++ x.after := h.1
  rw [h.passed_start, htext, List.drop_left]

/-- The first character ahead that is not blank stands behind all blanks. -/
theorem find?_after_eq_some_iff : y.after.find? (fun c => !isBlank c) = some c ↔
    isBlank c = false ∧ ∃ z, y.Skips z ∧ z.after.head? = some c := by
  rw [List.find?_eq_some_iff_append]
  simp only [Bool.not_eq_true', Bool.not_not]
  apply and_congr_right
  intro _
  constructor
  · rintro ⟨gap, rest, hafter, hgap⟩
    obtain ⟨z, hz, hrest⟩ := exists_leads hafter
    exact ⟨z, ⟨gap, hz, hgap⟩, by simp [hrest]⟩
  · rintro ⟨z, ⟨gap, hz, hgap⟩, hhead⟩
    obtain ⟨rest, hrest⟩ := List.head?_eq_some_iff.1 hhead
    exact ⟨gap, rest, by rw [hz.1, hrest], hgap⟩

end Place

namespace Line

open Pattern Place

variable {line : String} {x y : Place} {word : List Char} {found : Shape.Found} {c : Char}

/-! ### Occurrences -/

/-- A text at a place of a line. -/
@[ext] structure Occurrence where
  /-- The text. -/
  word : String
  /-- How many characters stand in front of it. -/
  start : Nat

namespace Occurrence

variable {o : Occurrence}

/-- How many characters of the line there are up to the end of the text. -/
def stop (o : Occurrence) : Nat := o.start + o.word.toList.length

/-- The text is a word of the line: it is spelled like an identifier, and no word character stands right
before or right behind it. -/
def IsWordOf (o : Occurrence) (line : String) : Prop :=
  ∃ front back, line.toList = front ++ o.word.toList ++ back ∧ o.start = front.length ∧
    IsIdentifier o.word.toList ∧ front.getLast?.any isWordChar = false ∧
    back.head?.any isWordChar = false

/-- The first character of the line behind the text that is not blank. -/
def next (o : Occurrence) (line : String) : Option Char :=
  (line.toList.drop o.stop).find? fun c => !isBlank c

/-- Whether the text starts with a capital letter. -/
def isCapitalized (o : Occurrence) : Bool := o.word.toList.head?.any Char.isUpper

theorem isWordOf_iff : o.IsWordOf line ↔
    ∃ front x y, (Place.start line.toList).Leads front x ∧ x.Word o.word.toList y ∧
      x.passed = o.start := by
  constructor
  · rintro ⟨front, back, hline, hstart, hword, hfront, hback⟩
    have hsplit : (Place.start line.toList).after = front ++ (o.word.toList ++ back) := by
      simp [Place.start, hline]
    obtain ⟨x, hx, hxafter⟩ := exists_leads hsplit
    obtain ⟨y, hy, hyafter⟩ := exists_leads hxafter
    refine ⟨front, x, y, hx, ⟨hy, hword, ?_, ?_⟩, ?_⟩
    · rwa [hx.before_start, List.head?_reverse]
    · rwa [hyafter]
    · rw [hx.passed_start, hstart]
  · rintro ⟨front, x, y, hx, hword, hstart⟩
    have hline : line.toList = front ++ x.after := hx.1
    refine ⟨front, y.after, ?_, ?_, hword.isIdentifier, ?_, hword.after⟩
    · rw [hline, hword.leads.1, List.append_assoc]
    · rw [← hstart, hx.passed_start]
    · rw [← List.head?_reverse, ← hx.before_start]
      exact hword.before

theorem next_eq {front : List Char} (hx : (Place.start line.toList).Leads front x)
    (hword : x.Word o.word.toList y) (hstart : x.passed = o.start) :
    o.next line = y.after.find? fun c => !isBlank c := by
  have hy := hx.trans hword.leads
  have hstop : o.stop = y.passed := by
    rw [stop, hword.leads.passed_eq, hstart]
  rw [next, hstop, hy.drop_start]

end Occurrence

/-- The word that starts at a place, if there is one. -/
def occurrenceAt? (x : Place) : Option Occurrence :=
  (wordShape.at? x).map fun found => ⟨String.ofList found.name, x.passed⟩

/-- The words of a line and where they stand, from left to right. -/
def occurrences (line : String) : List Occurrence :=
  (Place.start line.toList).onward.filterMap occurrenceAt?

theorem occurrenceAt?_eq_some_iff {o : Occurrence} :
    occurrenceAt? x = some o ↔ ∃ y, x.Word o.word.toList y ∧ x.passed = o.start := by
  simp only [occurrenceAt?, Option.map_eq_some_iff, at?_wordShape]
  constructor
  · rintro ⟨found, hword, rfl⟩
    exact ⟨found.finish, by rwa [String.toList_ofList], rfl⟩
  · rintro ⟨y, hword, hstart⟩
    exact ⟨⟨o.word.toList, y⟩, hword, Occurrence.ext String.ofList_toList hstart⟩

theorem mem_occurrences {o : Occurrence} : o ∈ occurrences line ↔ o.IsWordOf line := by
  simp only [occurrences, List.mem_filterMap, mem_onward, occurrenceAt?_eq_some_iff,
    Occurrence.isWordOf_iff]
  constructor
  · rintro ⟨x, ⟨front, hx⟩, y, hword, hstart⟩
    exact ⟨front, x, y, hx, hword, hstart⟩
  · rintro ⟨front, x, y, hx, hword, hstart⟩
    exact ⟨x, ⟨front, hx⟩, y, hword, hstart⟩

/-- Two words of a line do not touch. -/
theorem pairwise_occurrences (line : String) :
    (occurrences line).Pairwise fun a b => a.stop < b.start := by
  apply List.Pairwise.filterMap occurrenceAt? _ (pairwise_onward (.start line.toList))
  rintro x y ⟨c, passed, hxy⟩ a ha b hb
  obtain ⟨z, hword, hstart⟩ := occurrenceAt?_eq_some_iff.1 ha
  obtain ⟨w, hother, hstart'⟩ := occurrenceAt?_eq_some_iff.1 hb
  have hstop : a.stop = z.passed := by
    rw [Occurrence.stop, hword.leads.passed_eq, hstart]
  rw [hstop, ← hstart']
  by_contra hlt
  by_cases heq : y.passed = z.passed
  · -- the second word would start where the first one ends
    obtain ⟨ds, hds, hzy⟩ := hword.leads.of_le hxy (Nat.le_of_eq heq.symm)
    have hnil : ds = [] := by
      have := hzy.passed_eq
      exact List.length_eq_zero_iff.1 (by omega)
    have hsame : y = z := (hnil ▸ hzy).unique (.refl z)
    have hhead := hother.isWordChar_head?
    rw [hsame, hword.after] at hhead
    exact Bool.noConfusion hhead
  · exact hword.not_inside hxy (by omega) hother

/-! ### Searches for words -/

/-- **A search for words that pass a test** finds them all, from left to right. -/
theorem namesIn_eq_filter {s : Shape} {test : Occurrence → Bool} (hs : s.Apart)
    (htest : ∀ front x, (Place.start line.toList).Leads front x → ∀ word,
      (∃ found, s.at? x = some found ∧ found.name = word) ↔
        ∃ y, x.Word word y ∧ test ⟨String.ofList word, x.passed⟩ = true) :
    s.namesIn line = ((occurrences line).filter test).map (·.word) := by
  rw [Shape.namesIn, Shape.all_eq_filterMap hs, List.map_filterMap, occurrences,
    List.filter_filterMap, List.map_filterMap]
  apply List.filterMap_congr
  intro x hx
  obtain ⟨front, hx⟩ := mem_onward.1 hx
  apply Option.ext
  intro name
  simp only [Option.map_eq_some_iff, Option.filter_eq_some_iff, occurrenceAt?_eq_some_iff]
  constructor
  · rintro ⟨_, ⟨found, hfound, rfl⟩, rfl⟩
    obtain ⟨y, hword, hpasses⟩ := (htest front x hx found.name).1 ⟨found, hfound, rfl⟩
    exact ⟨⟨String.ofList found.name, x.passed⟩, ⟨⟨y, by rwa [String.toList_ofList], rfl⟩, hpasses⟩, rfl⟩
  · rintro ⟨o, ⟨⟨y, hword, hstart⟩, hpasses⟩, rfl⟩
    have ho : o = ⟨String.ofList o.word.toList, x.passed⟩ :=
      Occurrence.ext String.ofList_toList.symm hstart.symm
    obtain ⟨found, hfound, hname⟩ := (htest front x hx o.word.toList).2 ⟨y, hword, ho ▸ hpasses⟩
    exact ⟨found.name, ⟨found, hfound, rfl⟩, by rw [hname, String.ofList_toList]⟩

theorem words_eq (line : String) : words line = (occurrences line).map (·.word) := by
  have hall : words line = ((occurrences line).filter fun _ => true).map (·.word) := by
    apply namesIn_eq_filter apart_wordShape
    intro front x _ word
    simp only [at?_wordShape, and_true]
    constructor
    · rintro ⟨found, hword, rfl⟩
      exact ⟨found.finish, hword⟩
    · rintro ⟨y, hword⟩
      exact ⟨⟨word, y⟩, hword, rfl⟩
  rw [hall, List.filter_true]

/-- The names in front of a sign, each as often as it stands there. -/
theorem namesIn_followedBy (hc : isBlank c = false) (hc' : isWordChar c = false) (line : String) :
    (followedBy c).namesIn line = ((occurrences line).filter fun o => o.next line = some c).map (·.word) := by
  apply namesIn_eq_filter (apart_followedBy hc hc')
  intro front x hx word
  have hnext : ∀ {y}, x.Word word y →
      Occurrence.next ⟨String.ofList word, x.passed⟩ line = y.after.find? fun c => !isBlank c :=
    fun hword => Occurrence.next_eq hx (by rwa [String.toList_ofList]) rfl
  simp only [at?_followedBy hc hc', decide_eq_true_eq]
  constructor
  · rintro ⟨found, ⟨y, z, hword, hskip, hfinish⟩, rfl⟩
    refine ⟨y, hword, ?_⟩
    rw [hnext hword, find?_after_eq_some_iff]
    exact ⟨hc, z, hskip, by rw [hfinish.1]; rfl⟩
  · rintro ⟨y, hword, hfound⟩
    rw [hnext hword, find?_after_eq_some_iff] at hfound
    obtain ⟨-, z, hskip, hhead⟩ := hfound
    obtain ⟨rest, hafter⟩ := List.head?_eq_some_iff.1 hhead
    exact ⟨⟨word, z.behind c rest⟩, ⟨y, z, hword, hskip, leads_behind hafter⟩, rfl⟩

/-! ### Words that start with a capital letter -/

theorem isNameStart_of_isUpper (hc : c.isUpper = true) : isNameStart c = true := by
  show ((c.isUpper || c.isLower) || c == '_') = true
  rw [hc]
  rfl

theorem mem_ways_capitalized : y ∈ capitalizedShape.name.ways x ↔
    ∃ word, x.Leads word y ∧ IsIdentifier word ∧ word.head?.any Char.isUpper = true := by
  have hname : capitalizedShape.name = one Char.isUpper ++ run isNamePart := rfl
  rw [hname, mem_ways_append]
  constructor
  · rintro ⟨z, hz, hy⟩
    obtain ⟨c, hc, hupper⟩ := mem_ways_one.1 hz
    obtain ⟨rest, hrest, hparts⟩ := mem_ways_run.1 hy
    exact ⟨c :: rest, hc.trans hrest, isIdentifier_cons.2 ⟨isNameStart_of_isUpper hupper, hparts⟩, hupper⟩
  · rintro ⟨word, hleads, hword, hupper⟩
    obtain ⟨c, rest, rfl, -, hparts⟩ := hword.exists_cons
    refine ⟨x.behind c (rest ++ y.after), ?_, mem_ways_run.2 ⟨rest, hleads.of_cons, hparts⟩⟩
    exact mem_ways_one.2 ⟨c, leads_behind hleads.1, hupper⟩

theorem mem_founds_capitalizedShape : found ∈ capitalizedShape.founds x ↔
    x.Word found.name found.finish ∧ found.name.head?.any Char.isUpper = true := by
  have hlead : capitalizedShape.lead = wordEdge := rfl
  have htrail : capitalizedShape.trail = wordEdge := rfl
  simp only [Shape.mem_founds, hlead, htrail, mem_ways_wordEdge, mem_ways_capitalized, Place.word_iff]
  constructor
  · rintro ⟨_, ⟨rfl, hx⟩, _, ⟨word, hleads, hword, hupper⟩, ⟨rfl, hy⟩, hname⟩
    rw [hleads.upTo_eq] at hname
    exact hname ▸ ⟨⟨hleads, hword, hx, hy⟩, hupper⟩
  · rintro ⟨⟨hleads, hword, hx, hy⟩, hupper⟩
    exact ⟨x, ⟨rfl, hx⟩, found.finish, ⟨_, hleads, hword, hupper⟩, ⟨rfl, hy⟩, hleads.upTo_eq⟩

theorem at?_capitalizedShape : capitalizedShape.at? x = some found ↔
    x.Word found.name found.finish ∧ found.name.head?.any Char.isUpper = true := by
  rw [Shape.at?_eq_some_iff_mem, mem_founds_capitalizedShape]
  intro f hf g hg
  obtain ⟨hname, hfinish⟩ :=
    (mem_founds_capitalizedShape.1 hf).1.unique (mem_founds_capitalizedShape.1 hg).1
  cases f
  cases g
  simp_all

theorem apart_capitalizedShape : capitalizedShape.Apart := by
  intro x found hat c passed y hleads hlt
  rw [Option.eq_none_iff_forall_ne_some]
  intro other hother
  exact (at?_capitalizedShape.1 hat).1.not_inside hleads hlt (at?_capitalizedShape.1 hother).1

theorem capitalized_eq (line : String) :
    capitalized line = ((occurrences line).filter (·.isCapitalized)).map (·.word) := by
  apply namesIn_eq_filter apart_capitalizedShape
  intro front x _ word
  simp only [at?_capitalizedShape, Occurrence.isCapitalized, String.toList_ofList]
  constructor
  · rintro ⟨found, hword, rfl⟩
    exact ⟨found.finish, hword⟩
  · rintro ⟨y, hword⟩
    exact ⟨⟨word, y⟩, hword, rfl⟩

/-- **The words of a line and their uses.** Let `all` be the words of a line from left to right, each as often
as it occurs: the maximal runs of word characters that are spelled like identifiers. The calls of the line
are those of them in front of an opening parenthesis, with only blanks between, and likewise for the
dot and the square bracket; the capitalized names are those that start with a capital letter. No other
names are found, and none is left out. -/
theorem words_and_uses_exact (line : String) : ∃ all : List Occurrence,
    (∀ o, o ∈ all ↔ o.IsWordOf line) ∧ (all.Pairwise fun a b => a.stop < b.start) ∧
      words line = all.map (·.word) ∧
      called line = (all.filter fun o => o.next line = some '(').map (·.word) ∧
      accessed line = (all.filter fun o => o.next line = some '.').map (·.word) ∧
      indexed line = (all.filter fun o => o.next line = some '[').map (·.word) ∧
      capitalized line = (all.filter (·.isCapitalized)).map (·.word) := by
  refine ⟨occurrences line, fun o => mem_occurrences, pairwise_occurrences line, words_eq line, ?_, ?_, ?_,
    capitalized_eq line⟩
  · exact namesIn_followedBy (by decide) (by decide) line
  · exact namesIn_followedBy (by decide) (by decide) line
  · exact namesIn_followedBy (by decide) (by decide) line

example : words "1st naïve b2 (c)" = ["b2", "c"] ∧ called "1st naïve b2 (c)" = ["b2"] := by decide +kernel

/-- **The two notions of a word agree**, and both are exact. An identifier is found in a line by a search for
it between two edges of words, at whatever place, exactly if it is among the words that are read off the line
from left to right. This is so exactly if it occurs in the line as a word. -/
theorem mentions_exact (name line : String) (hname : IsIdentifier name.toList) :
    (mentions name line = true ↔ name ∈ words line) ∧
      (name ∈ words line ↔ ∃ o : Occurrence, o.IsWordOf line ∧ o.word = name) := by
  refine ⟨mentions_iff_mem_words hname, ?_⟩
  rw [words_eq, List.mem_map]
  simp only [mem_occurrences]

/-- The text overlaps itself and touches digits and a letter beyond ASCII before it stands as a word. -/
theorem mentions_exact_overlapping :
    IsIdentifier "a_a".toList ∧
    (mentions "a_a" "a_a_a 1a_a a_aé" = false ∧ "a_a" ∉ words "a_a_a 1a_a a_aé") ∧
    mentions "a_a" "a_a_a 1a_a a_aé-a_a" = true ∧ "a_a" ∈ words "a_a_a 1a_a a_aé-a_a" ∧
      ∃ o : Occurrence, o.IsWordOf "a_a_a 1a_a a_aé-a_a" ∧ o.word = "a_a" := by
  have hname : IsIdentifier "a_a".toList := by decide
  have hnone : mentions "a_a" "a_a_a 1a_a a_aé" = false := by decide +kernel
  have hfound : mentions "a_a" "a_a_a 1a_a a_aé-a_a" = true := by decide +kernel
  have hparts := (mentions_exact "a_a" "a_a_a 1a_a a_aé" hname).1
  obtain ⟨hwhole, hstands⟩ := mentions_exact "a_a" "a_a_a 1a_a a_aé-a_a" hname
  have hword := hwhole.1 hfound
  refine ⟨hname, ⟨hnone, fun h => ?_⟩, hfound, hword, hstands.1 hword⟩
  rw [hparts.2 h] at hnone
  exact Bool.noConfusion hnone

end Line

end LineKin
