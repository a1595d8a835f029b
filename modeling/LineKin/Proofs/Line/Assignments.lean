import LineKin.Proofs.Line.Followed
import Mathlib.Data.List.Chain

/-!
# Names that are assigned to

An assignment on a line is a whole word with only blanks between it and an equals sign, where neither an
equals sign nor the head of an arrow follows (`Assignment.StandsOn`). The search for assigned names takes
the character behind the equals sign along, so it goes on one character too far to the right: it does not
see an assignment that starts there.

* **`assigned_exact`**: the assigned names of a line are those of its assignments from left to right,
  without each one that starts right behind the equals sign of one that was taken (`unglued`). They are
  the names of all assignments exactly if no two of them touch.
-/

namespace LineKin

open Text

namespace Place

variable {x y z u : Place} {word : List Char}

/-- Behind a whole word, blanks and an equals sign that assigns. -/
structure Assigns (x : Place) (word : List Char) (u : Place) : Prop where
  /-- The word and the equals sign, with blanks between them. -/
  sign : ∃ y z, x.Word word y ∧ y.Skips z ∧ z.Leads ['='] u
  /-- It does not compare. -/
  not_equals : u.after.head? ≠ some '='
  /-- It is no arrow. -/
  not_arrow : u.after.head? ≠ some '>'

theorem beforeSign_of_equals (h : z.Leads ['='] u) : z.BeforeSign :=
  beforeSign_of_head? (c := '=') (by rw [h.1]; rfl) (by decide) (by decide)

/-- No other word starts up to the equals sign. -/
theorem Assigns.le_of_word {v w : Place} {passed other : List Char} {c : Char} (h : x.Assigns word u)
    (hv : x.Leads (c :: passed) v) (hother : v.Word other w) : u.passed ≤ v.passed := by
  obtain ⟨y, z, hword, hskip, hu⟩ := h.sign
  have hpassed := hu.passed_eq
  rw [List.length_singleton] at hpassed
  by_contra hlt
  exact hword.not_before_sign hskip (beforeSign_of_equals hu) hv (by omega) hother

theorem Assigns.exists_leads (h : x.Assigns word u) : ∃ passed, x.Leads passed u := by
  obtain ⟨y, z, hword, ⟨gap, hgap, -⟩, hu⟩ := h.sign
  exact ⟨_, (hword.leads.trans hgap).trans hu⟩

theorem Assigns.passed_lt (h : x.Assigns word u) : x.passed + 1 < u.passed := by
  obtain ⟨y, z, hword, ⟨gap, hgap, -⟩, hu⟩ := h.sign
  obtain ⟨c, rest, rfl, -⟩ := hword.isIdentifier.exists_cons
  have hy := hword.leads.passed_eq
  have hz := hgap.passed_eq
  have hpassed := hu.passed_eq
  rw [List.length_cons] at hy
  rw [List.length_singleton] at hpassed
  omega

end Place

namespace Line

open Pattern Place

variable {line : String} {x u : Place} {found : Shape.Found} {free : Nat}

/-! ### What the search finds at a place -/

theorem assignedShape_eq : assignedShape = inFrontOf plainEquals := rfl

theorem startsWithSign_plainEquals : plainEquals.StartsWithSign :=
  (startsWithSign_char (by decide) (by decide)).append _

/-- An equals sign is taken with the character behind it, unless it ends the line. -/
theorem head?_ways_plainEquals {z finish : Place} : (plainEquals.ways z).head? = some finish ↔
    ∃ u, z.Leads ['='] u ∧ u.after.head? ≠ some '=' ∧ u.after.head? ≠ some '>' ∧
      (u.after = [] ∧ finish = u ∨ ∃ c, u.Leads [c] finish) := by
  have hways : ∀ {u : Place}, z.Leads ['='] u → (plainEquals.ways z) =
      (one (fun c => c != '=' && c != '>') ||| lineEnd).ways u := by
    intro u hu
    rw [plainEquals, ways_sequence, ways_char_of_leads hu, List.flatMap_singleton]
  constructor
  · intro hhead
    obtain ⟨u, hu, -⟩ := mem_ways_append.1 (List.mem_of_head? hhead)
    obtain ⟨c, hu, heq⟩ := mem_ways_one.1 hu
    obtain rfl : c = '=' := beq_iff_eq.1 heq
    rw [hways hu, ways_choice] at hhead
    refine ⟨u, hu, ?_⟩
    cases hafter : u.after with
    | nil =>
      rw [ways_one_nil hafter, ways, hafter] at hhead
      obtain rfl : u = finish := Option.some.inj hhead
      exact ⟨(Option.some_ne_none _).symm, (Option.some_ne_none _).symm, .inl ⟨rfl, rfl⟩⟩
    | cons c rest =>
      rw [ways_one_cons hafter, ways, hafter] at hhead
      by_cases hc : (c != '=' && c != '>') = true
      · rw [if_pos hc] at hhead
        obtain rfl : u.behind c rest = finish := Option.some.inj hhead
        rw [Bool.and_eq_true, bne_iff_ne, bne_iff_ne] at hc
        exact ⟨fun h => hc.1 (Option.some.inj h), fun h => hc.2 (Option.some.inj h),
          .inr ⟨c, leads_behind hafter⟩⟩
      · rw [if_neg hc] at hhead
        cases hhead
  · rintro ⟨u, hu, hequals, harrow, hfinish⟩
    rw [hways hu, ways_choice]
    rcases hfinish with ⟨hafter, rfl⟩ | ⟨c, hc⟩
    · rw [ways_one_nil hafter, ways, hafter]
      rfl
    · have hafter : u.after = c :: finish.after := hc.1
      rw [hafter] at hequals harrow
      have hallowed : (c != '=' && c != '>') = true := by
        rw [Bool.and_eq_true, bne_iff_ne, bne_iff_ne]
        exact ⟨fun h => hequals (congrArg some h), fun h => harrow (congrArg some h)⟩
      rw [ways_one_cons hafter, if_pos hallowed, hc.unique (leads_behind hafter)]
      rfl

theorem at?_assignedShape : assignedShape.at? x = some found ↔
    ∃ u, x.Assigns found.name u ∧
      (u.after = [] ∧ found.finish = u ∨ ∃ c, u.Leads [c] found.finish) := by
  rw [assignedShape_eq, at?_inFrontOf startsWithSign_plainEquals]
  simp only [head?_ways_plainEquals]
  constructor
  · rintro ⟨y, z, hword, hskip, u, hu, hequals, harrow, hfinish⟩
    exact ⟨u, ⟨⟨y, z, hword, hskip, hu⟩, hequals, harrow⟩, hfinish⟩
  · rintro ⟨u, ⟨⟨y, z, hword, hskip, hu⟩, hequals, harrow⟩, hfinish⟩
    exact ⟨y, z, hword, hskip, u, hu, hequals, harrow, hfinish⟩

/-! ### Assignments -/

/-- An assignment on a line: the name, and the part of the line that it takes, without what is
assigned. -/
@[ext] structure Assignment where
  /-- The name that is assigned to. -/
  name : String
  /-- How many characters stand in front of the name. -/
  start : Nat
  /-- How many characters there are up to the equals sign, which is one of them. -/
  stop : Nat

/-- The line holds the assignment. -/
def Assignment.StandsOn (a : Assignment) (line : String) : Prop :=
  ∃ front gap back, line.toList = front ++ a.name.toList ++ gap ++ '=' :: back ∧
    IsIdentifier a.name.toList ∧ front.getLast?.any isWordChar = false ∧ AllBlank gap ∧
    back.head? ≠ some '=' ∧ back.head? ≠ some '>' ∧ a.start = front.length ∧
    a.stop = front.length + a.name.toList.length + gap.length + 1

/-- The assignments without each one that starts right behind the equals sign of one that is kept. -/
def unglued : List Assignment → List Assignment
  | [] => []
  | [a] => [a]
  | a :: b :: rest => if b.start = a.stop then a :: unglued rest else a :: unglued (b :: rest)

theorem unglued_sublist : ∀ as : List Assignment, (unglued as).Sublist as
  | [] => List.Sublist.refl []
  | [a] => List.Sublist.refl [a]
  | a :: b :: rest => by
    rw [unglued]
    split
    · exact ((unglued_sublist rest).cons b).cons_cons a
    · exact (unglued_sublist (b :: rest)).cons_cons a

/-- Assignments that do not touch are all kept. -/
theorem unglued_eq_self_iff : ∀ as : List Assignment,
    unglued as = as ↔ as.IsChain fun a b => b.start ≠ a.stop
  | [] => by simp [unglued]
  | [a] => by simp [unglued]
  | a :: b :: rest => by
    rw [unglued, List.isChain_cons_cons, ← unglued_eq_self_iff (b :: rest)]
    split
    · rename_i hglued
      have hlength := (unglued_sublist rest).length_le
      constructor
      · intro heq
        have := congrArg List.length heq
        simp only [List.length_cons] at this
        omega
      · exact fun h => absurd hglued h.1
    · rename_i hglued
      rw [List.cons.injEq, eq_self_iff_true, true_and]
      exact ⟨fun h => ⟨hglued, h⟩, And.right⟩

/-- The assignment that a fit at a place is. -/
def Assignment.ofFit (fit : Shape.Fit) : Assignment where
  name := String.ofList fit.found.name
  start := fit.place.passed
  stop := fit.place.passed + fit.found.name.length +
    ((fit.place.after.drop fit.found.name.length).takeWhile isBlank).length + 1

theorem Assignment.stop_ofFit {fit : Shape.Fit} (h : fit.place.Assigns fit.found.name u) :
    (ofFit fit).stop = u.passed := by
  obtain ⟨y, z, hword, hskip, hu⟩ := h.sign
  obtain ⟨gap, hgap, heq⟩ := hskip.takeWhile_eq (beforeSign_of_equals hu).beforeInk
  have hrest : fit.place.after.drop fit.found.name.length = y.after := by
    rw [hword.leads.1, List.drop_left]
  have hy := hword.leads.passed_eq
  have hz := hgap.passed_eq
  have hpassed := hu.passed_eq
  rw [List.length_singleton] at hpassed
  rw [ofFit, hrest, ← heq]
  show fit.place.passed + fit.found.name.length + gap.length + 1 = u.passed
  omega

theorem assigns_iff_standsOn {a : Assignment} : a.StandsOn line ↔
    ∃ front x u, (Place.start line.toList).Leads front x ∧ x.Assigns a.name.toList u ∧
      a.start = x.passed ∧ a.stop = u.passed := by
  have hlast : ∀ {front : List Char} {x : Place}, (Place.start line.toList).Leads front x →
      x.before.head? = front.getLast? ∧ x.passed = front.length := by
    intro front x hx
    refine ⟨?_, by rw [hx.passed_eq]; exact Nat.zero_add _⟩
    rw [hx.2, Place.start, List.append_nil, List.head?_reverse]
  constructor
  · rintro ⟨front, gap, back, hline, hname, hbefore, hgap, hequals, harrow, hstart, hstop⟩
    have hsplit : (Place.start line.toList).after =
        front ++ (a.name.toList ++ (gap ++ (['='] ++ back))) := by simp [Place.start, hline]
    obtain ⟨x, hx, hxafter⟩ := Place.exists_leads hsplit
    obtain ⟨y, hy, hyafter⟩ := Place.exists_leads hxafter
    obtain ⟨z, hz, hzafter⟩ := Place.exists_leads hyafter
    obtain ⟨u, hu, huafter⟩ := Place.exists_leads hzafter
    obtain ⟨hhead, hpassed⟩ := hlast hx
    have hskip : y.Skips z := ⟨gap, hz, hgap⟩
    have hword : x.Word a.name.toList y :=
      ⟨hy, hname, hhead ▸ hbefore, hskip.not_isWordChar (beforeSign_of_equals hu)⟩
    refine ⟨front, x, u, hx, ⟨⟨y, z, hword, hskip, hu⟩, huafter ▸ hequals, huafter ▸ harrow⟩, ?_, ?_⟩
    · rw [hstart, hpassed]
    · have hypassed := hy.passed_eq
      have hzpassed := hz.passed_eq
      have hupassed := hu.passed_eq
      rw [List.length_singleton] at hupassed
      omega
  · rintro ⟨front, x, u, hx, ⟨⟨y, z, hword, ⟨gap, hgap, hblank⟩, hu⟩, hequals, harrow⟩, hstart, hstop⟩
    obtain ⟨hhead, hpassed⟩ := hlast hx
    refine ⟨front, gap, u.after, ?_, hword.isIdentifier, hhead ▸ hword.before, hblank, hequals, harrow,
      hstart.trans hpassed, ?_⟩
    · have hline : line.toList = front ++ x.after := hx.1
      rw [hline, hword.leads.1, hgap.1, hu.1]
      simp
    · have hypassed := hword.leads.passed_eq
      have hzpassed := hgap.passed_eq
      have hupassed := hu.passed_eq
      rw [List.length_singleton] at hupassed
      omega

/-! ### The search -/

/-- Of two fits, the second one starts at or behind the equals sign of the first one, which takes one
character more. -/
def Precedes (f g : Shape.Fit) : Prop :=
  (Assignment.ofFit f).stop ≤ g.place.passed ∧ f.found.finish.passed = (Assignment.ofFit f).stop + 1

theorem precedes_of_assigns {y : Place} {other : Shape.Found} {c : Char} {passed : List Char}
    (hxy : x.Leads (c :: passed) y) (hx : assignedShape.at? x = some found)
    (hy : assignedShape.at? y = some other) : Precedes ⟨x, found⟩ ⟨y, other⟩ := by
  obtain ⟨u, hu, hfinish⟩ := at?_assignedShape.1 hx
  obtain ⟨v, hv, -⟩ := at?_assignedShape.1 hy
  obtain ⟨w, -, hword, -⟩ := hv.sign
  have hle : u.passed ≤ y.passed := hu.le_of_word hxy hword
  have hstop : (Assignment.ofFit ⟨x, found⟩).stop = u.passed := Assignment.stop_ofFit hu
  rw [Precedes, hstop]
  refine ⟨hle, ?_⟩
  rcases hfinish with ⟨hend, -⟩ | ⟨d, hd⟩
  · -- the second word stands behind the equals sign, so the line goes on there
    obtain ⟨rest, hrest⟩ := hu.exists_leads
    obtain ⟨ds, -, hds⟩ := hrest.of_le hxy hle
    have hnil : y.after = [] := (List.append_eq_nil_iff.1 (hds.1.symm.trans hend)).2
    have hhead := hword.isWordChar_head?
    rw [hnil] at hhead
    exact Bool.noConfusion hhead
  · exact hd.passed_eq

theorem pairwise_precedes (text : List Char) :
    (assignedShape.fitsFrom (.start text)).Pairwise Precedes := by
  refine (pairwise_onward (.start text)).filterMap _ ?_
  rintro x y ⟨c, passed, hxy⟩ f hf g hg
  obtain ⟨found, hfound, rfl⟩ := Option.map_eq_some_iff.1 hf
  obtain ⟨other, hother, rfl⟩ := Option.map_eq_some_iff.1 hg
  exact precedes_of_assigns hxy hfound hother

theorem start_lt_stop {fit : Shape.Fit} (h : assignedShape.at? fit.place = some fit.found) :
    fit.place.passed + 1 < (Assignment.ofFit fit).stop := by
  obtain ⟨u, hu, -⟩ := at?_assignedShape.1 h
  rw [Assignment.stop_ofFit hu]
  exact hu.passed_lt

/-- The fits that a search takes are those that do not touch the last one that it took. -/
theorem map_taken : ∀ (fits : List Shape.Fit) (free : Nat), fits.Pairwise Precedes →
    (∀ fit ∈ fits, assignedShape.at? fit.place = some fit.found) →
    (∀ fit ∈ fits.head?, free ≤ fit.place.passed) →
      (Shape.Fit.taken free fits).map Assignment.ofFit = unglued (fits.map Assignment.ofFit)
  | [], _, _, _, _ => rfl
  | [f], free, _, _, hfree => by
    rw [Shape.Fit.taken, if_neg (Nat.not_lt.2 (hfree f rfl))]
    rfl
  | f :: g :: rest, free, hpairs, hfits, hfree => by
    obtain ⟨hf, hrest⟩ := List.pairwise_cons.1 hpairs
    obtain ⟨hg, hmore⟩ := List.pairwise_cons.1 hrest
    obtain ⟨hle, hfinish⟩ := hf g List.mem_cons_self
    have hfits' := fun fit hfit => hfits fit (List.mem_cons_of_mem f hfit)
    rw [Shape.Fit.taken, if_neg (Nat.not_lt.2 (hfree f rfl)), List.map_cons, List.map_cons,
      List.map_cons, unglued]
    show _ = if g.place.passed = _ then _ else _
    split
    · rename_i hglued
      -- the second fit is passed over, and the third one starts behind it
      have hskipped : g.place.passed < f.found.finish.passed := by omega
      rw [Shape.Fit.taken, if_pos hskipped,
        map_taken rest _ hmore fun fit hfit => hfits' fit (List.mem_cons_of_mem g hfit)]
      intro h hh
      have hstop := start_lt_stop (hfits' g List.mem_cons_self)
      have := (hg h (List.mem_of_head? hh)).1
      omega
    · rename_i hglued
      rw [map_taken (g :: rest) _ hrest hfits']
      · rfl
      · intro h hh
        obtain rfl : g = h := Option.some.inj hh
        omega

/-- The assignments of a line, from left to right. -/
def assignments (line : String) : List Assignment :=
  (assignedShape.fitsFrom (.start line.toList)).map Assignment.ofFit

theorem mem_assignments {a : Assignment} : a ∈ assignments line ↔ a.StandsOn line := by
  rw [assignments, List.mem_map, assigns_iff_standsOn]
  simp only [Shape.mem_fitsFrom]
  constructor
  · rintro ⟨fit, ⟨⟨front, hfront⟩, hfound⟩, rfl⟩
    obtain ⟨u, hu, -⟩ := at?_assignedShape.1 hfound
    refine ⟨front, fit.place, u, hfront, ?_, rfl, Assignment.stop_ofFit hu⟩
    exact (String.toList_ofList (l := fit.found.name)).symm ▸ hu
  · rintro ⟨front, x, u, hfront, hu, hstart, hstop⟩
    obtain ⟨finish, hfinish⟩ : ∃ finish, u.after = [] ∧ finish = u ∨ ∃ c, u.Leads [c] finish := by
      cases hafter : u.after with
      | nil => exact ⟨u, .inl ⟨rfl, rfl⟩⟩
      | cons c rest => exact ⟨u.behind c rest, .inr ⟨c, leads_behind hafter⟩⟩
    have hfound : assignedShape.at? x = some ⟨a.name.toList, finish⟩ :=
      at?_assignedShape.2 ⟨u, hu, hfinish⟩
    refine ⟨⟨x, ⟨a.name.toList, finish⟩⟩, ⟨⟨front, hfront⟩, hfound⟩, ?_⟩
    have hofFit : (Assignment.ofFit ⟨x, a.name.toList, finish⟩).stop = u.passed :=
      Assignment.stop_ofFit hu
    exact Assignment.ext String.ofList_toList hstart.symm (hofFit.trans hstop.symm)

theorem pairwise_assignments (line : String) :
    (assignments line).Pairwise fun a b => a.stop ≤ b.start :=
  List.pairwise_map.2 ((pairwise_precedes line.toList).imp fun h => h.1)

theorem assigned_eq (line : String) : assigned line = (unglued (assignments line)).map (·.name) := by
  have hfits : ∀ fit ∈ assignedShape.fitsFrom (.start line.toList),
      assignedShape.at? fit.place = some fit.found :=
    fun fit hfit => (Shape.mem_fitsFrom.1 hfit).2
  have htaken := map_taken _ 0 (pairwise_precedes line.toList) hfits fun _ _ => Nat.zero_le _
  rw [assigned, Shape.namesIn, Shape.all_eq_taken, List.map_map, assignments, ← htaken, List.map_map]
  rfl

theorem Assignment.StandsOn.mem_words {a : Assignment} (h : a.StandsOn line) : a.name ∈ words line := by
  obtain ⟨front, x, u, hfront, hu, -⟩ := assigns_iff_standsOn.1 h
  obtain ⟨y, -, hword, -⟩ := hu.sign
  exact mem_words_iff.2 ⟨front, x, y, hfront, hword⟩

/-- **The names that a line assigns to**: the assignments of a line are whole words in front of an
equals sign that neither compares nor makes an arrow. From left to right, all their names are found
except that of an assignment which starts right behind the equals sign of one whose name is found. -/
theorem assigned_exact (line : String) : ∃ all : List Assignment,
    (∀ a, a ∈ all ↔ a.StandsOn line) ∧ (all.Pairwise fun a b => a.stop ≤ b.start) ∧
      (∀ a ∈ all, a.name ∈ words line) ∧ assigned line = (unglued all).map (·.name) ∧
      (assigned line = all.map (·.name) ↔ all.IsChain fun a b => b.start ≠ a.stop) := by
  refine ⟨assignments line, fun a => mem_assignments, pairwise_assignments line,
    fun a ha => (mem_assignments.1 ha).mem_words, assigned_eq line, ?_⟩
  rw [assigned_eq, ← unglued_eq_self_iff]
  constructor
  · intro heq
    refine (unglued_sublist _).eq_of_length ?_
    rw [← List.length_map (f := fun a : Assignment => a.name), heq, List.length_map]
  · exact congrArg _

/-- A name between two equals signs is assigned to, but not found. -/
theorem chained_assignment_is_missed : Assignment.StandsOn ⟨"b", 2, 4⟩ "a=b=1" ∧
    "b" ∈ words "a=b=1" ∧ assigned "a=b=1" = ["a"] := by
  refine ⟨⟨['a', '='], [], ['1'], rfl, ?_⟩, by decide +kernel, by decide +kernel⟩
  exact ⟨by decide, by decide, nofun, by decide, by decide, rfl, rfl⟩

end Line

end LineKin
