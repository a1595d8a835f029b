import LineKin.Proofs.Pattern.Settled

/-!
# Searching padded texts

A text that is padded with blanks shows the same names as the text itself: all fits of a shape
(`Shape.all_padded`), the leftmost one (`Shape.first?_padded`) and the one at the beginning of the text
(`Shape.atStart?_padded`). A search may start in front of the text and go on behind it, so it must find
nothing in front of a blank (`Shape.startsInk`); at the beginning of a text, the shape has to pass the
blanks itself (`Shape.anchored`).

A pattern alone is a shape that yields no name (`Shape.spot`), so that the same holds of the tests
whether a pattern occurs in a text or opens it.
-/

namespace LineKin

open Text

theorem Place.leads_start (front text : List Char) :
    (start (front ++ text)).Leads front ((start text).indent front.reverse) :=
  ⟨rfl, (List.append_nil front.reverse).symm⟩

namespace Shape

open Pattern Place

variable {s : Shape} {x y : Place} {front back cs text : List Char} {m n : Nat}

/-! ### The fits at a place -/

/-- The names and the ends of all fits at a place, preferred ones first. -/
def founds (s : Shape) (x : Place) : List Found :=
  (s.lead.ways x).flatMap fun start => (s.name.ways start).flatMap fun stop =>
    (s.trail.ways stop).map fun finish => ⟨start.upTo stop, finish⟩

theorem at?_eq_head? (s : Shape) (x : Place) : s.at? x = (s.founds x).head? := by
  simp only [at?, founds, ← List.head?_map, List.map_flatMap, List.map_map]
  rfl

theorem exists_leads_of_mem_founds {found : Found} (h : found ∈ s.founds x) :
    ∃ passed, x.Leads passed found.finish := by
  simp only [founds, List.mem_flatMap, List.mem_map] at h
  obtain ⟨start, hstart, stop, hstop, finish, hfinish, rfl⟩ := h
  obtain ⟨as, has⟩ := exists_leads_of_mem_ways hstart
  obtain ⟨bs, hbs⟩ := exists_leads_of_mem_ways hstop
  obtain ⟨cs, hcs⟩ := exists_leads_of_mem_ways hfinish
  exact ⟨as ++ bs ++ cs, (has.trans hbs).trans hcs⟩

/-- A find in a line and one in the padded line have the same name and end at places that meet. -/
structure Found.Agrees (back : List Char) (f g : Found) : Prop where
  /-- The names. -/
  name_eq : f.name = g.name
  /-- The ends. -/
  finish : f.finish.Meets back g.finish

/-- Whether blanks at the end of a line change no fit of the shape. -/
structure Settled (s : Shape) : Prop where
  /-- The fits at a place of a line and of the padded line. -/
  founds_agree : ∀ {back : List Char}, AllBlank back → ∀ x : Place,
    List.Forall₂ (Found.Agrees back) (s.founds x) (s.founds (x.extend back))

/-- Whether neither the lead nor the name of a shape that fits ends behind blanks at the end of a
line, as far as their form tells. -/
def endsInside (s : Shape) : Bool :=
  s.lead.endFree && s.name.endFree && (s.lead.inkLast || s.name.needsInk || s.trail.needsInk) &&
    (s.name.inkLast || s.trail.needsInk)

theorem upTo_extend (h : y ∈ s.name.ways x) : (x.extend back).upTo (y.extend back) = x.upTo y := by
  obtain ⟨cs, hcs⟩ := exists_leads_of_mem_ways h
  rw [hcs.upTo_eq, (hcs.extend back).upTo_eq]

theorem Settled.of_endsInside (hs : s.endsInside = true) (htrail : s.trail.Settled) : s.Settled := by
  refine ⟨fun {back} h x => ?_⟩
  simp only [endsInside, Bool.and_eq_true, Bool.or_eq_true] at hs
  obtain ⟨⟨⟨hlead, hname⟩, hstart⟩, hstop⟩ := hs
  -- a lead that ends in the blanks at the end is followed by nothing
  have hleadOut : ∀ start ∈ s.lead.ways (x.extend back), start.within back = false →
      (s.name.ways start).flatMap (fun stop =>
        (s.trail.ways stop).map fun finish => Found.mk (start.upTo stop) finish) = [] := by
    intro start hmem hout
    have hblank := allBlank_of_not_within h hmem hout
    rcases hstart with (hlast | hneeds) | hneeds
    · rw [within_of_inkLast hlead hlast h hmem] at hout
      exact Bool.noConfusion hout
    · rw [ways_eq_nil_of_needsInk hneeds hblank, List.flatMap_nil]
    · exact List.flatMap_eq_nil_iff.2 fun stop hstop => by
        rw [ways_eq_nil_of_needsInk hneeds (allBlank_of_mem_ways hblank hstop), List.map_nil]
  -- and so is a name
  have hnameOut : ∀ start : Place, ∀ stop ∈ s.name.ways (start.extend back), stop.within back = false →
      (s.trail.ways stop).map (fun finish => Found.mk ((start.extend back).upTo stop) finish) = [] := by
    intro start stop hmem hout
    rcases hstop with hlast | hneeds
    · rw [within_of_inkLast hname hlast h hmem] at hout
      exact Bool.noConfusion hout
    · rw [ways_eq_nil_of_needsInk hneeds (allBlank_of_not_within h hmem hout), List.map_nil]
  rw [founds, founds, flatMap_ways_extend hlead h hleadOut]
  refine List.rel_flatMap (R := Eq) (List.forall₂_eq_eq_eq ▸ rfl) ?_
  rintro start _ rfl
  beta_reduce
  rw [flatMap_ways_extend hname h (hnameOut start)]
  refine List.rel_flatMap (R := fun a b => a = b ∧ a ∈ s.name.ways start) ?_ ?_
  · exact List.forall₂_same.2 fun stop hstop => ⟨rfl, hstop⟩
  · rintro stop _ ⟨rfl, hstop⟩
    rw [List.forall₂_map_left_iff, List.forall₂_map_right_iff, upTo_extend hstop]
    exact (htrail.ways_meet h stop).imp fun _ _ hfinish => ⟨rfl, hfinish⟩

/-- Whether blanks at the end of a line make no difference to the shape, as far as its form tells. -/
def settles (s : Shape) : Bool := s.endsInside && s.trail.firm

theorem Settled.of_settles (hs : s.settles = true) : s.Settled := by
  rw [settles, Bool.and_eq_true] at hs
  exact of_endsInside hs.1 (.of_firm hs.2)

/-- The fit at a place of a line and the one in the padded line. -/
theorem Settled.at?_extend (hs : s.Settled) (h : AllBlank back) (x : Place) :
    (s.at? x = none ∧ s.at? (x.extend back) = none) ∨
      ∃ f g, s.at? x = some f ∧ s.at? (x.extend back) = some g ∧ f.Agrees back g := by
  have hfounds := hs.founds_agree h x
  rw [at?_eq_head?, at?_eq_head?]
  generalize s.founds x = fs at hfounds
  generalize s.founds (x.extend back) = gs at hfounds
  cases hfounds with
  | nil => exact .inl ⟨rfl, rfl⟩
  | cons hagree _ => exact .inr ⟨_, _, rfl, rfl, hagree⟩

theorem founds_indent (h : front.head?.any isWordChar = false) (x : Place) :
    s.founds (x.indent front) = (s.founds x).map fun found => ⟨found.name, found.finish.indent front⟩ := by
  have hupTo : ∀ start stop : Place, (start.indent front).upTo (stop.indent front) = start.upTo stop :=
    fun start stop => congrArg start.after.take (Nat.add_sub_add_right ..)
  simp only [founds, ways_indent _ h, List.flatMap_map, List.map_flatMap, List.map_map, hupTo]
  rfl

/-- Whether the shape fits nowhere in front of a blank, as far as its form tells. -/
def startsInk (s : Shape) : Bool := (s.lead ++ s.name ++ s.trail).atBlank == .fails

theorem at?_of_startsInk (hs : s.startsInk = true) (hx : x.BeforeBlank) : s.at? x = none := by
  have hnone := ways_eq_nil_of_fails (eq_of_beq hs) hx
  rw [at?_eq_head?, List.head?_eq_none_iff, founds]
  simp only [ways_sequence, List.flatMap_eq_nil_iff, List.mem_flatMap] at hnone
  simp only [List.flatMap_eq_nil_iff, List.map_eq_nil_iff]
  exact fun start hstart stop hstop => hnone stop ⟨start, hstart, hstop⟩

/-! ### All fits in a text -/

theorem allFrom_blanks (hs : s.startsInk = true) (h : AllBlank x.after) (n : Nat) :
    s.allFrom [] n x x.after = [] := by
  generalize hcs : x.after = cs at h
  induction cs generalizing x n with
  | nil =>
    rw [← hcs] at h
    cases n <;> simp [allFrom, at?_of_startsInk hs (.of_allBlank h)]
  | cons c rest ih =>
    cases n with
    | zero =>
      rw [allFrom, at?_of_startsInk hs (.of_after hcs h.of_cons.1)]
      exact ih 0 rfl h.of_cons.2
    | succ n => exact ih n rfl h.of_cons.2

/-- Nothing is found in the blanks on the way to a place. -/
theorem allFrom_of_leads (hs : s.startsInk = true) (hfront : AllBlank front) (h : x.Leads front y) :
    s.allFrom [] 0 x x.after = s.allFrom [] 0 y y.after := by
  induction front generalizing x with
  | nil => rw [Place.ext h.2 h.1.symm]
  | cons c rest ih =>
    have hafter : x.after = c :: (rest ++ y.after) := h.1
    rw [hafter, allFrom, at?_of_startsInk hs (.of_after hafter hfront.of_cons.1)]
    exact ih hfront.of_cons.2 h.of_cons

theorem allFrom_indent (h : AllBlank front) (n : Nat) (x : Place) (cs : List Char) :
    s.allFrom [] n (x.indent front) cs = s.allFrom [] n x cs := by
  have hat : ∀ x : Place, s.at? (x.indent front) =
      (s.at? x).map fun found => ⟨found.name, found.finish.indent front⟩ := by
    intro x
    rw [at?_eq_head?, at?_eq_head?, founds_indent (h.any_head? rejectsBlanks_isWordChar), List.head?_map]
  induction cs generalizing n x with
  | nil =>
    have hnames : ∀ found : Option Found,
        (found.map fun f => (⟨f.name, f.finish.indent front⟩ : Found)).toList.map (·.name) =
          found.toList.map (·.name) := by
      intro found
      cases found <;> rfl
    rw [allFrom, allFrom, hat, hnames]
  | cons c rest ih =>
    cases n with
    | succ n =>
      rw [allFrom, allFrom, behind_indent]
      exact ih n (x.behind c rest)
    | zero =>
      rw [allFrom, allFrom, hat, behind_indent]
      cases s.at? x with
      | none => exact ih 0 (x.behind c rest)
      | some found =>
        have hskip : (found.finish.indent front).passed - ((x.indent front).passed + 1) =
            found.finish.passed - (x.passed + 1) := by
          show found.finish.passed + front.length - (x.passed + front.length + 1) = _
          omega
        show s.allFrom [found.name] _ _ _ = s.allFrom [found.name] _ _ _
        rw [hskip, allFrom_append, allFrom_append _ [found.name] _ (x.behind c rest)]
        exact congrArg _ (ih _ (x.behind c rest))

/-- Finds that agree skip equally many of the next characters, or else all that the line has. -/
theorem Found.Agrees.skip {f g : Found} {c : Char} {rest : List Char} (h : f.Agrees back g)
    (hf : f ∈ s.founds x) (hx : x.after = c :: rest) :
    f.finish.passed - (x.passed + 1) = g.finish.passed - (x.passed + 1) ∨
      rest.length ≤ f.finish.passed - (x.passed + 1) ∧
        f.finish.passed - (x.passed + 1) ≤ g.finish.passed - (x.passed + 1) := by
  rcases h.finish with hmeets | ⟨hend, hle⟩
  · exact .inl (by rw [hmeets]; rfl)
  · obtain ⟨passed, hleads⟩ := exists_leads_of_mem_founds hf
    have hlen := hleads.length_eq
    have hpassed := congrArg List.length hleads.2
    rw [List.length_append, List.length_reverse, ← x.passed_eq, ← f.finish.passed_eq] at hpassed
    rw [hx, hend, List.length_cons, List.length_nil] at hlen
    omega

/-- Blanks at the end of a line do not change what is found. A fit that takes in the rest of the line
may skip more of the padded one. -/
theorem allFrom_extend (hs : s.Settled) (hi : s.startsInk = true) (h : AllBlank back)
    (hskip : m = n ∨ x.after.length ≤ m ∧ m ≤ n) :
    s.allFrom [] n (x.extend back) (x.after ++ back) = s.allFrom [] m x x.after := by
  generalize hcs : x.after = cs at hskip
  induction cs generalizing x m n with
  | nil =>
    have hafter : (x.extend back).after = [] ++ back := congrArg (· ++ back) hcs
    have hnone := allFrom_blanks (x := x.extend back) hi (hafter ▸ h) n
    have hnone' := allFrom_blanks (x := x) hi (hcs ▸ nofun) m
    rw [hafter] at hnone
    rw [hcs] at hnone'
    rw [hnone, hnone']
  | cons c rest ih =>
    have hih : ∀ {m n : Nat}, m = n ∨ rest.length ≤ m ∧ m ≤ n →
        s.allFrom [] n ((x.extend back).behind c (rest ++ back)) (rest ++ back) =
          s.allFrom [] m (x.behind c rest) rest := behind_extend ▸ ih rfl
    rw [List.length_cons] at hskip
    cases m with
    | succ m =>
      obtain ⟨n, rfl⟩ : ∃ k, n = k + 1 := ⟨n - 1, by omega⟩
      exact hih (by omega)
    | zero =>
      obtain rfl : n = 0 := by omega
      rw [List.cons_append, allFrom, allFrom]
      rcases hs.at?_extend h x with ⟨hx, hx'⟩ | ⟨f, g, hf, hg, hagree⟩
      · rw [hx, hx']
        exact hih (.inl rfl)
      · rw [hf, hg]
        show s.allFrom [g.name] _ _ _ = s.allFrom [f.name] _ _ _
        rw [allFrom_append, allFrom_append _ [f.name], hagree.name_eq]
        have hmem : f ∈ s.founds x := List.mem_of_head? (at?_eq_head? s x ▸ hf)
        exact congrArg _ (hih (hagree.skip hmem hcs))

/-- **A padded text shows the same names** to a search for all fits. -/
theorem all_padded (hs : s.Settled) (hi : s.startsInk = true) (hfront : AllBlank front)
    (hback : AllBlank back) : s.all (front ++ text ++ back) = s.all text := by
  rw [all, all, List.append_assoc]
  exact (allFrom_of_leads hi hfront (leads_start front (text ++ back))).trans
    ((allFrom_indent hfront.reverse 0 (.start (text ++ back)) (text ++ back)).trans
      (allFrom_extend (x := .start text) hs hi hback (.inl rfl)))

/-! ### The leftmost fit -/

theorem firstFrom?_eq (s : Shape) (x : Place) (cs : List Char) :
    s.firstFrom? x cs = (s.allFrom [] 0 x cs).head? := by
  induction cs generalizing x with
  | nil =>
    rw [firstFrom?, allFrom]
    cases s.at? x <;> rfl
  | cons c rest ih =>
    rw [firstFrom?, allFrom]
    cases s.at? x with
    | none => exact ih (x.behind c rest)
    | some found =>
      show some found.name = (s.allFrom [found.name] _ _ _).head?
      rw [allFrom_append]
      rfl

theorem first?_padded (hs : s.Settled) (hi : s.startsInk = true) (hfront : AllBlank front)
    (hback : AllBlank back) : s.first? (front ++ text ++ back) = s.first? text := by
  rw [first?, first?, firstFrom?_eq, firstFrom?_eq]
  exact congrArg List.head? (all_padded hs hi hfront hback)

/-! ### The fit at the beginning -/

/-- Whether the shape passes all blanks first, as far as its form tells. -/
def anchored (s : Shape) : Bool :=
  s.lead.anchored || (s.lead.passesBlanks && s.name.atBlank == .fails)

theorem founds_of_anchored {c : Char} {rest : List Char} (hs : s.anchored = true)
    (hx : x.after = c :: rest) (hc : isBlank c = true) : s.founds x = s.founds (x.behind c rest) := by
  rw [anchored, Bool.or_eq_true, Bool.and_eq_true, beq_iff_eq] at hs
  rw [founds, founds]
  rcases hs with hs | ⟨hlead, hname⟩
  · rw [ways_of_anchored hs hx hc]
  · obtain ⟨stay, heq, hstay⟩ := exists_ways_of_passesBlanks hlead hx hc
    rw [heq, List.flatMap_append]
    refine List.append_right_eq_self.2 (List.flatMap_eq_nil_iff.2 fun y hy => ?_)
    rw [hstay y hy, ways_eq_nil_of_fails hname (.of_after hx hc), List.flatMap_nil]

theorem founds_of_leads (hs : s.anchored = true) (hfront : AllBlank front) (h : x.Leads front y) :
    s.founds x = s.founds y := by
  induction front generalizing x with
  | nil => rw [Place.ext h.2 h.1.symm]
  | cons c rest ih =>
    rw [founds_of_anchored hs h.1 hfront.of_cons.1]
    exact ih hfront.of_cons.2 h.of_cons

/-- A padded text shows the same name at its beginning. -/
theorem atStart?_padded (hs : s.Settled) (ha : s.anchored = true) (hfront : AllBlank front)
    (hback : AllBlank back) : s.atStart? (front ++ text ++ back) = s.atStart? text := by
  have hstart : s.founds (.start (front ++ text ++ back)) =
      (s.founds ((Place.start text).extend back)).map fun found =>
        ⟨found.name, found.finish.indent front.reverse⟩ := by
    rw [List.append_assoc, founds_of_leads ha hfront (leads_start front (text ++ back)),
      founds_indent (hfront.reverse.any_head? rejectsBlanks_isWordChar)]
    rfl
  rw [atStart?, atStart?, at?_eq_head? s (.start (front ++ text ++ back)), hstart, List.head?_map,
    ← at?_eq_head?, Option.map_map]
  rcases hs.at?_extend hback (.start text) with ⟨hx, hx'⟩ | ⟨f, g, hf, hg, hagree⟩
  · rw [hx, hx']
    rfl
  · rw [hf, hg, Option.map_some, Option.map_some, hagree.name_eq]
    rfl

/-! ### Patterns alone -/

/-- The shape of a pattern that yields no name. -/
def spot (p : Pattern) : Shape := { lead := p, name := .nothing }

variable {p : Pattern}

theorem founds_spot (p : Pattern) (x : Place) :
    (spot p).founds x = (p.ways x).map fun finish => ⟨[], finish⟩ := by
  have hnone : ∀ y : Place, y.upTo y = [] := fun y => (Leads.refl y).upTo_eq
  simp [founds, spot, hnone, List.map_eq_flatMap]

theorem Settled.of_pattern (hp : p.Settled) : (spot p).Settled := by
  refine ⟨fun {back} h x => ?_⟩
  rw [founds_spot, founds_spot, List.forall₂_map_left_iff, List.forall₂_map_right_iff]
  exact (hp.ways_meet h x).imp fun _ _ hfinish => ⟨rfl, hfinish⟩

theorem isSome_at?_spot (p : Pattern) (x : Place) : ((spot p).at? x).isSome = p.fits x := by
  rw [at?_eq_head?, founds_spot, List.head?_map, Option.isSome_map, fits]
  cases p.ways x <;> rfl

theorem occursFrom_eq (p : Pattern) (x : Place) (cs : List Char) :
    p.occursFrom x cs = ((spot p).firstFrom? x cs).isSome := by
  induction cs generalizing x with
  | nil => rw [occursFrom, firstFrom?, Option.isSome_map, isSome_at?_spot]
  | cons c rest ih =>
    rw [occursFrom, firstFrom?, ← isSome_at?_spot, ih]
    cases (spot p).at? x <;> rfl

theorem startsInk_spot (hi : p.atBlank = .fails) : (spot p).startsInk = true :=
  beq_iff_eq.2 (atBlank_append_of_fails (atBlank_append_of_fails hi))

theorem occursIn_blanks (hi : p.atBlank = .fails) (h : AllBlank text) : p.occursIn text = false := by
  rw [occursIn, occursFrom_eq, firstFrom?_eq]
  exact congrArg (fun names => names.head?.isSome)
    (allFrom_blanks (x := .start text) (startsInk_spot hi) h 0)

/-- A pattern occurs in a padded text if it occurs in the text. -/
theorem occursIn_padded (hp : p.Settled) (hi : p.atBlank = .fails) (hfront : AllBlank front)
    (hback : AllBlank back) : p.occursIn (front ++ text ++ back) = p.occursIn text := by
  rw [occursIn, occursIn, occursFrom_eq, occursFrom_eq]
  exact congrArg Option.isSome (first?_padded (.of_pattern hp) (startsInk_spot hi) hfront hback)

/-- A pattern that passes blanks opens a padded text if it opens the text. -/
theorem opens_padded (hp : p.Settled) (ha : p.anchored = true) (hfront : AllBlank front)
    (hback : AllBlank back) : p.opens (front ++ text ++ back) = p.opens text := by
  have hanchored : (spot p).anchored = true := by rw [anchored, spot, ha, Bool.true_or]
  have hopens : ∀ text, p.opens text = ((spot p).atStart? text).isSome := fun text => by
    rw [opens, ← isSome_at?_spot, atStart?, Option.isSome_map]
  rw [hopens, hopens, atStart?_padded (.of_pattern hp) hanchored hfront hback]

end Shape

end LineKin
