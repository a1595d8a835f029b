import LineKin.Proofs.Line.Words

/-!
# Where one way goes on

A pattern may end at many places, but where it is known what stands ahead, all of them but one come to
nothing. So the ways of a sequence are those of its second part behind that place: behind all blanks
(`flatMap_blanks`, `flatMap_gap`), behind a whole name (`flatMap_name`), behind the text of a word
(`ways_text_of_leads`). What follows must fit neither in front of a blank nor inside a name.

A word with something behind it that ends a name fits nowhere else than in front of that word
(`ways_text_gap_eq_nil`, `ways_text_wordEdge_eq_nil`).
-/

namespace LineKin

open Text Line

/-! ### What stands ahead of a place -/

namespace Place

variable {x y : Place} {cs word : List Char}

/-- The characters of names ahead of a place, up to the first other one. -/
def ahead (x : Place) : List Char := x.after.takeWhile isNamePart

/-- The character ahead is neither a blank nor missing. -/
def BeforeInk (x : Place) : Prop := x.after.head?.any (fun c => !isBlank c) = true

/-- No character of a name is ahead. -/
def BeforeEnd (x : Place) : Prop := x.after.head?.any isNamePart = false

/-- The characters on both sides of the place are characters of names. -/
structure Inside (x : Place) : Prop where
  /-- The character passed last. -/
  before : x.before.head?.any isNamePart = true
  /-- The character ahead. -/
  after : x.after.head?.any isNamePart = true

theorem BeforeEnd.of_beforeBlank (h : x.BeforeBlank) : x.BeforeEnd := by
  rw [BeforeEnd]
  cases hx : x.after with
  | nil => rfl
  | cons c rest => exact eq_false_of_rejectsBlanks rejectsBlanks_isNamePart (h c (by rw [hx]; rfl))

theorem BeforeInk.exists_cons (h : x.BeforeInk) : ∃ c rest, x.after = c :: rest ∧ isBlank c = false := by
  rw [BeforeInk] at h
  cases hx : x.after with
  | nil =>
    rw [hx] at h
    exact Bool.noConfusion h
  | cons c rest =>
    rw [hx] at h
    exact ⟨c, rest, rfl, by simpa using h⟩

/-- A word of characters of names that ends is what stands ahead. -/
theorem Leads.ahead_eq (h : x.Leads word y) (hword : ∀ c ∈ word, isNamePart c = true)
    (hy : y.BeforeEnd) : x.ahead = word := by
  have hstop : y.after.takeWhile isNamePart = [] := by
    cases hafter : y.after with
    | nil => rfl
    | cons c rest =>
      rw [BeforeEnd, hafter, List.head?_cons, Option.any_some] at hy
      exact List.takeWhile_cons_of_neg (by simp [hy])
  rw [ahead, h.1, List.takeWhile_append_of_pos hword, hstop, List.append_nil]

theorem BeforeEnd.ahead_eq (h : x.BeforeEnd) : x.ahead = [] :=
  (Leads.refl x).ahead_eq nofun h

end Place

/-! ### What comes to nothing in front of a blank -/

section Blank

variable {α : Type} {f : Place → List α} {p : Pattern}

/-- Nothing comes of a place in front of a blank or at the end of a line. -/
def FailsAtBlank (f : Place → List α) : Prop := ∀ x : Place, x.BeforeBlank → f x = []

theorem FailsAtBlank.ways (hp : p.atBlank = .fails) : FailsAtBlank fun x => p.ways x :=
  fun _ hx => Pattern.ways_eq_nil_of_fails hp hx

theorem FailsAtBlank.flatMap (hp : p.atBlank = .fails) : FailsAtBlank fun x => (p.ways x).flatMap f := by
  intro x hx
  beta_reduce
  rw [Pattern.ways_eq_nil_of_fails hp hx, List.flatMap_nil]

end Blank

/-! ### Ways that come to something -/

namespace Pattern

open Place

variable {α : Type} {f : Place → List α} {allowed : Char → Bool} {x y z : Place} {cs word : List Char}
  {p : Pattern} {s : String}

theorem ways_one_eq_nil (h : x.after.head?.any allowed = false) : (one allowed).ways x = [] := by
  cases hafter : x.after with
  | nil => exact ways_one_nil hafter
  | cons c rest =>
    rw [hafter, List.head?_cons, Option.any_some] at h
    rw [ways_one_cons hafter, if_neg (by simp [h])]

/-- If nothing follows in front of a character of its class, a run goes on to the last one. -/
theorem flatMap_run (h : x.Leads cs y) (hcs : ∀ c ∈ cs, allowed c = true)
    (hy : y.after.head?.any allowed = false)
    (hf : ∀ ds c rest z, cs = ds ++ c :: rest → x.Leads ds z → z.Leads (c :: rest) y → f z = []) :
    ((run allowed).ways x).flatMap f = f y := by
  induction cs generalizing x with
  | nil =>
    obtain rfl := h.unique (.refl x)
    cases hafter : y.after with
    | nil => rw [ways_run_nil hafter, List.flatMap_singleton]
    | cons c rest =>
      rw [hafter, List.head?_cons, Option.any_some] at hy
      rw [ways_run_cons hafter, if_neg (by simp [hy]), List.flatMap_singleton]
  | cons c cs ih =>
    have hhere : f x = [] := hf [] c cs x rfl (.refl x) h
    have hafter : x.after = c :: (cs ++ y.after) := h.1
    have hstep := leads_behind hafter
    rw [ways_run_cons hafter, if_pos (hcs c List.mem_cons_self), List.flatMap_append,
      List.flatMap_singleton, hhere, List.append_nil]
    refine ih h.of_cons (fun d hd => hcs d (List.mem_cons_of_mem _ hd)) fun ds d rest z heq hz hrest => ?_
    exact hf (c :: ds) d rest z (by rw [heq, List.cons_append]) (hstep.trans hz) hrest

theorem flatMap_blanks (hf : FailsAtBlank f) (h : x.Leads cs y) (hcs : AllBlank cs)
    (hy : y.BeforeInk) : (blanks.ways x).flatMap f = f y := by
  refine flatMap_run h hcs ?_ fun ds c rest z heq _ hz => hf z (.of_after hz.1 ?_)
  · obtain ⟨c, rest, hafter, hc⟩ := hy.exists_cons
    rw [hafter, List.head?_cons, Option.any_some, hc]
  · exact hcs c (heq ▸ List.mem_append_right ds List.mem_cons_self)

theorem flatMap_gap (hf : FailsAtBlank f) (h : x.Leads cs y) (hcs : AllBlank cs)
    (hne : cs ≠ []) (hy : y.BeforeInk) : (gap.ways x).flatMap f = f y := by
  obtain ⟨c, rest, rfl⟩ := List.exists_cons_of_ne_nil hne
  rw [gap, ways_sequence, List.flatMap_assoc, ways_one_cons h.1, if_pos hcs.of_cons.1,
    List.flatMap_singleton]
  exact flatMap_blanks hf h.of_cons hcs.of_cons.2 hy

theorem ways_gap_eq_nil (h : x.after.head?.any isBlank = false) : gap.ways x = [] := by
  rw [gap, ways_sequence, ways_one_eq_nil h, List.flatMap_nil]

/-- If nothing follows inside a name, a name goes on to its end. -/
theorem flatMap_name (hf : ∀ z : Place, z.Inside → f z = []) (h : x.Leads word y)
    (hword : IsIdentifier word) (hy : y.BeforeEnd) : (name.ways x).flatMap f = f y := by
  obtain ⟨c, rest, rfl, hstart, hrest⟩ := hword.exists_cons
  rw [name, ways_sequence, List.flatMap_assoc, ways_one_cons h.1, if_pos hstart, List.flatMap_singleton]
  refine flatMap_run h.of_cons hrest hy fun ds d more z heq hz hmore => hf z ⟨?_, ?_⟩
  · -- the character before the place is the first one of the name or one of the rest
    have hall : ∀ e ∈ c :: ds, isNamePart e = true := by
      intro e he
      refine hword.parts e (List.mem_cons.2 ((List.mem_cons.1 he).imp_right fun he => ?_))
      exact heq ▸ List.mem_append_left _ he
    have hpassed := (leads_behind h.1).trans hz
    rw [hpassed.2, List.singleton_append, List.head?_append, List.head?_reverse,
      List.getLast?_eq_some_getLast (List.cons_ne_nil c ds), Option.some_or, Option.any_some]
    exact hall _ (List.getLast_mem _)
  · rw [hmore.1, List.cons_append, List.head?_cons, Option.any_some]
    exact hrest d (heq ▸ List.mem_append_right ds List.mem_cons_self)

theorem ways_name_eq_nil (h : x.after.head?.any isNameStart = false) : name.ways x = [] := by
  rw [name, ways_sequence, ways_one_eq_nil h, List.flatMap_nil]

theorem flatMap_maybe : ((maybe p).ways x).flatMap f = (p.ways x).flatMap f ++ f x := by
  rw [maybe, ways_choice, ways_nothing, List.flatMap_append, List.flatMap_singleton]

theorem failsAtBlank_maybe (hp : p.atBlank = .fails) (hf : FailsAtBlank f) :
    FailsAtBlank fun x => ((maybe p).ways x).flatMap f := by
  intro x hx
  beta_reduce
  rw [flatMap_maybe, ways_eq_nil_of_fails hp hx, hf x hx, List.flatMap_nil, List.append_nil]

theorem ways_chars_of_leads (h : x.Leads cs y) : (chars cs).ways x = [y] := by
  induction cs generalizing x with
  | nil => rw [chars, ways_nothing, h.unique (.refl x)]
  | cons c cs ih =>
    rw [chars, ways_sequence, ways_one_cons h.1, if_pos (beq_self_eq_true c), List.flatMap_singleton]
    exact ih h.of_cons

theorem ways_text_of_leads (h : x.Leads s.toList y) : (text s).ways x = [y] := ways_chars_of_leads h

theorem ways_char_of_leads {c : Char} (h : x.Leads [c] y) : (Pattern.char c).ways x = [y] := by
  rw [Pattern.char, ways_one_cons h.1, if_pos (beq_self_eq_true c), h.unique (leads_behind h.1)]
  rfl

theorem ways_char_eq_nil {c : Char} (h : x.after.head? ≠ some c) : (Pattern.char c).ways x = [] := by
  refine ways_one_eq_nil (Bool.eq_false_iff.2 fun hany => h ?_)
  obtain ⟨d, hd, heq⟩ := (Option.any_eq_true ..).1 hany
  rw [hd, beq_iff_eq.1 heq]

/-! ### Words that are not ahead -/

theorem ways_text_gap_eq_nil (hs : IsIdentifier s.toList) (h : x.ahead ≠ s.toList) :
    (text s ++ gap).ways x = [] := by
  rw [ways_sequence, List.flatMap_eq_nil_iff]
  intro y hy
  have hleads := mem_ways_text.1 hy
  refine ways_gap_eq_nil (Bool.eq_false_iff.2 fun hblank => h ?_)
  refine hleads.ahead_eq hs.parts (.of_beforeBlank fun c hc => ?_)
  rwa [hc, Option.any_some] at hblank

theorem ways_text_wordEdge_eq_nil (hs : IsIdentifier s.toList) (h : x.ahead ≠ s.toList) :
    (text s ++ wordEdge).ways x = [] := by
  rw [ways_sequence, List.flatMap_eq_nil_iff]
  intro y hy
  have hleads := mem_ways_text.1 hy
  refine List.eq_nil_iff_forall_not_mem.2 fun z hz => h (hleads.ahead_eq hs.parts ?_)
  obtain ⟨-, hedge⟩ := mem_ways_wordEdge.1 hz
  rw [hleads.atWordEdge_end hs, Bool.not_eq_true'] at hedge
  rw [BeforeEnd]
  cases hafter : y.after with
  | nil => rfl
  | cons c rest =>
    rw [hafter, List.head?_cons, Option.any_some] at hedge
    exact Bool.eq_false_iff.2 fun hc => by
      rw [isWordChar_of_isNamePart hc] at hedge
      exact Bool.noConfusion hedge

/-! ### Inside a name -/

theorem ways_blanks_of_inside (h : x.Inside) : blanks.ways x = [x] := by
  have hafter := h.after
  cases hx : x.after with
  | nil => exact ways_run_nil hx
  | cons c rest =>
    rw [hx, List.head?_cons, Option.any_some] at hafter
    rw [blanks, ways_run_cons hx, if_neg]
    rw [not_isBlank_of_rejectsBlanks rejectsBlanks_isNamePart hafter]
    exact Bool.noConfusion

theorem ways_char_of_inside {c : Char} (hc : isNamePart c = false) (h : x.Inside) :
    (Pattern.char c).ways x = [] := by
  refine ways_char_eq_nil fun heq => ?_
  have hafter := h.after
  rw [heq, Option.any_some, hc] at hafter
  exact Bool.noConfusion hafter

theorem ways_gap_of_inside (h : x.Inside) : gap.ways x = [] := by
  refine ways_gap_eq_nil (Bool.eq_false_iff.2 fun hblank => ?_)
  obtain ⟨c, hc, hc'⟩ := (Option.any_eq_true ..).1 hblank
  have hafter := h.after
  rw [hc, Option.any_some, eq_false_of_rejectsBlanks rejectsBlanks_isNamePart hc'] at hafter
  exact Bool.noConfusion hafter

theorem ways_wordEdge_of_inside (h : x.Inside) : wordEdge.ways x = [] := by
  have hword : ∀ o : Option Char, o.any isNamePart = true → o.any isWordChar = true := by
    rintro (_ | c) hc
    · exact hc
    · exact isWordChar_of_isNamePart hc
  rw [ways, if_neg]
  rw [atWordEdge, hword _ h.before, hword _ h.after]
  exact Bool.noConfusion

end Pattern

/-! ### The names that a shape finds at a place -/

namespace Shape

open Pattern

variable {s : Shape} {x z : Place} {word : List Char}

/-- The names of all fits at a place, preferred ones first. -/
def names (s : Shape) (x : Place) : List (List Char) := (s.founds x).map (·.name)

/-- The names of all fits behind a lead. -/
def named (s : Shape) (x : Place) : List (List Char) :=
  (s.name.ways x).flatMap fun stop => (s.trail.ways stop).map fun _ => x.upTo stop

theorem names_eq (s : Shape) : s.names = fun x => (s.lead.ways x).flatMap s.named := by
  funext x
  simp only [names, founds, List.map_flatMap, List.map_map, Function.comp_def]
  rfl

theorem atStart?_eq (s : Shape) (text : List Char) :
    s.atStart? text = (s.names (.start text)).head? := by
  rw [atStart?, at?_eq_head?, names, List.head?_map]

theorem failsAtBlank_names (hs : s.startsInk = true) : FailsAtBlank s.names := by
  intro x hx
  have hnone := at?_of_startsInk hs hx
  rw [at?_eq_head?, List.head?_eq_none_iff] at hnone
  rw [names, hnone, List.map_nil]

theorem failsAtBlank_named (hs : s.name.atBlank = .fails) : FailsAtBlank s.named := by
  intro x hx
  rw [named, ways_eq_nil_of_fails hs hx, List.flatMap_nil]

/-- If the trail does not fit inside a name, then only a whole name is found. -/
theorem named_of_word (hname : s.name = Pattern.name)
    (htrail : ∀ z : Place, z.Inside → s.trail.ways z = []) (h : x.Leads word z)
    (hword : IsIdentifier word) (hz : z.BeforeEnd) :
    s.named x = (s.trail.ways z).map fun _ => word := by
  have hinside : ∀ z : Place, z.Inside → ((s.trail.ways z).map fun _ => x.upTo z) = [] := by
    intro z hz
    rw [htrail z hz, List.map_nil]
  rw [named, hname, flatMap_name hinside h hword hz, h.upTo_eq]

end Shape

end LineKin
