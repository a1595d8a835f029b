import LineKin.Proofs.Pattern.Search

/-!
# Fits at all places of a line

`x.onward` are the places of a line from `x` on. A pattern occurs in a text if it fits at one of its
places (`occursIn_iff`).

A search for all fits goes on behind the end of each fit. If no fit begins inside another one
(`Shape.Apart`), then nothing is skipped, and the search finds the fit at every place that has one, from
left to right (**`all_eq_filterMap`**). In general it takes of these fits those that begin behind the end
of the last one that it took (**`all_eq_taken`**).
-/

namespace LineKin

namespace Place

variable {x y z : Place} {passed : List Char} {c : Char} {rest : List Char}

/-- The places of a line from a place with the given characters ahead on. -/
def onwardFrom (x : Place) : List Char → List Place
  | [] => [x]
  | c :: rest => x :: (x.behind c rest).onwardFrom rest

/-- The places of a line from a place on. -/
def onward (x : Place) : List Place := x.onwardFrom x.after

theorem onward_nil (hx : x.after = []) : x.onward = [x] := by
  rw [onward, hx, onwardFrom]

theorem onward_cons (hx : x.after = c :: rest) : x.onward = x :: (x.behind c rest).onward := by
  rw [onward, hx, onwardFrom]
  rfl

/-- The characters between two places of a line tell the second one from the first. -/
theorem Leads.unique (h : x.Leads passed y) (h' : x.Leads passed z) : y = z :=
  Place.ext (h.2.trans h'.2.symm) (List.append_cancel_left (h.1.symm.trans h'.1))

theorem Leads.passed_eq (h : x.Leads passed y) : y.passed = x.passed + passed.length := by
  rw [y.passed_eq, x.passed_eq, h.2, List.length_append, List.length_reverse, Nat.add_comm]

theorem exists_leads (h : x.after = passed ++ rest) :
    ∃ y, x.Leads passed y ∧ y.after = rest :=
  ⟨⟨passed.reverse ++ x.before, rest, _, rfl⟩, ⟨h, rfl⟩, rfl⟩

theorem mem_onward : y ∈ x.onward ↔ ∃ passed, x.Leads passed y := by
  induction hx : x.after generalizing x with
  | nil =>
    rw [onward_nil hx, List.mem_singleton]
    constructor
    · rintro rfl
      exact ⟨[], .refl y⟩
    · rintro ⟨passed, hleads⟩
      have hnil := (List.append_eq_nil_iff.1 (hleads.1.symm.trans hx)).1
      subst hnil
      exact hleads.unique (.refl x)
  | cons c rest ih =>
    rw [onward_cons hx, List.mem_cons, ih rfl]
    constructor
    · rintro (rfl | ⟨passed, hleads⟩)
      · exact ⟨[], .refl y⟩
      · exact ⟨c :: passed, (leads_behind hx).trans hleads⟩
    · rintro ⟨passed, hleads⟩
      cases passed with
      | nil => exact .inl (hleads.unique (.refl x))
      | cons d passed =>
        obtain ⟨rfl, hrest⟩ := List.cons.inj (hx.symm.trans hleads.1)
        subst hrest
        exact .inr ⟨passed, hleads.of_cons⟩

/-- The places of a line stand in the order of the line. -/
theorem pairwise_onward (x : Place) :
    x.onward.Pairwise fun y z => ∃ c passed, y.Leads (c :: passed) z := by
  induction hx : x.after generalizing x with
  | nil =>
    rw [onward_nil hx]
    exact List.pairwise_singleton _ x
  | cons c rest ih =>
    rw [onward_cons hx, List.pairwise_cons]
    refine ⟨fun z hz => ?_, ih (x.behind c rest) rfl⟩
    obtain ⟨passed, hleads⟩ := mem_onward.1 hz
    exact ⟨c, passed, (leads_behind hx).trans hleads⟩

end Place

open Place

theorem Pattern.occursIn_iff {p : Pattern} {text : List Char} :
    p.occursIn text = true ↔ ∃ before x, (Place.start text).Leads before x ∧ p.fits x = true := by
  have hany : ∀ (x : Place) (cs : List Char), p.occursFrom x cs = (x.onwardFrom cs).any p.fits := by
    intro x cs
    induction cs generalizing x with
    | nil => rw [occursFrom, onwardFrom, List.any_cons, List.any_nil, Bool.or_false]
    | cons c rest ih => rw [occursFrom, onwardFrom, List.any_cons, ih]
  have honward : (Place.start text).onwardFrom text = (Place.start text).onward := rfl
  rw [occursIn, hany, honward, List.any_eq_true]
  simp only [mem_onward]
  constructor
  · rintro ⟨x, ⟨before, hleads⟩, hfits⟩
    exact ⟨before, x, hleads, hfits⟩
  · rintro ⟨before, x, hleads, hfits⟩
    exact ⟨x, ⟨before, hleads⟩, hfits⟩

namespace Shape

variable {s : Shape} {x y : Place} {name : List Char}

/-- No fit begins inside another one. -/
def Apart (s : Shape) : Prop :=
  ∀ x found, s.at? x = some found → ∀ c passed y, x.Leads (c :: passed) y →
    y.passed < found.finish.passed → s.at? y = none

/-- Skipping places without fits loses nothing. -/
theorem allFrom_eq_filterMap (hs : s.Apart) {skip : Nat}
    (hskip : ∀ passed y, x.Leads passed y → passed.length < skip → s.at? y = none) :
    s.allFrom [] skip x x.after = x.onward.filterMap fun y => (s.at? y).map (·.name) := by
  induction hx : x.after generalizing x skip with
  | nil =>
    rw [onward_nil hx, allFrom, List.filterMap_cons]
    cases s.at? x <;> rfl
  | cons c rest ih =>
    rw [onward_cons hx, List.filterMap_cons]
    have hbehind : ∀ {passed y}, (x.behind c rest).Leads passed y → x.Leads (c :: passed) y :=
      fun hleads => (leads_behind hx).trans hleads
    cases skip with
    | succ skip =>
      rw [allFrom, hskip [] x (.refl x) (Nat.succ_pos skip)]
      exact ih (fun passed y hleads hlt => hskip (c :: passed) y (hbehind hleads)
        (Nat.succ_lt_succ hlt)) rfl
    | zero =>
      rw [allFrom]
      cases hat : s.at? x with
      | none => exact ih (fun _ _ _ hlt => absurd hlt (Nat.not_lt_zero _)) rfl
      | some found =>
        -- the places that are skipped lie inside the fit
        have hinside : ∀ passed y, (x.behind c rest).Leads passed y →
            passed.length < found.finish.passed - (x.passed + 1) → s.at? y = none := by
          intro passed y hleads hlt
          have hpassed := (hbehind hleads).passed_eq
          rw [List.length_cons] at hpassed
          exact hs x found hat c passed y (hbehind hleads) (by omega)
        show s.allFrom [found.name] _ _ _ = found.name :: _
        rw [allFrom_append]
        exact congrArg (found.name :: ·) (ih hinside rfl)

/-- **All fits are found**, if none begins inside another one. -/
theorem all_eq_filterMap (hs : s.Apart) (text : List Char) :
    s.all text = (Place.start text).onward.filterMap fun x => (s.at? x).map (·.name) :=
  allFrom_eq_filterMap hs fun _ _ _ hlt => absurd hlt (Nat.not_lt_zero _)

theorem mem_all_iff (hs : s.Apart) {text : List Char} : name ∈ s.all text ↔
    ∃ before x found, (Place.start text).Leads before x ∧ s.at? x = some found ∧ found.name = name := by
  rw [all_eq_filterMap hs, List.mem_filterMap]
  simp only [mem_onward, Option.map_eq_some_iff]
  constructor
  · rintro ⟨x, ⟨before, hleads⟩, found, hat, rfl⟩
    exact ⟨before, x, found, hleads, hat, rfl⟩
  · rintro ⟨before, x, found, hleads, hat, rfl⟩
    exact ⟨x, ⟨before, hleads⟩, found, hat, rfl⟩

/-- The leftmost fit is the one at the first place that has one. -/
theorem first?_eq_findSome? (s : Shape) (text : List Char) :
    s.first? text = (Place.start text).onward.findSome? fun x => (s.at? x).map (·.name) := by
  have hfrom : ∀ (cs : List Char) (x : Place), x.after = cs →
      s.firstFrom? x cs = x.onward.findSome? fun x => (s.at? x).map (·.name) := by
    intro cs
    induction cs with
    | nil =>
      intro x hx
      rw [firstFrom?, onward_nil hx, List.findSome?_singleton]
    | cons c rest ih =>
      intro x hx
      rw [firstFrom?, onward_cons hx, List.findSome?_cons]
      cases s.at? x with
      | none => exact ih (x.behind c rest) rfl
      | some found => rfl
  exact hfrom text (.start text) rfl

/-- Nothing is found in a text if nothing fits at any place of it. -/
theorem first?_eq_none {text : List Char}
    (h : ∀ before x, (Place.start text).Leads before x → s.at? x = none) : s.first? text = none := by
  rw [first?_eq_findSome?, List.findSome?_eq_none_iff]
  intro x hx
  obtain ⟨before, hleads⟩ := mem_onward.1 hx
  rw [h before x hleads, Option.map_none]

theorem exists_at?_of_first? {text : List Char} (h : s.first? text = some name) :
    ∃ before x found, (Place.start text).Leads before x ∧ s.at? x = some found ∧ found.name = name := by
  rw [first?_eq_findSome?] at h
  obtain ⟨x, hx, hname⟩ := List.exists_of_findSome?_eq_some h
  obtain ⟨before, hleads⟩ := mem_onward.1 hx
  obtain ⟨found, hat, hname⟩ := Option.map_eq_some_iff.1 hname
  exact ⟨before, x, found, hleads, hat, hname⟩

/-! ### Fits that overlap -/

/-- A fit of a shape at a place. -/
structure Fit where
  /-- Where it starts. -/
  place : Place
  /-- What it finds. -/
  found : Found

/-- The fits at all places of a line from a place on, also those that start inside another one. -/
def fitsFrom (s : Shape) (x : Place) : List Fit :=
  x.onward.filterMap fun y => (s.at? y).map fun found => ⟨y, found⟩

theorem mem_fitsFrom {fit : Fit} {text : List Char} : fit ∈ s.fitsFrom (.start text) ↔
    (∃ front, (Place.start text).Leads front fit.place) ∧ s.at? fit.place = some fit.found := by
  rw [fitsFrom, List.mem_filterMap]
  simp only [mem_onward, Option.map_eq_some_iff]
  constructor
  · rintro ⟨x, hx, found, hfound, rfl⟩
    exact ⟨hx, hfound⟩
  · rintro ⟨hx, hfound⟩
    exact ⟨fit.place, hx, fit.found, hfound, rfl⟩

/-- The fits that are left of a list, if one of them is taken only where it starts behind the end of the
last one that was taken. At first, they have to start behind so many characters. -/
def Fit.taken : Nat → List Fit → List Fit
  | _, [] => []
  | free, fit :: rest =>
    if fit.place.passed < free then taken free rest else fit :: taken fit.found.finish.passed rest

theorem Fit.taken_sublist (free : Nat) (fits : List Fit) : (taken free fits).Sublist fits := by
  induction fits generalizing free with
  | nil => exact .slnil
  | cons fit rest ih =>
    rw [taken]
    split
    · exact (ih free).cons fit
    · exact (ih fit.found.finish.passed).cons_cons fit

theorem allFrom_eq_taken {free : Nat} (hfree : free ≤ x.passed + x.after.length) :
    s.allFrom [] (free - x.passed) x x.after =
      (Fit.taken free (s.fitsFrom x)).map (·.found.name) := by
  induction hx : x.after generalizing x free with
  | nil =>
    rw [hx, List.length_nil] at hfree
    rw [fitsFrom, onward_nil hx, List.filterMap_cons, List.filterMap_nil, allFrom]
    cases s.at? x with
    | none => rfl
    | some found =>
      have hplace : ¬ x.passed < free := Nat.not_lt.2 hfree
      simp [Fit.taken, hplace]
  | cons c rest ih =>
    have hstep : ∀ {free : Nat}, free ≤ x.passed + x.after.length →
        s.allFrom [] (free - (x.passed + 1)) (x.behind c rest) rest =
          (Fit.taken free (s.fitsFrom (x.behind c rest))).map (·.found.name) := by
      intro free hfree
      refine ih (x := x.behind c rest) ?_ rfl
      rw [hx, List.length_cons] at hfree
      show free ≤ x.passed + 1 + rest.length
      omega
    have hfits : s.fitsFrom x =
        ((s.at? x).map fun found => Fit.mk x found).toList ++ s.fitsFrom (x.behind c rest) := by
      rw [fitsFrom, onward_cons hx, List.filterMap_cons]
      cases s.at? x <;> rfl
    rw [hfits]
    rcases Nat.lt_or_ge x.passed free with hlt | hge
    · -- the place is skipped, whatever fits there
      obtain ⟨skip, hskip⟩ : ∃ skip, free - x.passed = skip + 1 := ⟨free - x.passed - 1, by omega⟩
      have hnext : skip = free - (x.passed + 1) := by omega
      rw [hskip, allFrom, hnext, hstep hfree]
      cases s.at? x with
      | none => rfl
      | some found => simp [Fit.taken, hlt]
    · rw [Nat.sub_eq_zero_of_le hge, allFrom]
      cases hat : s.at? x with
      | none =>
        have hnext : 0 = free - (x.passed + 1) := by omega
        show s.allFrom [] 0 _ _ = _
        rw [hnext, hstep hfree]
        rfl
      | some found =>
        have hwithin : found.finish.passed ≤ x.passed + x.after.length := by
          obtain ⟨passed, hleads⟩ :=
            exists_leads_of_mem_founds (List.mem_of_head? (at?_eq_head? s x ▸ hat))
          have := hleads.length_eq
          have := hleads.passed_eq
          omega
        show s.allFrom [found.name] _ _ _ = _
        rw [allFrom_append, hstep hwithin]
        simp [Fit.taken, Nat.not_lt.2 hge]

/-- **A search takes a fit** unless it starts inside the last fit that was taken. -/
theorem all_eq_taken (s : Shape) (text : List Char) :
    s.all text = (Fit.taken 0 (s.fitsFrom (.start text))).map (·.found.name) :=
  allFrom_eq_taken (x := .start text) (Nat.zero_le _)

end Shape

end LineKin
