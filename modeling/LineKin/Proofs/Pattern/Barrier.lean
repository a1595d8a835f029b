import LineKin.Proofs.Pattern.Places

/-!
# Searches up to a character that a pattern never passes

A pattern avoids a character if none of its classes allows the character (`Pattern.avoids`). In front of
such a character, which no word goes on to, a line might as well end: the pattern reaches the same places
(`Pattern.ways_extend_of_avoids`). Behind it the line might as well begin.

**`Shape.first?_of_avoids`**: the leftmost fit in a line is the one in front of the character, or else the
one behind it.
-/

namespace LineKin

open Text Place

/-! ### The places of a line in two parts -/

namespace Place

variable {x : Place} {front back : List Char} {c : Char}

theorem onward_indent (x : Place) (front : List Char) :
    (x.indent front).onward = x.onward.map (·.indent front) := by
  induction hx : x.after generalizing x with
  | nil =>
    have hafter : (x.indent front).after = [] := hx
    rw [onward_nil hx, onward_nil hafter]
    rfl
  | cons c rest ih =>
    have hafter : (x.indent front).after = c :: rest := hx
    rw [onward_cons hx, onward_cons hafter, behind_indent, ih (x.behind c rest) rfl]
    rfl

/-- The places of a line that is put together around a character: those up to the character, and those
behind it. -/
theorem onward_extend (x : Place) (c : Char) (back : List Char) : (x.extend (c :: back)).onward =
    x.onward.map (·.extend (c :: back)) ++
      ((start back).indent (c :: (x.after.reverse ++ x.before))).onward := by
  induction hx : x.after generalizing x with
  | nil =>
    have hend : (x.extend (c :: back)).behind c back = (start back).indent (c :: x.before) :=
      Place.ext rfl rfl
    rw [onward_cons (after_extend_nil hx), onward_nil hx, hend]
    rfl
  | cons d rest ih =>
    have hnext := ih (x.behind d rest) rfl
    rw [onward_cons (after_extend_cons hx), onward_cons hx, behind_extend, hnext]
    simp [behind]

theorem start_append (front : List Char) (c : Char) (back : List Char) :
    start (front ++ c :: back) = (start front).extend (c :: back) := rfl

end Place

/-! ### Patterns -/

namespace Pattern

variable {p : Pattern} {x : Place} {c : Char} {back : List Char}

/-- Whether no class of the pattern allows the character, and the pattern neither repeats pieces nor asks
for the end of the line. -/
def avoids (c : Char) : Pattern → Bool
  | one allowed | run allowed => !allowed c
  | sequence p q | choice p q => p.avoids c && q.avoids c
  | many _ | lineEnd => false
  | nothing | wordEdge => true

theorem ways_run_extend_of_avoids {allowed : Char → Bool} (hc : allowed c = false) (x : Place) :
    (run allowed).ways (x.extend (c :: back)) = ((run allowed).ways x).map (·.extend (c :: back)) := by
  induction hx : x.after generalizing x with
  | nil =>
    rw [ways_run_cons (after_extend_nil hx), ways_run_nil hx, hc]
    rfl
  | cons d rest ih =>
    rw [ways_run_cons (after_extend_cons hx), ways_run_cons hx, behind_extend]
    split
    · rw [ih (x.behind d rest) rfl, List.map_append]
      rfl
    · rfl

/-- A pattern does not see what stands behind a character that it avoids. -/
theorem ways_extend_of_avoids (hp : p.avoids c = true) (hc : isWordChar c = false) (x : Place) :
    p.ways (x.extend (c :: back)) = (p.ways x).map (·.extend (c :: back)) := by
  induction p generalizing x with
  | nothing => rfl
  | one allowed =>
    rw [avoids, Bool.not_eq_true'] at hp
    cases hx : x.after with
    | nil =>
      rw [ways_one_nil hx, ways_one_cons (after_extend_nil hx), hp]
      rfl
    | cons d rest =>
      rw [ways_one_cons hx, ways_one_cons (after_extend_cons hx), behind_extend]
      split <;> rfl
  | run allowed =>
    rw [avoids, Bool.not_eq_true'] at hp
    exact ways_run_extend_of_avoids hp x
  | sequence p q ihp ihq =>
    rw [avoids, Bool.and_eq_true] at hp
    rw [ways, ways, ihp hp.1, List.flatMap_map, List.map_flatMap]
    exact List.flatMap_congr fun y _ => ihq hp.2 y
  | choice p q ihp ihq =>
    rw [avoids, Bool.and_eq_true] at hp
    rw [ways, ways, ihp hp.1, ihq hp.2, List.map_append]
  | many p | lineEnd => exact Bool.noConfusion hp
  | wordEdge =>
    have hhead : (c :: back).head?.any isWordChar = false := hc
    rw [ways, ways, atWordEdge_extend hhead]
    split <;> rfl

end Pattern

/-! ### Shapes -/

namespace Shape

open Pattern

variable {s : Shape} {x : Place} {c : Char} {front back text : List Char} {found : Found}

/-- Whether none of the three parts of the shape passes the character. -/
def avoids (c : Char) (s : Shape) : Bool := s.lead.avoids c && s.name.avoids c && s.trail.avoids c

theorem founds_extend_of_avoids (hs : s.avoids c = true) (hc : isWordChar c = false) (x : Place) :
    s.founds (x.extend (c :: back)) =
      (s.founds x).map fun found => ⟨found.name, found.finish.extend (c :: back)⟩ := by
  rw [avoids, Bool.and_eq_true, Bool.and_eq_true] at hs
  obtain ⟨⟨hlead, hname⟩, htrail⟩ := hs
  rw [founds, founds, ways_extend_of_avoids hlead hc, List.flatMap_map, List.map_flatMap]
  refine List.flatMap_congr fun start _ => ?_
  rw [ways_extend_of_avoids hname hc, List.flatMap_map, List.map_flatMap]
  refine List.flatMap_congr fun stop hstop => ?_
  rw [ways_extend_of_avoids htrail hc, List.map_map, List.map_map, upTo_extend hstop]
  rfl

theorem first?_of_at? (h : s.at? (.start text) = some found) : s.first? text = some found.name := by
  rw [first?]
  cases text with
  | nil => rw [firstFrom?, h, Option.map_some]
  | cons c rest => rw [firstFrom?, h]

/-- The leftmost fit in a line that is put together around a character starts in front of it, or else
behind it. -/
theorem first?_append_cons (s : Shape) (front back : List Char) (hc : isWordChar c = false) :
    s.first? (front ++ c :: back) =
      ((start front).onward.findSome? fun x => (s.at? (x.extend (c :: back))).map (·.name)).or
        (s.first? back) := by
  have hindent : ∀ (x : Place) (before : List Char),
      (s.at? (x.indent (c :: before))).map (·.name) = (s.at? x).map (·.name) := by
    intro x before
    have hhead : (c :: before).head?.any isWordChar = false := hc
    rw [at?_eq_head?, at?_eq_head?, founds_indent hhead, List.head?_map, Option.map_map]
    rfl
  rw [first?_eq_findSome?, start_append, onward_extend, List.findSome?_append, List.findSome?_map,
    onward_indent, List.findSome?_map, first?_eq_findSome?]
  simp only [Function.comp_def, hindent]

/-- **The leftmost fit** in a line with a character that the shape never passes. -/
theorem first?_of_avoids (hs : s.avoids c = true) (hc : isWordChar c = false) (front back : List Char) :
    s.first? (front ++ c :: back) = (s.first? front).or (s.first? back) := by
  have hextend : ∀ x : Place,
      (s.at? (x.extend (c :: back))).map (·.name) = (s.at? x).map (·.name) := by
    intro x
    rw [at?_eq_head?, at?_eq_head?, founds_extend_of_avoids hs hc, List.head?_map, Option.map_map]
    rfl
  rw [first?_append_cons s front back hc, first?_eq_findSome? s front]
  simp only [hextend]

theorem first?_intercalate (hs : s.avoids c = true) (hc : isWordChar c = false)
    (hnil : s.first? [] = none) (pieces : List (List Char)) :
    s.first? ([c].intercalate pieces) = pieces.findSome? s.first? := by
  induction pieces with
  | nil => exact hnil
  | cons piece pieces ih =>
    cases pieces with
    | nil => rw [List.intercalate_singleton, List.findSome?_singleton]
    | cons next pieces =>
      rw [List.intercalate_cons_cons, List.append_assoc, List.singleton_append,
        first?_of_avoids hs hc, ih, List.findSome?_cons (a := piece)]
      cases s.first? piece <;> rfl

end Shape

end LineKin
