import LineKin.Proofs.Pattern.Reach
import LineKin.Proofs.Text.Blanks

/-!
# Patterns in padded lines

A line is padded with blanks in front and at its end, and a pattern is read at the same place of both
lines.

What stands in front makes no difference if no word goes on from it, as from blanks (`ways_indent`).
Blanks at the end may be run into, so the padded line has more ways; those that end within the old line
are the old ones (`ways_extend_within`), provided that the pattern does not ask for the end of the line
and repeats only pieces that pass a character (`Pattern.endFree`). If moreover the pattern ends with
something that is not blank (`Pattern.inkLast`), there are no other ways (`ways_extend`).

What a pattern does in front of a blank is computed by `Pattern.atBlank`: it fails, stays where it is,
or may move.
-/

namespace LineKin

open Text

namespace Place

variable {x y : Place} {front back rest : List Char} {c : Char}

/-- The same place of the line with more characters in front, given nearest first. -/
def indent (x : Place) (front : List Char) : Place :=
  ⟨x.before ++ front, x.after, x.passed + front.length, by rw [x.passed_eq, List.length_append]⟩

/-- The same place of the line with more characters at its end. -/
def extend (x : Place) (back : List Char) : Place := ⟨x.before, x.after ++ back, x.passed, x.passed_eq⟩

/-- Whether at least as many characters are ahead as were put at the end of the line. -/
def within (back : List Char) (x : Place) : Bool := back.length ≤ x.after.length

/-- The next character is a blank, or there is none. -/
def BeforeBlank (x : Place) : Prop := ∀ c, x.after.head? = some c → isBlank c = true

theorem BeforeBlank.of_after (hx : x.after = c :: rest) (hc : isBlank c = true) :
    x.BeforeBlank := fun d hd => by
  rw [hx, List.head?_cons, Option.some.injEq] at hd
  exact hd ▸ hc

theorem BeforeBlank.of_allBlank (hx : AllBlank x.after) : x.BeforeBlank :=
  fun c hc => hx c (List.mem_of_head? hc)

theorem BeforeBlank.not_allowed {allowed : Char → Bool} (hx : x.BeforeBlank)
    (hallowed : rejectsBlanks allowed = true) (ha : x.after = c :: rest) : allowed c = false :=
  eq_false_of_rejectsBlanks hallowed (hx c (by rw [ha]; rfl))

theorem behind_indent : (x.indent front).behind c rest = (x.behind c rest).indent front :=
  Place.ext rfl rfl

theorem behind_extend : (x.extend back).behind c (rest ++ back) = (x.behind c rest).extend back :=
  Place.ext rfl rfl

theorem after_extend_nil (hx : x.after = []) : (x.extend back).after = back := by
  rw [extend, hx, List.nil_append]

theorem after_extend_cons (hx : x.after = c :: rest) :
    (x.extend back).after = c :: (rest ++ back) := by
  rw [extend, hx, List.cons_append]

theorem within_extend (x : Place) (back : List Char) : (x.extend back).within back = true := by
  simp [within, extend]

theorem atWordEdge_indent (h : front.head?.any isWordChar = false) :
    (x.indent front).atWordEdge = x.atWordEdge := by
  have hhead : (x.before ++ front).head?.any isWordChar = x.before.head?.any isWordChar := by
    cases hb : x.before with
    | nil => exact h
    | cons c before => rfl
  rw [atWordEdge, atWordEdge, ← hhead]
  rfl

theorem atWordEdge_extend (h : back.head?.any isWordChar = false) :
    (x.extend back).atWordEdge = x.atWordEdge := by
  have hhead : (x.after ++ back).head?.any isWordChar = x.after.head?.any isWordChar := by
    cases ha : x.after with
    | nil => exact h
    | cons c after => rfl
  rw [atWordEdge, atWordEdge, ← hhead]
  rfl

theorem Leads.extend {passed : List Char} (h : x.Leads passed y) (back : List Char) :
    (x.extend back).Leads passed (y.extend back) := by
  refine ⟨?_, h.2⟩
  show x.after ++ back = passed ++ (y.after ++ back)
  rw [h.1, List.append_assoc]

end Place

namespace Pattern

open Place

variable {p q : Pattern} {x y : Place} {allowed : Char → Bool} {front back : List Char}

/-! ### More characters in front -/

theorem runWays_indent (x : Place) (cs : List Char) (nearer : List Place) :
    runWays allowed (x.indent front) cs (nearer.map (·.indent front)) =
      (runWays allowed x cs nearer).map (·.indent front) := by
  induction cs generalizing x nearer with
  | nil => rfl
  | cons c cs ih =>
    rw [runWays, runWays, behind_indent]
    split
    · exact ih (x.behind c cs) (x :: nearer)
    · rfl

theorem manyWays_indent {step : Place → List Place}
    (hstep : ∀ x : Place, step (x.indent front) = (step x).map (·.indent front)) (cs : List Char)
    (x : Place) : manyWays step cs (x.indent front) = (manyWays step cs x).map (·.indent front) := by
  induction cs generalizing x with
  | nil => rfl
  | cons c cs ih =>
    rw [manyWays, manyWays, hstep, List.flatMap_map, List.map_append, List.map_flatMap]
    congr 1
    exact List.flatMap_congr fun y _ => ih y

/-- Characters in front of a line do not change what a pattern reaches, unless a word goes on from them. -/
theorem ways_indent (p : Pattern) (h : front.head?.any isWordChar = false) (x : Place) :
    p.ways (x.indent front) = (p.ways x).map (·.indent front) := by
  induction p generalizing x with
  | nothing => rfl
  | one allowed =>
    cases hx : x.after with
    | nil => rw [ways_one_nil hx, ways_one_nil (x := x.indent front) hx, List.map_nil]
    | cons c rest =>
      rw [ways_one_cons hx, ways_one_cons (x := x.indent front) hx, behind_indent]
      split <;> rfl
  | run allowed => exact runWays_indent x x.after []
  | sequence p q ihp ihq =>
    rw [ways, ways, ihp, List.flatMap_map, List.map_flatMap]
    exact List.flatMap_congr fun y _ => ihq y
  | choice p q ihp ihq => rw [ways, ways, ihp, ihq, List.map_append]
  | many p ih => exact manyWays_indent ih x.after x
  | wordEdge =>
    rw [ways, ways, atWordEdge_indent h]
    split <;> rfl
  | lineEnd =>
    rw [ways, ways]
    show (if x.after.isEmpty then _ else _) = _
    split <;> rfl

/-! ### Blanks at the end -/

/-- Whether the pattern never asks for the end of the line, and repeats only pieces that pass a
character. -/
def endFree : Pattern → Bool
  | lineEnd => false
  | sequence p q => p.endFree && q.endFree
  | choice p q => p.endFree && q.endFree
  | many p => p.endFree && p.consumes
  | nothing | one _ | run _ | wordEdge => true

theorem endFree_append (p q : Pattern) : (p ++ q).endFree = (p.endFree && q.endFree) := rfl

/-- Places that are not kept lead to places that are not kept, so only those reached through kept
places are kept. -/
theorem filter_flatMap_of_closed {keep : Place → Bool} {places : List Place} {f : Place → List Place}
    (h : ∀ y ∈ places, keep y = false → ∀ z ∈ f y, keep z = false) :
    (places.flatMap f).filter keep =
      (places.filter keep).flatMap fun y => (f y).filter keep := by
  induction places with
  | nil => rfl
  | cons y places ih =>
    have ih := ih fun z hz => h z (List.mem_cons_of_mem _ hz)
    rw [List.flatMap_cons, List.filter_append, ih]
    cases hy : keep y with
    | true => rw [List.filter_cons_of_pos hy, List.flatMap_cons]
    | false =>
      have hnone : (f y).filter keep = [] := by
        simpa using h y List.mem_cons_self hy
      rw [List.filter_cons_of_neg (by simp [hy]), hnone, List.nil_append]

theorem not_within_of_mem_ways (hx : x.within back = false) (hy : y ∈ p.ways x) :
    y.within back = false := by
  have := length_after_le hy
  simp only [within, decide_eq_false_iff_not] at hx ⊢
  omega

theorem ways_run_extend_within (x : Place) :
    ((run allowed).ways (x.extend back)).filter (within back) =
      ((run allowed).ways x).map (·.extend back) := by
  induction hx : x.after generalizing x with
  | nil =>
    have hafter : (x.extend back).after = back := after_extend_nil hx
    rw [ways_run_nil hx]
    cases hb : back with
    | nil =>
      rw [hb] at hafter
      rw [ways_run_nil hafter, List.filter_cons_of_pos (within_extend x [])]
      rfl
    | cons c rest =>
      rw [hb] at hafter
      have hself : [x.extend (c :: rest)].filter (within (c :: rest)) = [x.extend (c :: rest)] :=
        List.filter_cons_of_pos (within_extend x _)
      rw [ways_run_cons hafter]
      split
      · have hbehind : ((x.extend (c :: rest)).behind c rest).within (c :: rest) = false := by
          rw [within, decide_eq_false_iff_not]
          exact Nat.not_succ_le_self rest.length
        have hnone : ((run allowed).ways ((x.extend (c :: rest)).behind c rest)).filter
            (within (c :: rest)) = [] := by
          rw [List.filter_eq_nil_iff]
          exact fun y hy => by simp [not_within_of_mem_ways hbehind hy]
        rw [List.filter_append, hnone, hself]
        rfl
      · exact hself
  | cons c cs ih =>
    have hself : [x.extend back].filter (within back) = [x.extend back] :=
      List.filter_cons_of_pos (within_extend x back)
    rw [ways_run_cons hx, ways_run_cons (after_extend_cons hx), behind_extend]
    split
    · rw [List.filter_append, ih (x.behind c cs) rfl, hself, List.map_append]
      rfl
    · exact hself

theorem ways_one_extend_within (x : Place) :
    ((one allowed).ways (x.extend back)).filter (within back) =
      ((one allowed).ways x).map (·.extend back) := by
  cases hx : x.after with
  | nil =>
    rw [ways_one_nil hx, List.map_nil, List.filter_eq_nil_iff]
    intro y hy
    obtain ⟨c, hc, -⟩ := mem_ways_one.1 hy
    have hlen := hc.length_eq
    rw [after_extend_nil hx, List.length_singleton] at hlen
    simp only [within, decide_eq_true_eq]
    omega
  | cons c rest =>
    rw [ways_one_cons hx, ways_one_cons (after_extend_cons hx), behind_extend]
    split
    · exact List.filter_cons_of_pos (within_extend (x.behind c rest) back)
    · rfl

theorem ways_many_extend_within (hp : p.consumes = true)
    (hways : ∀ x : Place,
      (p.ways (x.extend back)).filter (within back) = (p.ways x).map (·.extend back)) (x : Place) :
    ((many p).ways (x.extend back)).filter (within back) =
      ((many p).ways x).map (·.extend back) := by
  -- induction on the number of characters ahead, since each piece passes one
  induction hn : x.after.length using Nat.strongRecOn generalizing x with
  | _ n ih =>
    have hself : [x.extend back].filter (within back) = [x.extend back] :=
      List.filter_cons_of_pos (within_extend x back)
    rw [ways_many hp, ways_many hp, List.filter_append, hself,
      filter_flatMap_of_closed fun y _ hy z hz => not_within_of_mem_ways hy hz, hways,
      List.flatMap_map, List.map_append, List.map_flatMap]
    congr 1
    refine List.flatMap_congr fun y hy => ?_
    have := length_after_lt hp hy
    exact ih _ (by omega) y rfl

/-- Within the old line, a pattern reaches the same places as before. -/
theorem ways_extend_within (hp : p.endFree = true) (h : AllBlank back) (x : Place) :
    (p.ways (x.extend back)).filter (within back) = (p.ways x).map (·.extend back) := by
  have hself : ∀ x : Place, [x.extend back].filter (within back) = [x.extend back] :=
    fun x => List.filter_cons_of_pos (within_extend x back)
  induction p generalizing x with
  | nothing => exact hself x
  | one allowed => exact ways_one_extend_within x
  | run allowed => exact ways_run_extend_within x
  | sequence p q ihp ihq =>
    rw [endFree, Bool.and_eq_true] at hp
    rw [ways, ways, filter_flatMap_of_closed fun y _ hy z hz => not_within_of_mem_ways hy hz,
      ihp hp.1, List.flatMap_map, List.map_flatMap]
    exact List.flatMap_congr fun y _ => ihq hp.2 y
  | choice p q ihp ihq =>
    rw [endFree, Bool.and_eq_true] at hp
    rw [ways, ways, List.filter_append, ihp hp.1, ihq hp.2, List.map_append]
  | many p ih =>
    rw [endFree, Bool.and_eq_true] at hp
    exact ways_many_extend_within hp.2 (fun x => ih hp.1 x) x
  | wordEdge =>
    rw [ways, ways, atWordEdge_extend (h.any_head? rejectsBlanks_isWordChar)]
    split
    · exact hself x
    · rfl
  | lineEnd => exact Bool.noConfusion hp

/-- Whether the pattern has no way in front of nothing but blanks. -/
def needsInk : Pattern → Bool
  | one allowed => rejectsBlanks allowed
  | sequence p q => p.needsInk || q.needsInk
  | choice p q => p.needsInk && q.needsInk
  | nothing | run _ | many _ | wordEdge | lineEnd => false

theorem allBlank_of_mem_ways (hx : AllBlank x.after) (hy : y ∈ p.ways x) : AllBlank y.after := by
  obtain ⟨cs, hcs⟩ := exists_leads_of_mem_ways hy
  exact fun c hc => hx c (hcs.1 ▸ List.mem_append_right _ hc)

theorem ways_eq_nil_of_needsInk (hp : p.needsInk = true) (hx : AllBlank x.after) : p.ways x = [] := by
  induction p generalizing x with
  | one allowed =>
    cases ha : x.after with
    | nil => exact ways_one_nil ha
    | cons c rest =>
      rw [ha] at hx
      rw [ways_one_cons ha, eq_false_of_rejectsBlanks hp hx.of_cons.1]
      rfl
  | sequence p q ihp ihq =>
    rw [needsInk, Bool.or_eq_true] at hp
    rw [ways, List.flatMap_eq_nil_iff]
    intro y hy
    rcases hp with hp | hp
    · rw [ihp hp hx] at hy
      simp at hy
    · exact ihq hp (allBlank_of_mem_ways hx hy)
  | choice p q ihp ihq =>
    rw [needsInk, Bool.and_eq_true] at hp
    rw [ways, ihp hp.1 hx, ihq hp.2 hx]
    rfl
  | nothing | run | many | wordEdge | lineEnd => exact Bool.noConfusion hp

/-- Whether no piece of the pattern ends behind a blank that was put at the end of the line. -/
def inkLast : Pattern → Bool
  | one allowed => rejectsBlanks allowed
  | run allowed => rejectsBlanks allowed
  | sequence p q => q.inkLast && (p.inkLast || q.needsInk)
  | choice p q => p.inkLast && q.inkLast
  | many p => p.inkLast
  | nothing | wordEdge | lineEnd => true

theorem inkLast_append (p q : Pattern) :
    (p ++ q).inkLast = (q.inkLast && (p.inkLast || q.needsInk)) := rfl

theorem allBlank_of_not_within (h : AllBlank back) (hy : y ∈ p.ways (x.extend back))
    (hout : y.within back = false) : AllBlank y.after := by
  obtain ⟨cs, hcs⟩ := exists_leads_of_mem_ways hy
  simp only [within, decide_eq_false_iff_not] at hout
  have hsuffix : y.after <:+ back :=
    List.suffix_of_suffix_length_le ⟨cs, hcs.1.symm⟩ (List.suffix_append x.after back) (by omega)
  exact fun c hc => h c (hsuffix.subset hc)

theorem exists_of_mem_ways_extend (hp : p.endFree = true) (h : AllBlank back)
    (hy : y ∈ p.ways (x.extend back)) (hin : y.within back = true) :
    ∃ z ∈ p.ways x, y = z.extend back := by
  have hmem := List.mem_filter.2 ⟨hy, hin⟩
  rw [ways_extend_within hp h, List.mem_map] at hmem
  obtain ⟨z, hz, rfl⟩ := hmem
  exact ⟨z, hz, rfl⟩

/-- Characters that are not blank end within the old line. -/
theorem within_of_leads {cs : List Char} (h : AllBlank back) (hcs : (x.extend back).Leads cs y)
    (hink : ∀ c ∈ cs, isBlank c = false) : y.within back = true := by
  rw [within, decide_eq_true_eq]
  have hafter : x.after ++ back = cs ++ y.after := hcs.1
  rcases List.append_eq_append_iff.1 hafter with ⟨ds, rfl, hback⟩ | ⟨ds, -, hy⟩
  · cases ds with
    | nil => exact Nat.le_of_eq (congrArg List.length hback)
    | cons d ds =>
      have hblank := h d (hback ▸ List.mem_cons_self)
      rw [hink d (by simp)] at hblank
      exact Bool.noConfusion hblank
  · rw [hy, List.length_append]
    omega

theorem within_of_inkLast (hp : p.endFree = true) (hlast : p.inkLast = true) (h : AllBlank back)
    (hy : y ∈ p.ways (x.extend back)) : y.within back = true := by
  induction p generalizing x y with
  | nothing =>
    rw [List.mem_singleton.1 hy]
    exact within_extend x back
  | one allowed =>
    obtain ⟨c, hc, hallowed⟩ := mem_ways_one.1 hy
    exact within_of_leads h hc (by simpa using not_isBlank_of_rejectsBlanks hlast hallowed)
  | run allowed =>
    obtain ⟨cs, hcs, hallowed⟩ := mem_ways_run.1 hy
    exact within_of_leads h hcs fun c hc => not_isBlank_of_rejectsBlanks hlast (hallowed c hc)
  | sequence p q ihp ihq =>
    rw [endFree, Bool.and_eq_true] at hp
    rw [inkLast, Bool.and_eq_true, Bool.or_eq_true] at hlast
    obtain ⟨z, hz, hy⟩ := List.mem_flatMap.1 hy
    cases hin : z.within back with
    | true =>
      obtain ⟨z, -, rfl⟩ := exists_of_mem_ways_extend hp.1 h hz hin
      exact ihq hp.2 hlast.1 hy
    | false =>
      rcases hlast.2 with hlast | hneeds
      · rw [ihp hp.1 hlast hz] at hin
        exact Bool.noConfusion hin
      · rw [ways_eq_nil_of_needsInk hneeds (allBlank_of_not_within h hz hin)] at hy
        simp at hy
  | choice p q ihp ihq =>
    rw [endFree, Bool.and_eq_true] at hp
    rw [inkLast, Bool.and_eq_true] at hlast
    exact (List.mem_append.1 hy).elim (ihp hp.1 hlast.1) (ihq hp.2 hlast.2)
  | many p ih =>
    rw [endFree, Bool.and_eq_true] at hp
    -- induction on the number of characters ahead, since each piece passes one
    induction hn : x.after.length using Nat.strongRecOn generalizing x with
    | _ n ihn =>
      rw [ways_many hp.2, List.mem_append, List.mem_flatMap, List.mem_singleton] at hy
      rcases hy with ⟨z, hz, hy⟩ | rfl
      · obtain ⟨w, hw, rfl⟩ := exists_of_mem_ways_extend hp.1 h hz (ih hp.1 hlast hz)
        have := length_after_lt hp.2 hw
        exact ihn _ (by omega) hy rfl
      · exact within_extend x back
  | wordEdge =>
    rw [ways] at hy
    split at hy
    · rw [List.mem_singleton.1 hy]
      exact within_extend x back
    · simp at hy
  | lineEnd => exact Bool.noConfusion hp

/-- Whether blanks at the end of the line make no difference to the pattern. -/
def firm (p : Pattern) : Bool := p.endFree && p.inkLast

/-- Blanks at the end of a line do not change what a firm pattern reaches. -/
theorem ways_extend (hp : p.firm = true) (h : AllBlank back) (x : Place) :
    p.ways (x.extend back) = (p.ways x).map (·.extend back) := by
  rw [firm, Bool.and_eq_true] at hp
  rw [← ways_extend_within hp.1 h, List.filter_eq_self.2]
  exact fun y hy => within_of_inkLast hp.1 hp.2 h hy

/-! ### In front of a blank -/

/-- What a pattern does at a place with a blank ahead, or with nothing ahead. -/
inductive AtBlank where
  /-- There is no way. -/
  | fails
  /-- All ways end at the place itself. -/
  | stays
  /-- There may be ways that go on. -/
  | moves
  deriving DecidableEq

/-- What a pattern does in front of a blank, as far as its form tells. -/
def atBlank : Pattern → AtBlank
  | nothing | wordEdge | lineEnd => .stays
  | one allowed => if rejectsBlanks allowed then .fails else .moves
  | run allowed => if rejectsBlanks allowed then .stays else .moves
  | sequence p q =>
    match p.atBlank with
    | .fails => .fails
    | .stays => q.atBlank
    | .moves => .moves
  | choice p q =>
    match p.atBlank, q.atBlank with
    | .fails, r => r
    | r, .fails => r
    | .stays, .stays => .stays
    | _, _ => .moves
  | many p => if p.atBlank = .fails then .stays else .moves

theorem atBlank_append (p q : Pattern) : (p ++ q).atBlank =
    match p.atBlank with
    | .fails => .fails
    | .stays => q.atBlank
    | .moves => .moves := by
  show (sequence p q).atBlank = _
  rw [atBlank]

/-- What follows a pattern that fails does not matter. -/
theorem atBlank_append_of_fails (hp : p.atBlank = .fails) : (p ++ q).atBlank = .fails := by
  rw [atBlank_append, hp]

/-- What the form of a pattern tells about its ways from a place. -/
def AtBlank.Holds (x : Place) (places : List Place) : AtBlank → Prop
  | .fails => places = []
  | .stays => ∀ y ∈ places, y = x
  | .moves => True

theorem ways_one_of_beforeBlank (hx : x.BeforeBlank) (hallowed : rejectsBlanks allowed = true) :
    (one allowed).ways x = [] := by
  cases ha : x.after with
  | nil => exact ways_one_nil ha
  | cons c rest =>
    rw [ways_one_cons ha, hx.not_allowed hallowed ha]
    rfl

theorem ways_run_of_beforeBlank (hx : x.BeforeBlank) (hallowed : rejectsBlanks allowed = true) :
    (run allowed).ways x = [x] := by
  cases ha : x.after with
  | nil => exact ways_run_nil ha
  | cons c rest =>
    rw [ways_run_cons ha, hx.not_allowed hallowed ha]
    rfl

theorem holds_sequence (hp : p.atBlank.Holds x (p.ways x)) (hq : q.atBlank.Holds x (q.ways x)) :
    (sequence p q).atBlank.Holds x ((sequence p q).ways x) := by
  rw [atBlank, ways]
  cases hpa : p.atBlank with
  | fails =>
    rw [hpa] at hp
    have hnone : p.ways x = [] := hp
    rw [hnone]
    rfl
  | stays =>
    rw [hpa] at hp
    -- all that follows starts at the place itself
    have hways : (p.ways x).flatMap q.ways = (p.ways x).flatMap fun _ => q.ways x :=
      List.flatMap_congr fun y hy => by rw [hp y hy]
    rw [hways]
    cases hqa : q.atBlank with
    | fails =>
      rw [hqa] at hq
      exact List.flatMap_eq_nil_iff.2 fun _ _ => hq
    | stays =>
      rw [hqa] at hq
      intro y hy
      obtain ⟨_, -, hy⟩ := List.mem_flatMap.1 hy
      exact hq y hy
    | moves => trivial
  | moves => trivial

theorem holds_choice (hp : p.atBlank.Holds x (p.ways x)) (hq : q.atBlank.Holds x (q.ways x)) :
    (choice p q).atBlank.Holds x ((choice p q).ways x) := by
  rw [atBlank, ways]
  cases hpa : p.atBlank with
  | fails =>
    rw [hpa] at hp
    have hnone : p.ways x = [] := hp
    rw [hnone, List.nil_append]
    exact hq
  | stays =>
    rw [hpa] at hp
    cases hqa : q.atBlank with
    | fails =>
      rw [hqa] at hq
      have hnone : q.ways x = [] := hq
      rw [hnone, List.append_nil]
      exact hp
    | stays =>
      rw [hqa] at hq
      exact fun y hy => (List.mem_append.1 hy).elim (hp y) (hq y)
    | moves => trivial
  | moves => cases q.atBlank <;> trivial

theorem holds_many (hp : p.atBlank.Holds x (p.ways x)) :
    (many p).atBlank.Holds x ((many p).ways x) := by
  rw [atBlank]
  split
  · rename_i hpa
    rw [hpa] at hp
    have hnone : p.ways x = [] := hp
    have hself : (many p).ways x = [x] := by
      cases ha : x.after <;> simp [ways, manyWays, hnone, ha]
    rw [hself]
    exact fun y hy => List.mem_singleton.1 hy
  · trivial

/-- The form of a pattern tells what it does in front of a blank. -/
theorem holds_atBlank (hx : x.BeforeBlank) : p.atBlank.Holds x (p.ways x) := by
  induction p with
  | nothing => exact fun y hy => List.mem_singleton.1 hy
  | one allowed =>
    rw [atBlank]
    split
    · rename_i hallowed
      exact ways_one_of_beforeBlank hx hallowed
    · trivial
  | run allowed =>
    rw [atBlank]
    split
    · rename_i hallowed
      rw [ways_run_of_beforeBlank hx hallowed]
      exact fun y hy => List.mem_singleton.1 hy
    · trivial
  | sequence p q ihp ihq => exact holds_sequence ihp ihq
  | choice p q ihp ihq => exact holds_choice ihp ihq
  | many p ih => exact holds_many ih
  | wordEdge | lineEnd =>
    rw [ways]
    split
    · exact fun y hy => List.mem_singleton.1 hy
    · exact fun y hy => absurd hy List.not_mem_nil

theorem ways_eq_nil_of_fails (hp : p.atBlank = .fails) (hx : x.BeforeBlank) : p.ways x = [] := by
  have hholds : p.atBlank.Holds x (p.ways x) := holds_atBlank hx
  rwa [hp] at hholds

theorem eq_of_stays (hp : p.atBlank = .stays) (hx : x.BeforeBlank) : ∀ y ∈ p.ways x, y = x := by
  have hholds : p.atBlank.Holds x (p.ways x) := holds_atBlank hx
  rwa [hp] at hholds

end Pattern

end LineKin
