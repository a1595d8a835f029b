import LineKin.Proofs.Pattern.Padding
import Mathlib.Data.List.Forall2

/-!
# Fits in padded lines

A shape is read at the same place of a line and of the line with blanks put at its end. The fits come
in the same order, with the same names, and end at the same places (`Shape.Settled`); only a fit that
takes in the end of the line may end a little later in the padded one (`Place.Meets`), as happens with
the character behind an equals sign.

A pattern is settled if it is firm, and a sequence is settled if its second part is and its first part
never runs into the blanks or is no use there (`Pattern.Settled.sequence`). The conditions can be
computed: `Shape.settles`.
-/

namespace LineKin

open Text

/-- A place of a line and a place of the line with more characters at its end are the same, or both
are behind all that the line has. -/
def Place.Meets (back : List Char) (x y : Place) : Prop :=
  y = x.extend back ∨ x.after = [] ∧ x.passed ≤ y.passed

namespace Pattern

open Place

variable {p q : Pattern} {x : Place} {back : List Char} {α : Type}

/-- Whether blanks at the end of a line change nothing about the ways of the pattern, but for ways to
the end of the line. -/
structure Settled (p : Pattern) : Prop where
  /-- The ways from a place of a line and of the padded line. -/
  ways_meet : ∀ {back : List Char}, AllBlank back → ∀ x : Place,
    List.Forall₂ (Meets back) (p.ways x) (p.ways (x.extend back))

theorem Settled.of_firm (hp : p.firm = true) : p.Settled := by
  refine ⟨fun {back} h x => ?_⟩
  rw [ways_extend hp h, List.forall₂_map_right_iff, List.forall₂_same]
  exact fun y _ => .inl rfl

/-- What follows a way into the blanks does not count if nothing can follow there. -/
theorem flatMap_ways_extend {f : Place → List α} (hp : p.endFree = true) (h : AllBlank back)
    (hf : ∀ y ∈ p.ways (x.extend back), y.within back = false → f y = []) :
    (p.ways (x.extend back)).flatMap f = (p.ways x).flatMap fun y => f (y.extend back) := by
  have hkept : ∀ places : List Place, (∀ y ∈ places, y.within back = false → f y = []) →
      places.flatMap f = (places.filter (within back)).flatMap f := by
    intro places hplaces
    induction places with
    | nil => rfl
    | cons y places ih =>
      have ih := ih fun z hz => hplaces z (List.mem_cons_of_mem _ hz)
      cases hy : y.within back with
      | true => rw [List.filter_cons_of_pos hy, List.flatMap_cons, List.flatMap_cons, ih]
      | false =>
        rw [List.filter_cons_of_neg (by simp [hy]), List.flatMap_cons,
          hplaces y List.mem_cons_self hy, List.nil_append, ih]
  rw [hkept _ hf, ways_extend_within hp h, List.flatMap_map]

theorem Settled.sequence (hp : p.endFree = true) (hpq : p.inkLast = true ∨ q.needsInk = true)
    (hq : q.Settled) : (p ++ q).Settled := by
  refine ⟨fun {back} h x => ?_⟩
  have hout : ∀ y ∈ p.ways (x.extend back), y.within back = false → q.ways y = [] := by
    intro y hy hy'
    rcases hpq with hlast | hneeds
    · rw [within_of_inkLast hp hlast h hy] at hy'
      exact Bool.noConfusion hy'
    · exact ways_eq_nil_of_needsInk hneeds (allBlank_of_not_within h hy hy')
  rw [ways_sequence, ways_sequence, flatMap_ways_extend hp h hout]
  refine List.rel_flatMap (R := Eq) (List.forall₂_eq_eq_eq ▸ rfl) ?_
  rintro y _ rfl
  exact hq.ways_meet h y

/-- A settled pattern has ways in a line exactly if it has them in the padded line. -/
theorem Settled.isEmpty_ways (hp : p.Settled) (h : AllBlank back) (x : Place) :
    (p.ways (x.extend back)).isEmpty = (p.ways x).isEmpty := by
  rw [Bool.eq_iff_iff, List.isEmpty_iff_length_eq_zero, List.isEmpty_iff_length_eq_zero,
    (hp.ways_meet h x).length_eq]

theorem Settled.opens_append (hp : p.Settled) (h : AllBlank back) (text : List Char) :
    p.opens (text ++ back) = p.opens text :=
  congrArg not (hp.isEmpty_ways h (.start text))

/-! ### Patterns that begin with any blanks -/

/-- Whether a class of characters holds all blanks. -/
def acceptsBlanks (allowed : Char → Bool) : Bool :=
  blankPoints.all fun point => allowed (Char.ofNat point)

theorem eq_true_of_acceptsBlanks {allowed : Char → Bool} {c : Char}
    (h : acceptsBlanks allowed = true) (hc : isBlank c = true) : allowed c = true := by
  have := List.all_eq_true.1 h c.toNat (toNat_mem_blankPoints hc)
  simpa using this

/-- Whether the pattern may pass blanks first and goes on to nothing in front of a blank. -/
def passesBlanks : Pattern → Bool
  | run allowed => acceptsBlanks allowed
  | sequence p q => p.passesBlanks && q.atBlank != .moves
  | nothing | one _ | choice _ _ | many _ | wordEdge | lineEnd => false

/-- Whether the pattern passes all blanks first. -/
def anchored : Pattern → Bool
  | sequence p q => p.anchored || (p.passesBlanks && q.atBlank == .fails)
  | nothing | one _ | run _ | choice _ _ | many _ | wordEdge | lineEnd => false

/-- The ways from a place in front of a blank that do not pass the blank stay at the place. -/
theorem exists_ways_of_passesBlanks {c : Char} {rest : List Char} (hp : p.passesBlanks = true)
    (hx : x.after = c :: rest) (hc : isBlank c = true) :
    ∃ stay, p.ways x = p.ways (x.behind c rest) ++ stay ∧ ∀ y ∈ stay, y = x := by
  induction p with
  | run allowed =>
    rw [ways_run_cons hx, if_pos (eq_true_of_acceptsBlanks hp hc)]
    exact ⟨[x], rfl, by simp⟩
  | sequence p q ihp =>
    rw [passesBlanks, Bool.and_eq_true, bne_iff_ne] at hp
    obtain ⟨stay, heq, hstay⟩ := ihp hp.1
    have hblank := BeforeBlank.of_after hx hc
    refine ⟨stay.flatMap q.ways, by rw [ways, ways, heq, List.flatMap_append], fun y hy => ?_⟩
    obtain ⟨z, hz, hy⟩ := List.mem_flatMap.1 hy
    obtain rfl := hstay z hz
    cases hq : q.atBlank with
    | fails => simp [ways_eq_nil_of_fails hq hblank] at hy
    | stays => exact eq_of_stays hq hblank y hy
    | moves => exact absurd hq hp.2
  | nothing | one | choice | many | wordEdge | lineEnd => exact Bool.noConfusion hp

theorem ways_of_anchored {c : Char} {rest : List Char} (hp : p.anchored = true)
    (hx : x.after = c :: rest) (hc : isBlank c = true) : p.ways x = p.ways (x.behind c rest) := by
  induction p with
  | sequence p q ihp =>
    rw [anchored, Bool.or_eq_true, Bool.and_eq_true, beq_iff_eq] at hp
    rw [ways, ways]
    rcases hp with hp | ⟨hp, hq⟩
    · rw [ihp hp]
    · obtain ⟨stay, heq, hstay⟩ := exists_ways_of_passesBlanks hp hx hc
      have hblank := BeforeBlank.of_after hx hc
      have hnone : stay.flatMap q.ways = [] :=
        List.flatMap_eq_nil_iff.2 fun y hy => by rw [hstay y hy, ways_eq_nil_of_fails hq hblank]
      rw [heq, List.flatMap_append, hnone, List.append_nil]
  | nothing | one | run | choice | many | wordEdge | lineEnd => exact Bool.noConfusion hp

end Pattern

end LineKin
