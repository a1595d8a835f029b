import LineKin.Pattern
import Mathlib.Data.List.Basic

/-!
# Where the pieces of a pattern end

`x.Leads passed y` says that the place `y` lies behind `x` on the same line, with the characters
`passed` between the two. Every way of a pattern leads on (`exists_leads_of_mem_ways`), and
`Place.upTo` reads off what was passed (`Leads.upTo_eq`).

A repetition tries as many pieces as there are characters ahead. For a piece that passes at least one
character (`Pattern.consumes`) this is no limit: the repetition is a piece followed by the repetition,
or nothing (`ways_many`).
-/

namespace LineKin

namespace Place

variable {x y z : Place} {cs ds : List Char} {c : Char}

/-- The second place lies behind the first, with the given characters between them. -/
def Leads (x : Place) (passed : List Char) (y : Place) : Prop :=
  x.after = passed ++ y.after ∧ y.before = passed.reverse ++ x.before

theorem Leads.refl (x : Place) : x.Leads [] x := ⟨rfl, rfl⟩

theorem Leads.trans (h : x.Leads cs y) (h' : y.Leads ds z) : x.Leads (cs ++ ds) z := by
  refine ⟨by rw [h.1, h'.1, List.append_assoc], ?_⟩
  rw [h'.2, h.2, List.reverse_append, List.append_assoc]

theorem leads_behind (h : x.after = c :: cs) : x.Leads [c] (x.behind c cs) := ⟨h, rfl⟩

theorem Leads.of_cons (h : x.Leads (c :: cs) y) : (x.behind c (cs ++ y.after)).Leads cs y :=
  ⟨rfl, by rw [h.2, List.reverse_cons, List.append_assoc]; rfl⟩

theorem Leads.length_eq (h : x.Leads cs y) : x.after.length = cs.length + y.after.length := by
  rw [h.1, List.length_append]

/-- The characters between two places are those that were passed. -/
theorem Leads.upTo_eq (h : x.Leads cs y) : x.upTo y = cs := by
  have hpassed : y.passed - x.passed = cs.length := by
    rw [y.passed_eq, x.passed_eq, h.2, List.length_append, List.length_reverse]
    omega
  rw [upTo, hpassed, h.1, List.take_left]

end Place

namespace Pattern

open Place

variable {p q : Pattern} {x y : Place} {allowed : Char → Bool} {c : Char} {cs : List Char}

/-! ### Runs -/

theorem runWays_append (x : Place) (cs : List Char) (nearer more : List Place) :
    runWays allowed x cs (nearer ++ more) = runWays allowed x cs nearer ++ more := by
  induction cs generalizing x nearer with
  | nil => rfl
  | cons c cs ih =>
    rw [runWays, runWays]
    split
    · exact ih (x.behind c cs) (x :: nearer)
    · rfl

theorem ways_run_nil (h : x.after = []) : (run allowed).ways x = [x] := by
  rw [ways, h]
  rfl

/-- A run goes on behind a character of its class, and may also end in front of it. -/
theorem ways_run_cons (h : x.after = c :: cs) : (run allowed).ways x =
    if allowed c then (run allowed).ways (x.behind c cs) ++ [x] else [x] := by
  rw [ways, h, runWays]
  split
  · exact runWays_append (x.behind c cs) cs [] [x]
  · rfl

/-- A run ends behind any number of characters of its class. -/
theorem mem_ways_run : y ∈ (run allowed).ways x ↔ ∃ cs, x.Leads cs y ∧ ∀ c ∈ cs, allowed c = true := by
  induction hx : x.after generalizing x with
  | nil =>
    rw [ways_run_nil hx, List.mem_singleton]
    constructor
    · rintro rfl
      exact ⟨[], .refl y, by simp⟩
    · rintro ⟨cs, hleads, -⟩
      have hcs : cs = [] := (List.append_eq_nil_iff.1 (hx ▸ hleads.1).symm).1
      subst hcs
      exact Place.ext hleads.2 hleads.1.symm
  | cons c rest ih =>
    rw [ways_run_cons hx]
    constructor
    · intro hmem
      split at hmem
      · rename_i hc
        rcases List.mem_append.1 hmem with hmem | hmem
        · obtain ⟨cs, hleads, hall⟩ := (ih rfl).1 hmem
          refine ⟨c :: cs, (leads_behind hx).trans hleads, ?_⟩
          simpa [hc] using hall
        · rw [List.mem_singleton.1 hmem]
          exact ⟨[], .refl x, by simp⟩
      · rw [List.mem_singleton.1 hmem]
        exact ⟨[], .refl x, by simp⟩
    · rintro ⟨cs, hleads, hall⟩
      cases cs with
      | nil =>
        rw [Place.ext hleads.2 hleads.1.symm]
        split <;> simp
      | cons d ds =>
        have hafter := hleads.1
        rw [hx, List.cons_append, List.cons.injEq] at hafter
        obtain ⟨rfl, hrest⟩ := hafter
        rw [if_pos (hall c List.mem_cons_self), List.mem_append]
        subst hrest
        exact .inl ((ih rfl).2 ⟨ds, hleads.of_cons, fun e he => hall e (List.mem_cons_of_mem _ he)⟩)

theorem mem_ways_one : y ∈ (one allowed).ways x ↔ ∃ c, x.Leads [c] y ∧ allowed c = true := by
  cases hx : x.after with
  | nil =>
    rw [ways_one_nil hx]
    simp [Leads, hx]
  | cons c rest =>
    rw [ways_one_cons hx]
    constructor
    · intro hmem
      split at hmem
      · rename_i hc
        rw [List.mem_singleton.1 hmem]
        exact ⟨c, leads_behind hx, hc⟩
      · simp at hmem
    · rintro ⟨d, hleads, hd⟩
      have hafter := hleads.1
      rw [hx, List.singleton_append, List.cons.injEq] at hafter
      obtain ⟨rfl, hrest⟩ := hafter
      rw [if_pos hd, List.mem_singleton]
      exact Place.ext hleads.2 hrest.symm

/-! ### All ways lead on -/

theorem exists_leads_of_mem_manyWays {step : Place → List Place}
    (hstep : ∀ x, ∀ y ∈ step x, ∃ cs, x.Leads cs y) (h : y ∈ manyWays step cs x) :
    ∃ ds, x.Leads ds y := by
  induction cs generalizing x with
  | nil =>
    rw [manyWays, List.mem_singleton] at h
    exact ⟨[], h ▸ .refl x⟩
  | cons c cs ih =>
    rw [manyWays, List.mem_append, List.mem_flatMap, List.mem_singleton] at h
    rcases h with ⟨z, hz, hy⟩ | rfl
    · obtain ⟨ds, hds⟩ := hstep x z hz
      obtain ⟨es, hes⟩ := ih hy
      exact ⟨ds ++ es, hds.trans hes⟩
    · exact ⟨[], .refl y⟩

theorem exists_leads_of_mem_ways (h : y ∈ p.ways x) : ∃ cs, x.Leads cs y := by
  induction p generalizing x y with
  | nothing => exact ⟨[], List.mem_singleton.1 h ▸ .refl x⟩
  | one allowed =>
    obtain ⟨c, hc, -⟩ := mem_ways_one.1 h
    exact ⟨[c], hc⟩
  | run allowed =>
    obtain ⟨cs, hcs, -⟩ := mem_ways_run.1 h
    exact ⟨cs, hcs⟩
  | sequence p q ihp ihq =>
    obtain ⟨z, hz, hy⟩ := List.mem_flatMap.1 h
    obtain ⟨cs, hcs⟩ := ihp hz
    obtain ⟨ds, hds⟩ := ihq hy
    exact ⟨cs ++ ds, hcs.trans hds⟩
  | choice p q ihp ihq => exact (List.mem_append.1 h).elim ihp ihq
  | many p ih => exact exists_leads_of_mem_manyWays (fun _ _ => ih) h
  | wordEdge | lineEnd =>
    rw [ways] at h
    split at h
    · exact ⟨[], List.mem_singleton.1 h ▸ .refl x⟩
    · simp at h

/-- No way leads back. -/
theorem length_after_le (h : y ∈ p.ways x) : y.after.length ≤ x.after.length := by
  obtain ⟨cs, hcs⟩ := exists_leads_of_mem_ways h
  have := hcs.length_eq
  omega

/-! ### Repetitions -/

/-- Whether every piece of the pattern passes at least one character. -/
def consumes : Pattern → Bool
  | one _ => true
  | sequence p q => p.consumes || q.consumes
  | choice p q => p.consumes && q.consumes
  | nothing | run _ | many _ | wordEdge | lineEnd => false

theorem length_after_lt (hp : p.consumes = true) (h : y ∈ p.ways x) :
    y.after.length < x.after.length := by
  induction p generalizing x y with
  | one allowed =>
    obtain ⟨c, hc, -⟩ := mem_ways_one.1 h
    have := hc.length_eq
    simp only [List.length_singleton] at this
    omega
  | sequence p q ihp ihq =>
    obtain ⟨z, hz, hy⟩ := List.mem_flatMap.1 h
    have hle := length_after_le hz
    have hle' := length_after_le hy
    rw [consumes, Bool.or_eq_true] at hp
    rcases hp with hp | hp
    · have := ihp hp hz
      omega
    · have := ihq hp hy
      omega
  | choice p q ihp ihq =>
    rw [consumes, Bool.and_eq_true] at hp
    exact (List.mem_append.1 h).elim (ihp hp.1) (ihq hp.2)
  | nothing | run | many | wordEdge | lineEnd => exact Bool.noConfusion hp

theorem manyWays_eq {step : Place → List Place} {ds : List Char}
    (hstep : ∀ x, ∀ y ∈ step x, y.after.length < x.after.length)
    (hc : x.after.length ≤ cs.length) (hd : x.after.length ≤ ds.length) :
    manyWays step cs x = manyWays step ds x := by
  have hend : ∀ x : Place, x.after.length = 0 → ∀ cs, manyWays step cs x = [x] := by
    intro x hx cs
    have hnone : step x = [] := List.eq_nil_iff_forall_not_mem.2 fun y hy => by
      have := hstep x y hy
      omega
    cases cs <;> simp [manyWays, hnone]
  induction cs generalizing x ds with
  | nil => rw [hend x (by simpa using hc), hend x (by simpa using hc)]
  | cons c cs ih =>
    cases ds with
    | nil => rw [hend x (by simpa using hd), hend x (by simpa using hd)]
    | cons d ds =>
      rw [manyWays, manyWays]
      congr 1
      refine List.flatMap_congr fun y hy => ?_
      have := hstep x y hy
      rw [List.length_cons] at hc hd
      exact ih (by omega) (by omega)

/-- A repetition is a piece and then the repetition, or else nothing. -/
theorem ways_many (hp : p.consumes = true) :
    (many p).ways x = (p.ways x).flatMap (many p).ways ++ [x] := by
  have hstep : ∀ x, ∀ y ∈ p.ways x, y.after.length < x.after.length := fun _ _ => length_after_lt hp
  cases hx : x.after with
  | nil =>
    have hnone : p.ways x = [] := List.eq_nil_iff_forall_not_mem.2 fun y hy => by
      have := hstep x y hy
      simp [hx] at this
    rw [ways, hx, hnone]
    rfl
  | cons c cs =>
    rw [ways, hx, manyWays]
    congr 1
    refine List.flatMap_congr fun y hy => ?_
    have := hstep x y hy
    rw [hx, List.length_cons] at this
    exact manyWays_eq hstep (by omega) (Nat.le_refl _)

end Pattern

end LineKin
