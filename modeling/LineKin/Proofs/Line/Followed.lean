import LineKin.Proofs.Pattern.Ahead

/-!
# Names in front of a sign

Many shapes are a whole word and, behind any number of blanks, a piece that starts with a sign: a
character that is neither a blank nor a part of a word (`inFrontOf`). There is at most one way to read the
word and the blanks, so such a shape fits exactly where a whole word stands, and as its piece fits behind
the blanks (`at?_inFrontOf`). No other word starts up to the sign (`Place.Word.not_before_sign`).

* **`mem_namesIn_followedBy_iff`**: the names in front of a sign are exactly the whole words with only
  blanks between them and the sign.
-/

namespace LineKin

open Text Line

namespace Place

variable {x y z u v : Place} {word other passed more : List Char} {c : Char}

/-- Only blanks stand between the two places. -/
def Skips (x z : Place) : Prop := ∃ gap, x.Leads gap z ∧ AllBlank gap

/-- The character ahead is a sign. -/
def BeforeSign (x : Place) : Prop :=
  x.after.head?.any (fun c => !isBlank c && !isWordChar c) = true

theorem BeforeSign.exists_cons (h : x.BeforeSign) :
    ∃ c rest, x.after = c :: rest ∧ isBlank c = false ∧ isWordChar c = false := by
  rw [BeforeSign] at h
  cases hx : x.after with
  | nil =>
    rw [hx] at h
    exact Bool.noConfusion h
  | cons c rest =>
    rw [hx, List.head?_cons, Option.any_some, Bool.and_eq_true, Bool.not_eq_true',
      Bool.not_eq_true'] at h
    exact ⟨c, rest, rfl, h⟩

theorem BeforeSign.beforeInk (h : x.BeforeSign) : x.BeforeInk := by
  obtain ⟨c, rest, hx, hc, -⟩ := h.exists_cons
  rw [BeforeInk, hx, List.head?_cons, Option.any_some, hc]
  rfl

theorem beforeSign_of_head? (h : x.after.head? = some c) (hc : isBlank c = false)
    (hc' : isWordChar c = false) : x.BeforeSign := by
  rw [BeforeSign, h, Option.any_some, hc, hc']
  rfl

/-- Of two later places, the farther one lies behind the nearer one. -/
theorem Leads.of_le (hu : x.Leads passed u) (hv : x.Leads more v) (hle : u.passed ≤ v.passed) :
    ∃ rest, more = passed ++ rest ∧ u.Leads rest v := by
  have hlength : passed.length ≤ more.length := by
    have := hu.passed_eq
    have := hv.passed_eq
    omega
  have hprefix : passed <+: more :=
    List.prefix_of_prefix_length_le ⟨u.after, hu.1.symm⟩ ⟨v.after, hv.1.symm⟩ hlength
  obtain ⟨rest, rfl⟩ := hprefix
  refine ⟨rest, rfl, ?_, ?_⟩
  · have hafter := hv.1
    rw [hu.1, List.append_assoc] at hafter
    exact List.append_cancel_left hafter
  · rw [hv.2, hu.2, List.reverse_append, List.append_assoc]

theorem Skips.refl (x : Place) : x.Skips x := ⟨[], .refl x, nofun⟩

theorem Skips.takeWhile_eq (h : x.Skips z) (hz : z.BeforeInk) :
    ∃ gap, x.Leads gap z ∧ gap = x.after.takeWhile isBlank := by
  obtain ⟨gap, hleads, hgap⟩ := h
  obtain ⟨c, rest, hafter, hc⟩ := hz.exists_cons
  refine ⟨gap, hleads, ?_⟩
  rw [hleads.1, List.takeWhile_append_of_pos hgap, hafter, List.takeWhile_cons_of_neg (by simp [hc]),
    List.append_nil]

/-- The next place that is not in front of a blank is only one. -/
theorem Skips.unique (h : x.Skips y) (h' : x.Skips z) (hy : y.BeforeInk) (hz : z.BeforeInk) :
    y = z := by
  obtain ⟨gap, hleads, rfl⟩ := h.takeWhile_eq hy
  obtain ⟨gap, hleads', rfl⟩ := h'.takeWhile_eq hz
  exact hleads.unique hleads'

/-- No word goes on in front of a sign or of the blanks before it. -/
theorem Skips.not_isWordChar (h : x.Skips z) (hz : z.BeforeSign) :
    x.after.head?.any isWordChar = false := by
  obtain ⟨gap, hleads, hgap⟩ := h
  rw [hleads.1]
  cases gap with
  | nil =>
    obtain ⟨c, rest, hafter, -, hc⟩ := hz.exists_cons
    rw [hafter, List.nil_append, List.head?_cons, Option.any_some, hc]
  | cons c gap => exact hgap.any_head? rejectsBlanks_isWordChar

/-- Where blanks end, no word goes on, unless there are none. -/
theorem Skips.before_or_eq (h : x.Skips y) : y.before.head?.any isWordChar = false ∨ y = x := by
  obtain ⟨gap, hleads, hgap⟩ := h
  rw [hleads.2]
  cases hrev : gap.reverse with
  | nil =>
    rw [List.reverse_eq_nil_iff.1 hrev] at hleads
    exact .inr (hleads.unique (.refl x))
  | cons c cs => exact .inl ((hrev ▸ hgap.reverse).any_head? rejectsBlanks_isWordChar)

theorem Skips.not_isWordChar_before (h : x.Skips y) (hx : x.before.head?.any isWordChar = false) :
    y.before.head?.any isWordChar = false := by
  rcases h.before_or_eq with hy | rfl
  · exact hy
  · exact hx

theorem Word.isWordChar_head? (h : x.Word word y) : x.after.head?.any isWordChar = true := by
  obtain ⟨c, rest, rfl, hc, -⟩ := h.isIdentifier.exists_cons
  rw [h.leads.1, List.cons_append, List.head?_cons, Option.any_some]
  exact isWordChar_of_isNamePart (isNamePart_of_isNameStart hc)

/-- Between the start of a word and a sign behind it, no other word starts. -/
theorem Word.not_before_sign (h : x.Word word y) (hskip : y.Skips z) (hz : z.BeforeSign)
    (hu : x.Leads (c :: passed) u) (hle : u.passed ≤ z.passed) : ¬ u.Word other v := by
  rcases Nat.lt_or_ge u.passed y.passed with hlt | hge
  · exact h.not_inside hu hlt
  · intro hother
    obtain ⟨gap, hgap, hblank⟩ := hskip
    obtain ⟨ds, -, hds⟩ := h.leads.of_le hu hge
    obtain ⟨es, rfl, hes⟩ := hds.of_le hgap hle
    have hrest : u.Skips z := ⟨es, hes, fun c hc => hblank c (List.mem_append_right ds hc)⟩
    have hhead := hother.isWordChar_head?
    rw [hrest.not_isWordChar hz] at hhead
    exact Bool.noConfusion hhead

end Place

namespace Pattern

open Place

variable {p q : Pattern} {x z : Place} {c : Char}

theorem mem_ways_blanks : z ∈ blanks.ways x ↔ x.Skips z := mem_ways_run

theorem mem_ways_char {y : Place} : y ∈ (Pattern.char c).ways x ↔ x.Leads [c] y := by
  rw [Pattern.char, mem_ways_one]
  constructor
  · rintro ⟨d, hd, heq⟩
    exact beq_iff_eq.1 heq ▸ hd
  · exact fun h => ⟨c, h, beq_self_eq_true c⟩

theorem mem_ways_gap {y : Place} :
    y ∈ gap.ways x ↔ ∃ c z, x.Leads [c] z ∧ isBlank c = true ∧ z.Skips y := by
  rw [gap, mem_ways_append]
  simp only [mem_ways_one]
  constructor
  · rintro ⟨z, ⟨c, hz, hc⟩, hy⟩
    exact ⟨c, z, hz, hc, mem_ways_run.1 hy⟩
  · rintro ⟨c, z, hz, hc, hy⟩
    exact ⟨z, ⟨c, hz, hc⟩, mem_ways_run.2 hy⟩

/-- Every piece of the pattern starts with a sign. -/
def StartsWithSign (p : Pattern) : Prop := ∀ x, ∀ y ∈ p.ways x, x.BeforeSign

theorem startsWithSign_char (hc : isBlank c = false) (hc' : isWordChar c = false) :
    (Pattern.char c).StartsWithSign := by
  intro x y hy
  exact beforeSign_of_head? (by rw [(mem_ways_char.1 hy).1]; rfl) hc hc'

theorem StartsWithSign.append (hp : p.StartsWithSign) (q : Pattern) : (p ++ q).StartsWithSign := by
  intro x y hy
  obtain ⟨z, hz, -⟩ := mem_ways_append.1 hy
  exact hp x z hz

theorem StartsWithSign.ways_eq_nil (hp : p.StartsWithSign) (hx : ¬ x.BeforeSign) : p.ways x = [] :=
  List.eq_nil_iff_forall_not_mem.2 fun y hy => hx (hp x y hy)

theorem StartsWithSign.failsAtBlank (hp : p.StartsWithSign) : FailsAtBlank fun x => p.ways x := by
  intro x hx
  refine hp.ways_eq_nil fun hsign => ?_
  obtain ⟨c, rest, hafter, hc, -⟩ := hsign.exists_cons
  rw [hx c (by rw [hafter]; rfl)] at hc
  exact Bool.noConfusion hc

theorem StartsWithSign.ways_of_inside (hp : p.StartsWithSign) (hx : x.Inside) : p.ways x = [] := by
  refine hp.ways_eq_nil fun hsign => ?_
  obtain ⟨c, rest, hafter, -, hc⟩ := hsign.exists_cons
  have hpart := hx.after
  rw [hafter, List.head?_cons, Option.any_some] at hpart
  rw [isWordChar_of_isNamePart hpart] at hc
  exact Bool.noConfusion hc

end Pattern

namespace Line

open Pattern Place

variable {p : Pattern} {x y z : Place} {word : List Char} {found : Shape.Found} {c : Char}
  {name line : String}

/-- A whole word and, behind any number of blanks, a piece of a kind. -/
def inFrontOf (p : Pattern) : Shape := { lead := wordEdge, trail := blanks ++ p }

theorem followedBy_eq (c : Char) : followedBy c = inFrontOf (Pattern.char c) := rfl

/-- Where a whole word and the blanks behind it stand, the rest is read behind them. -/
theorem founds_inFrontOf (hp : p.StartsWithSign) (hword : x.Word word y) (hskip : y.Skips z)
    (hz : z.BeforeInk) : (inFrontOf p).founds x = (p.ways z).map fun finish => ⟨word, finish⟩ := by
  have hstart : wordEdge.ways x = [x] := by rw [ways, if_pos (word_iff.1 hword).2.2.1]
  have hinside : ∀ stop : Place, stop.Inside →
      (((blanks ++ p).ways stop).map fun finish => Shape.Found.mk (x.upTo stop) finish) = [] := by
    intro stop hstop
    rw [ways_sequence, ways_blanks_of_inside hstop, List.flatMap_singleton, hp.ways_of_inside hstop,
      List.map_nil]
  have hend : y.BeforeEnd := by
    rw [BeforeEnd, Option.any_eq_false]
    intro d hd
    have hafter := hword.after
    rw [hd, Option.any_some] at hafter
    refine Bool.eq_false_iff.2 fun hpart => ?_
    rw [isWordChar_of_isNamePart hpart] at hafter
    exact Bool.noConfusion hafter
  obtain ⟨gap, hgap, hblank⟩ := hskip
  have hbehind : (blanks ++ p).ways y = p.ways z :=
    flatMap_blanks hp.failsAtBlank hgap hblank hz
  show (wordEdge.ways x).flatMap (fun start => (Pattern.name.ways start).flatMap fun stop =>
    ((blanks ++ p).ways stop).map fun finish => Shape.Found.mk (start.upTo stop) finish) = _
  rw [hstart, List.flatMap_singleton, flatMap_name hinside hword.leads hword.isIdentifier hend,
    hbehind, hword.leads.upTo_eq]

theorem at?_inFrontOf (hp : p.StartsWithSign) : (inFrontOf p).at? x = some found ↔
    ∃ y z, x.Word found.name y ∧ y.Skips z ∧ (p.ways z).head? = some found.finish := by
  have hfounds : ∀ {y z : Place} {word : List Char}, x.Word word y → y.Skips z → z.BeforeInk →
      (inFrontOf p).at? x = (p.ways z).head?.map fun finish => ⟨word, finish⟩ := by
    intro y z word hword hskip hz
    rw [Shape.at?_eq_head?, founds_inFrontOf hp hword hskip hz, List.head?_map]
  constructor
  · intro hat
    obtain ⟨start, hstart, y, hy, hfinish, hname⟩ :=
      Shape.mem_founds.1 (List.mem_of_head? (Shape.at?_eq_head? .. ▸ hat))
    obtain ⟨rfl, hedge⟩ := mem_ways_wordEdge.1 hstart
    obtain ⟨word, hleads, hword⟩ := mem_ways_name.1 hy
    obtain ⟨z, hz, hfinish⟩ := mem_ways_append.1 hfinish
    have hskip : y.Skips z := mem_ways_blanks.1 hz
    have hsign := hp z _ hfinish
    rw [hleads.upTo_eq] at hname
    have hbefore : start.before.head?.any isWordChar = false := by
      rwa [hleads.atWordEdge_start hword, Bool.not_eq_true'] at hedge
    have hstands : start.Word found.name y :=
      hname ▸ ⟨hleads, hword, hbefore, hskip.not_isWordChar hsign⟩
    refine ⟨y, z, hstands, hskip, ?_⟩
    rw [hfounds hstands hskip hsign.beforeInk, Option.map_eq_some_iff] at hat
    obtain ⟨finish, hhead, heq⟩ := hat
    rw [hhead, ← heq]
  · rintro ⟨y, z, hword, hskip, hhead⟩
    have hsign := hp z _ (List.mem_of_head? hhead)
    rw [hfounds hword hskip hsign.beforeInk, hhead]
    rfl

theorem at?_followedBy (hc : isBlank c = false) (hc' : isWordChar c = false) :
    (followedBy c).at? x = some found ↔
      ∃ y z, x.Word found.name y ∧ y.Skips z ∧ z.Leads [c] found.finish := by
  rw [followedBy_eq, at?_inFrontOf (startsWithSign_char hc hc')]
  have hhead : ∀ {z finish : Place},
      ((Pattern.char c).ways z).head? = some finish ↔ z.Leads [c] finish := by
    intro z finish
    constructor
    · exact fun h => mem_ways_char.1 (List.mem_of_head? h)
    · intro h
      rw [ways_char_of_leads h]
      rfl
  simp only [hhead]

theorem apart_followedBy (hc : isBlank c = false) (hc' : isWordChar c = false) :
    (followedBy c).Apart := by
  intro x found hat d passed u hu hlt
  obtain ⟨y, z, hword, hskip, hfinish⟩ := (at?_followedBy hc hc').1 hat
  have hsign : z.BeforeSign := beforeSign_of_head? (by rw [hfinish.1]; rfl) hc hc'
  rw [Option.eq_none_iff_forall_ne_some]
  intro other hother
  obtain ⟨v, -, hother, -⟩ := (at?_followedBy hc hc').1 hother
  have hle : u.passed ≤ z.passed := by
    have := hfinish.passed_eq
    rw [List.length_singleton] at this
    omega
  exact hword.not_before_sign hskip hsign hu hle hother

/-- **The names in front of a sign** are the whole words with only blanks between them and the sign. -/
theorem mem_namesIn_followedBy_iff (hc : isBlank c = false) (hc' : isWordChar c = false) :
    name ∈ (followedBy c).namesIn line ↔ ∃ before x y z, (Place.start line.toList).Leads before x ∧
      x.Word name.toList y ∧ y.Skips z ∧ z.after.head? = some c := by
  rw [Shape.namesIn, List.mem_map]
  simp only [Shape.mem_all_iff (apart_followedBy hc hc'), at?_followedBy hc hc']
  constructor
  · rintro ⟨_, ⟨before, x, found, hleads, ⟨y, z, hword, hskip, hfinish⟩, rfl⟩, rfl⟩
    rw [← String.toList_ofList (l := found.name)] at hword
    exact ⟨before, x, y, z, hleads, hword, hskip, by rw [hfinish.1]; rfl⟩
  · rintro ⟨before, x, y, z, hleads, hword, hskip, hhead⟩
    obtain ⟨rest, hafter⟩ : ∃ rest, z.after = c :: rest := List.head?_eq_some_iff.1 hhead
    exact ⟨name.toList, ⟨before, x, ⟨name.toList, z.behind c rest⟩, hleads,
      ⟨y, z, hword, hskip, leads_behind hafter⟩, rfl⟩, String.ofList_toList⟩

end Line

end LineKin
