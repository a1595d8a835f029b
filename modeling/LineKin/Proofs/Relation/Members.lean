import LineKin.Proofs.Document.Braces
import LineKin.Proofs.Relation.Layout
import Mathlib.Order.Bounds.Basic

/-!
# Members of a class

The members of a class are looked for in three steps: a search upwards finds the nearest head of a class,
the braces behind it are counted, and the lines of the block are looked at one by one. Each step passes
only lines from the head on, the first one up to the target and the others up to the end of the block. So
if these lines can be read, then no step fails, and no other line of the document matters.

* **`class_members_local`**: which lines are related, and that they are the same in every document that has
  the same lines from the head of the class to its end and to the target.
-/

namespace LineKin

open Line

namespace Document

variable {α : Type} {d d' : Document} {reading : String → Option α} {test : String → Bool} {found : α}
  {line : String} {c i j k t start count : Nat} {body : List String}

/-! ### Lines that can be read -/

/-- A line can be read and passes a test. -/
def Passes (d : Document) (test : String → Bool) (i : Nat) : Prop :=
  ∃ line, d.lines[i]? = some (.ok line) ∧ test line = true

theorem Passes.lt (h : d.Passes test i) : i < d.lineCount := by
  obtain ⟨line, hline, -⟩ := h
  exact (List.getElem?_eq_some_iff.1 hline).1

/-- The nearest line at or above a line that passes a test. -/
def IsNearest (d : Document) (test : String → Bool) (t c : Nat) : Prop :=
  IsGreatest {i | i ≤ t ∧ d.Passes test i} c

theorem exists_ok (hi : i < d.lineCount) (hread : ∀ e, ¬ d.FailsOn i e) :
    ∃ line, d.lines[i]? = some (.ok line) := by
  obtain ⟨line, hline⟩ := exists_line hi
  cases line with
  | error e => exact absurd hline (hread e)
  | ok line => exact ⟨line, hline⟩

/-- The texts are those of the lines of a range. -/
def Shows (d : Document) (start count : Nat) (body : List String) : Prop :=
  ∀ j line, body[j]? = some line ↔ j < count ∧ d.lines[start + j]? = some (.ok line)

theorem exists_slice (hread : ∀ i, start ≤ i → i < start + count → ∀ e, ¬ d.FailsOn i e) :
    ∃ body, d.slice start count = .ok body ∧ d.Shows start count body := by
  have hsplit := readable_split ((d.lines.drop start).take count)
  rcases hsplit with ⟨body, hpart, hok⟩ | ⟨body, e, rest, hpart, -⟩
  · refine ⟨body, ?_, fun j line => ?_⟩
    · rw [slice, range, hok, mapError_ok]
    · have hline : (body.map Except.ok)[j]? = if j < count then d.lines[start + j]? else none := by
        rw [← hpart, getElem?_part]
      rw [List.getElem?_map] at hline
      split at hline
      · rename_i hlt
        rw [← hline]
        simp [hlt]
      · rename_i hge
        rw [Option.map_eq_none_iff.1 hline]
        simp [hge]
  · -- the line that ends the reading lies in the range
    have herror : ((d.lines.drop start).take count)[body.length]? = some (.error e) := by
      rw [hpart, List.getElem?_append_right (by simp)]
      simp
    rw [getElem?_part] at herror
    split at herror
    · rename_i hlt
      exact absurd herror (hread _ (Nat.le_add_right ..) (Nat.add_lt_add_left hlt start) e)
    · cases herror

/-- The first text that passes a test is that of the first line from the beginning of the range on. -/
theorem Shows.findIdx?_eq_some_iff (h : d.Shows start count body) : body.findIdx? test = some j ↔
    j < count ∧ IsLeast {i | start ≤ i ∧ d.Passes test i} (start + j) := by
  rw [List.findIdx?_eq_some_iff_getElem]
  constructor
  · rintro ⟨hj, htest, hbefore⟩
    obtain ⟨hlt, hline⟩ := (h j body[j]).1 (List.getElem?_eq_getElem hj)
    refine ⟨hlt, ⟨Nat.le_add_right .., body[j], hline, htest⟩, ?_⟩
    rintro i ⟨hle, line, hline, htest⟩
    by_contra hlt'
    have hi : start + (i - start) = i := Nat.add_sub_cancel' hle
    have hbody := (h (i - start) line).2 ⟨by omega, by rwa [hi]⟩
    obtain ⟨hlength, heq⟩ := List.getElem?_eq_some_iff.1 hbody
    exact hbefore (i - start) (by omega) (by rwa [heq])
  · rintro ⟨hlt, ⟨-, line, hline, htest⟩, hleast⟩
    obtain ⟨hj, heq⟩ := List.getElem?_eq_some_iff.1 ((h j line).2 ⟨hlt, hline⟩)
    refine ⟨hj, by rwa [heq], fun m hm hpasses => ?_⟩
    have hm' := Nat.lt_trans hm hj
    obtain ⟨-, hline'⟩ := (h m body[m]).1 (List.getElem?_eq_getElem hm')
    have := hleast ⟨Nat.le_add_right .., body[m], hline', hpasses⟩
    omega

/-! ### The nearest line -/

theorem foundOn_eq_some_iff :
    d.foundOn reading i = some found ↔ ∃ line, d.lines[i]? = some (.ok line) ∧ reading line = some found := by
  rw [foundOn]
  split
  · rename_i text htext
    simp [htext]
  · rename_i hnone
    refine iff_of_false (by simp) ?_
    rintro ⟨line, hline, -⟩
    exact hnone line hline

theorem isSome_foundOn_iff :
    (d.foundOn reading i).isSome = true ↔ d.Passes (fun line => (reading line).isSome) i := by
  rw [Option.isSome_iff_exists]
  simp only [foundOn_eq_some_iff, Passes, Option.isSome_iff_exists]
  constructor
  · rintro ⟨found, line, hline, hfound⟩
    exact ⟨line, hline, found, hfound⟩
  · rintro ⟨line, hline, found, hfound⟩
    exact ⟨found, line, hline, hfound⟩

/-- A search upwards ends on the nearest line. -/
theorem IsNearest.searchEnd_eq (h : d.IsNearest (fun line => (reading line).isSome) t c) :
    d.searchEnd reading t = c := by
  rw [searchEnd, Nat.findGreatest_eq_iff]
  refine ⟨h.1.1, fun _ => isSome_foundOn_iff.2 h.1.2, fun i hlt hle hfound => ?_⟩
  exact absurd (h.2 ⟨hle, isSome_foundOn_iff.1 hfound⟩) (Nat.not_le.2 hlt)

/-- If all lines that it passes can be read, then a search upwards finds the nearest line. -/
theorem IsNearest.exists_nearest_eq (h : d.IsNearest (fun line => (reading line).isSome) t c)
    (ht : t < d.lineCount) (hread : ∀ i, c ≤ i → i ≤ t → ∀ e, ¬ d.FailsOn i e) :
    ∃ found, d.nearest reading t = .ok (some (c, found)) := by
  obtain ⟨line, hline, hsome⟩ := h.1.2
  obtain ⟨found, hfound⟩ := Option.isSome_iff_exists.1 hsome
  refine ⟨found, ?_⟩
  have hdown : ∀ n, c ≤ n → n ≤ t → d.nearest reading n = .ok (some (c, found)) := by
    intro n hcn
    induction n, hcn using Nat.le_induction with
    | base =>
      intro _
      exact nearest_found hline hfound
    | succ n hcn ih =>
      intro hnt
      have hbelow := hread (n + 1) (Nat.le_succ_of_le hcn) hnt
      obtain ⟨next, hnext⟩ := exists_ok (Nat.lt_of_le_of_lt hnt ht) hbelow
      have hnone : reading next = none := by
        by_contra hne
        have := h.2 ⟨hnt, next, hnext, Option.isSome_iff_ne_none.2 hne⟩
        omega
      rw [nearest_succ hnext hnone]
      exact ih (Nat.le_of_succ_le hnt)
  exact hdown t h.1.1 (Nat.le_refl t)

end Document

namespace Relation

open Document

variable {d d' : Document} {text : String} {t c k i : Nat} {counted : List Block.Placed}
  {body : List String} {found : String}

/-- The head of the class around a line: the nearest one at or above it. -/
abbrev IsClassHead (d : Document) (t c : Nat) : Prop :=
  d.IsNearest (fun line => (className? line).isSome) t c

/-- The members of a class are read off the lines of its block. -/
theorem membersOf_eq (hhead : enclosingClass d t = .ok (some (c, found)))
    (hblock : d.blockFrom c 0 = .ok ⟨c, k⟩) (hbody : d.slice c (k + 1 - c) = .ok body) :
    membersOf d t text =
      .ok ((LineSet.ofList (memberLines (memberNames text) c body)).insert c) := by
  rw [membersOf, hhead, mapError_ok, ok_bind]
  dsimp only
  rw [hblock, mapError_ok, ok_bind]
  dsimp only
  rw [hbody, mapError_ok, ok_bind]

/-- A line of a block is chosen if it is the first constructor or uses a member. -/
theorem mem_memberLines_iff (h : d.Shows c (k + 1 - c) body) {names : List String} (hck : c ≤ k) :
    i ∈ memberLines names c body ↔ i ≤ k ∧
      (IsLeast {j | c ≤ j ∧ d.Passes isConstructor j} i ∨
        c ≤ i ∧ ∃ name ∈ names, d.Passes (usesMember name) i) := by
  rw [mem_memberLines]
  constructor
  · rintro ⟨j, line, hline, hchosen, rfl⟩
    obtain ⟨hlt, hline'⟩ := (h j line).1 hline
    refine ⟨by omega, ?_⟩
    rcases hchosen with hfirst | ⟨name, hname, huse⟩
    · exact .inl (h.findIdx?_eq_some_iff.1 hfirst).2
    · exact .inr ⟨Nat.le_add_right .., name, hname, line, hline', huse⟩
  · rintro ⟨hik, hchosen⟩
    have hci : c ≤ i := by
      rcases hchosen with hleast | ⟨hci, -⟩
      · exact hleast.1.1
      · exact hci
    have hi : c + (i - c) = i := Nat.add_sub_cancel' hci
    have hlt : i - c < k + 1 - c := by omega
    rcases hchosen with hleast | ⟨-, name, hname, line, hline, huse⟩
    · obtain ⟨-, line, hline, -⟩ := hleast.1
      refine ⟨i - c, line, (h _ _).2 ⟨hlt, by rwa [hi]⟩, .inl ?_, hi⟩
      exact h.findIdx?_eq_some_iff.2 ⟨hlt, by rwa [hi]⟩
    · exact ⟨i - c, line, (h _ _).2 ⟨hlt, by rwa [hi]⟩, .inr ⟨name, hname, huse⟩, hi⟩

/-- The members of a class depend on the lines that are passed on the way. -/
theorem membersOf_congr (ht : t < d.lineCount) (hhead : IsClassHead d t c)
    (hcounted : d.CountsFrom c 0 counted) (hclosed : Block.MatchedOn counted k)
    (hfound : enclosingClass d t = .ok (some (c, found))) (hblock : d.blockFrom c 0 = .ok ⟨c, k⟩)
    (hlines : ∀ i, c ≤ i → i ≤ max t k → d'.lines[i]? = d.lines[i]?) :
    membersOf d' t text = membersOf d t text := by
  have hfound' : enclosingClass d' t = .ok (some (c, found)) := by
    rw [← hfound]
    apply nearest_congr ht
    intro i hle hge
    rw [hhead.searchEnd_eq] at hle
    exact hlines i hle (hge.trans (Nat.le_max_left t k))
  have hblock' : d'.blockFrom c 0 = .ok ⟨c, k⟩ := by
    rw [← hblock]
    apply blockFrom_congr_matched hhead.1.2.lt hcounted hclosed
    intro i hle hge
    exact hlines i hle (hge.trans (Nat.le_max_right t k))
  have hrange : d'.range c (k + 1 - c) = d.range c (k + 1 - c) := by
    apply range_congr
    intro i hle hlt
    exact hlines i hle (Nat.le_trans (by omega) (Nat.le_max_right t k))
  simp only [membersOf, hfound, hfound', hblock, hblock', slice, hrange, mapError_ok, ok_bind]

/-- **The members of a class are local to the class.** Let line `c` be the head of the class around line `t`,
and let the first brace behind it that opens a block be matched by one on line `k`. If all lines from `c` to
`k` and to `t` can be read, then the lines related to a text on `t` are found: the head, the first
constructor up to `k`, and the lines from `c` to `k` that use a member which the text names. They are the same
in every document that has the same lines from `c` to `k` and to `t`, whether its other lines are the same,
are others, cannot be read or are missing. -/
theorem class_members_local (d : Document) (text : String) (ht : t < d.lineCount)
    (hhead : IsClassHead d t c) (hcounted : d.CountsFrom c 0 counted)
    (hclosed : Block.MatchedOn counted k)
    (hread : ∀ i, c ≤ i → i ≤ max t k → ∀ e, ¬ d.FailsOn i e) :
    ∃ lines, membersOf d t text = .ok lines ∧ c ∈ lines ∧ (∀ i ∈ lines, c ≤ i ∧ i ≤ k) ∧
      (∀ i, i ∈ lines ↔ i = c ∨ i ≤ k ∧ (IsLeast {j | c ≤ j ∧ d.Passes isConstructor j} i ∨
        c ≤ i ∧ ∃ name ∈ memberNames text, d.Passes (usesMember name) i)) ∧
      ∀ d' : Document, (∀ i, c ≤ i → i ≤ max t k → d'.lines[i]? = d.lines[i]?) →
        membersOf d' t text = .ok lines := by
  have hstart : c < d.lineCount := hhead.1.2.lt
  have hck : c ≤ k := by
    rw [countsFrom_iff hstart] at hcounted
    exact (Block.mem_placedFrom (hcounted ▸ hclosed.mem)).1
  obtain ⟨found, hfound⟩ := hhead.exists_nearest_eq ht fun i hle hge =>
    hread i hle (hge.trans (Nat.le_max_left t k))
  have hblock : d.blockFrom c 0 = .ok ⟨c, k⟩ := by
    rw [blockFrom_eq_ok_iff hstart hcounted (.inl hclosed)]
    exact ⟨rfl, fun i hle hge => hread i hle (hge.trans (Nat.le_max_right t k))⟩
  have hslice : ∃ body, d.slice c (k + 1 - c) = .ok body ∧ d.Shows c (k + 1 - c) body := by
    apply exists_slice
    intro i hle hlt
    exact hread i hle (Nat.le_trans (by omega) (Nat.le_max_right t k))
  obtain ⟨body, hbody, hshows⟩ := hslice
  have hmembers : membersOf d t text = _ := membersOf_eq hfound hblock hbody
  have hmem : ∀ i, i ∈ (LineSet.ofList (memberLines (memberNames text) c body)).insert c ↔
      i = c ∨ i ≤ k ∧ (IsLeast {j | c ≤ j ∧ d.Passes isConstructor j} i ∨
        c ≤ i ∧ ∃ name ∈ memberNames text, d.Passes (usesMember name) i) := by
    intro i
    rw [LineSet.mem_insert, LineSet.mem_ofList, mem_memberLines_iff hshows hck]
  refine ⟨_, hmembers, (hmem c).2 (.inl rfl), fun i hi => ?_, hmem, fun d' hlines => ?_⟩
  · rcases (hmem i).1 hi with rfl | ⟨hik, hleast | ⟨hci, -⟩⟩
    · exact ⟨Nat.le_refl i, hck⟩
    · exact ⟨hleast.1.1, hik⟩
    · exact ⟨hci, hik⟩
  · rw [membersOf_congr ht hhead hcounted hclosed hfound hblock hlines]
    exact hmembers

/-- A class with a use of one of its members behind it, between two lines that cannot be read. -/
def hiddenAround : Document :=
  ⟨"javascript", [.error (.binaryFile "a.js"), .ok "class Timer \x7b", .ok "  tick() \x7b this.n = 1; \x7d",
    .ok "\x7d", .ok "timer.tick();", .error (.binaryFile "a.js")]⟩

theorem class_members_local_hiddenAround : 4 < hiddenAround.lineCount ∧ IsClassHead hiddenAround 4 1 ∧
    (∃ counted, hiddenAround.CountsFrom 1 0 counted ∧ Block.MatchedOn counted 3) ∧
    (∀ i, 1 ≤ i → i ≤ max 4 3 → ∀ e, ¬ hiddenAround.FailsOn i e) ∧
    ∃ lines, membersOf hiddenAround 4 "timer.tick();" = .ok lines ∧ 1 ∈ lines ∧
      (∀ i ∈ lines, 1 ≤ i ∧ i ≤ 3) ∧
      ∀ d' : Document, (∀ i, 1 ≤ i → i ≤ max 4 3 → d'.lines[i]? = hiddenAround.lines[i]?) →
        membersOf d' 4 "timer.tick();" = .ok lines := by
  have ht : 4 < hiddenAround.lineCount := by decide
  have hhead : IsClassHead hiddenAround 4 1 := by
    refine ⟨⟨by decide, "class Timer \x7b", rfl, by decide +kernel⟩, ?_⟩
    rintro i ⟨hi, line, hline, hclass⟩
    by_contra hlt
    obtain rfl | rfl | rfl : i = 2 ∨ i = 3 ∨ i = 4 := by omega
    all_goals
      obtain rfl := Except.ok.inj (Option.some.inj hline)
      revert hclass
      decide +kernel
  have hcounted : hiddenAround.CountsFrom 1 0 (Block.placedFrom 0 (hiddenAround.lines.drop 1) 1) :=
    (countsFrom_iff (by decide)).2 rfl
  have hclosed : Block.MatchedOn (Block.placedFrom 0 (hiddenAround.lines.drop 1) 1) 3 := by
    apply Block.closingIn_eq_some_iff.1
    decide +kernel
  have hread : ∀ i, 1 ≤ i → i ≤ max 4 3 → ∀ e, ¬ hiddenAround.FailsOn i e := by
    intro i hle hge e hfails
    obtain rfl | rfl | rfl | rfl : i = 1 ∨ i = 2 ∨ i = 3 ∨ i = 4 := by omega
    all_goals cases Option.some.inj hfails
  obtain ⟨lines, hlines, hmem, hbounds, -, hlocal⟩ :=
    class_members_local hiddenAround "timer.tick();" ht hhead hcounted hclosed hread
  exact ⟨ht, hhead, ⟨_, hcounted, hclosed⟩, hread, lines, hlines, hmem, hbounds, hlocal⟩

end Relation

end LineKin
