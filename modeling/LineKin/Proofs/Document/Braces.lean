import LineKin.Proofs.Document.Failing
import LineKin.Proofs.Line.Statement
import LineKin.Proofs.Relation.Outline
import Mathlib.Data.List.Induction

/-!
# Blocks and matching braces

A block is found by counting braces. What is counted are the characters of a document from a place of one
line on (`CountsFrom`), each with its line, where a line that cannot be read has none. The count opens a
block at the first brace that makes more braces open than closed, and the block ends at the brace that
matches this one: the text between the two is balanced (`MatchedOn`).

The walk over the characters keeps a depth and whether the block was opened. `Reached` says what these know
of the text behind the walk; each character preserves it (`Reached.step`), so it holds at the end of every
text (`reached_of_walk`). Hence the character that closes the block is the matching brace
(`closingIn_eq_some_iff`).

On a document the walk goes from line to line and reads no further than it has to (`blockFrom_cases`). So
**`block_ends_at_matching_brace`**: a block ends on the line of the matching brace, or on the last line if
there is none, and it fails exactly with the first line up to there that cannot be read.
-/

namespace LineKin

namespace Block

/-- A character and the line that it stands on. -/
abbrev Placed := Char × Nat

variable {text front before inner rest : List Placed} {progress : Progress} {depth depth' : Int}
  {opened opened' : Bool} {c : Char} {i k start column : Nat}

/-! ### Balanced texts -/

/-- How many more braces a text opens than it closes. -/
def excess (text : List Placed) : Int :=
  ((text.map (·.1)).count '{' : Int) - ((text.map (·.1)).count '}' : Int)

@[simp] theorem excess_nil : excess [] = 0 := rfl

@[simp] theorem excess_append (text more : List Placed) :
    excess (text ++ more) = excess text + excess more := by
  simp only [excess, List.map_append, List.count_append]
  omega

@[simp] theorem excess_open (i : Nat) : excess [('{', i)] = 1 := by simp [excess]

@[simp] theorem excess_close (i : Nat) : excess [('}', i)] = -1 := by simp [excess]

theorem excess_other (hopen : c ≠ '{') (hclose : c ≠ '}') (i : Nat) : excess [(c, i)] = 0 := by
  simp [excess, hopen, hclose]

/-- No beginning of a text opens more braces than it closes. -/
def StaysClosed (text : List Placed) : Prop := ∀ front, front <+: text → excess front ≤ 0

/-- No beginning of a text closes more braces than it opens. -/
def StaysOpen (text : List Placed) : Prop := ∀ front, front <+: text → 0 ≤ excess front

/-- A text closes what it opens and nothing else. -/
def Balanced (text : List Placed) : Prop := excess text = 0 ∧ StaysOpen text

/-- A brace behind a text is the first one that makes more braces open than closed. -/
def OpensBehind (before : List Placed) (i : Nat) : Prop :=
  StaysClosed before ∧ 0 < excess (before ++ [('{', i)])

/-- The first brace that makes more braces open than closed is matched by one on line `k`: what stands
between the two is balanced. -/
def MatchedOn (text : List Placed) (k : Nat) : Prop :=
  ∃ before i inner after, text = before ++ ('{', i) :: (inner ++ ('}', k) :: after) ∧
    OpensBehind before i ∧ Balanced inner

theorem staysClosed_nil : StaysClosed [] := by
  intro front hfront
  rw [List.prefix_nil.1 hfront]
  exact Int.le_refl 0

theorem staysOpen_nil : StaysOpen [] := by
  intro front hfront
  rw [List.prefix_nil.1 hfront]
  exact Int.le_refl 0

theorem StaysClosed.excess_le (h : StaysClosed text) : excess text ≤ 0 := h text (List.prefix_refl text)

theorem StaysOpen.le_excess (h : StaysOpen text) : 0 ≤ excess text := h text (List.prefix_refl text)

theorem staysClosed_concat {entry : Placed} :
    StaysClosed (text ++ [entry]) ↔ StaysClosed text ∧ excess (text ++ [entry]) ≤ 0 := by
  refine ⟨fun h => ⟨fun front hfront => ?_, h.excess_le⟩, fun ⟨h, hlast⟩ front hfront => ?_⟩
  · exact h front (hfront.trans (List.prefix_append ..))
  · rcases List.prefix_concat_iff.1 hfront with rfl | hfront
    · exact hlast
    · exact h front hfront

theorem staysOpen_concat {entry : Placed} :
    StaysOpen (text ++ [entry]) ↔ StaysOpen text ∧ 0 ≤ excess (text ++ [entry]) := by
  refine ⟨fun h => ⟨fun front hfront => ?_, h.le_excess⟩, fun ⟨h, hlast⟩ front hfront => ?_⟩
  · exact h front (hfront.trans (List.prefix_append ..))
  · rcases List.prefix_concat_iff.1 hfront with rfl | hfront
    · exact hlast
    · exact h front hfront

/-- As many braces are open as closed in front of the brace that opens a block. -/
theorem OpensBehind.excess_eq (h : OpensBehind before i) : excess before = 0 := by
  obtain ⟨hclosed, hpos⟩ := h
  have hle := hclosed.excess_le
  rw [excess_append, excess_open] at hpos
  omega

/-! ### The walk over characters -/

/-- Counts the characters of a text that are placed on lines. -/
def walkPlaced (progress : Progress) (text : List Placed) : Progress := walk progress (text.map (·.1))

@[simp] theorem walkPlaced_nil (progress : Progress) : walkPlaced progress [] = progress := rfl

@[simp] theorem walkPlaced_cons (progress : Progress) (c : Char) (i : Nat) (rest : List Placed) :
    walkPlaced progress ((c, i) :: rest) = walkPlaced (progress.step c) rest := rfl

theorem walkPlaced_append (progress : Progress) (text more : List Placed) :
    walkPlaced progress (text ++ more) = walkPlaced (walkPlaced progress text) more := by
  rw [walkPlaced, List.map_append, walk_append]
  rfl

theorem walk_closed (text : List Char) : walk .closed text = .closed := by
  induction text with
  | nil => rfl
  | cons c rest ih => exact ih

theorem step_open : (Progress.counting depth opened).step '{' =
    .counting (depth + 1) (opened || 0 < depth + 1) := rfl

theorem step_close : (Progress.counting depth opened).step '}' =
    if opened && depth - 1 = 0 then .closed else .counting (depth - 1) opened := rfl

theorem step_other (hopen : c ≠ '{') (hclose : c ≠ '}') :
    (Progress.counting depth opened).step c = .counting depth opened := by
  rw [Progress.step, if_neg hopen, if_neg hclose]

/-- What the count knows of a text behind it: while no block is open, how many braces are open more than
closed, and that this was never positive; and then, where the block was opened, and that it was not closed
since. -/
def Reached (text : List Placed) (depth : Int) : Bool → Prop
  | false => depth = excess text ∧ StaysClosed text
  | true => ∃ before i inner, text = before ++ ('{', i) :: inner ∧ OpensBehind before i ∧
    StaysOpen inner ∧ depth = excess inner + 1

/-- **A character preserves what the count knows**, unless it closes the block. -/
theorem Reached.step (h : Reached text depth opened)
    (hstep : (Progress.counting depth opened).step c = .counting depth' opened') (i : Nat) :
    Reached (text ++ [(c, i)]) depth' opened' := by
  cases opened with
  | false =>
    obtain ⟨rfl, hclosed⟩ := h
    have hle := hclosed.excess_le
    by_cases hopen : c = '{'
    · subst hopen
      rw [step_open] at hstep
      obtain ⟨rfl, rfl⟩ := Progress.counting.inj hstep
      by_cases hpos : 0 < excess text + 1
      · -- this brace opens the block
        rw [Bool.false_or, decide_eq_true hpos]
        refine ⟨text, i, [], rfl, ⟨hclosed, ?_⟩, staysOpen_nil, ?_⟩
        · rwa [excess_append, excess_open]
        · rw [excess_nil]
          omega
      · rw [Bool.false_or, decide_eq_false hpos]
        refine ⟨by rw [excess_append, excess_open], staysClosed_concat.2 ⟨hclosed, ?_⟩⟩
        rw [excess_append, excess_open]
        omega
    · by_cases hclose : c = '}'
      · subst hclose
        rw [step_close, Bool.false_and, if_neg Bool.false_ne_true] at hstep
        obtain ⟨rfl, rfl⟩ := Progress.counting.inj hstep
        refine ⟨by rw [excess_append, excess_close]; rfl, staysClosed_concat.2 ⟨hclosed, ?_⟩⟩
        rw [excess_append, excess_close]
        omega
      · rw [step_other hopen hclose] at hstep
        obtain ⟨rfl, rfl⟩ := Progress.counting.inj hstep
        have hsame := excess_other hopen hclose i
        refine ⟨by rw [excess_append, hsame, Int.add_zero], staysClosed_concat.2 ⟨hclosed, ?_⟩⟩
        rwa [excess_append, hsame, Int.add_zero]
  | true =>
    obtain ⟨before, j, inner, rfl, hopens, hinner, rfl⟩ := h
    have hle := hinner.le_excess
    have hmore : before ++ ('{', j) :: inner ++ [(c, i)] = before ++ ('{', j) :: (inner ++ [(c, i)]) := by
      rw [List.append_assoc, List.cons_append]
    rw [hmore]
    by_cases hopen : c = '{'
    · subst hopen
      rw [step_open, Bool.true_or] at hstep
      obtain ⟨rfl, rfl⟩ := Progress.counting.inj hstep
      refine ⟨before, j, _, rfl, hopens, staysOpen_concat.2 ⟨hinner, ?_⟩, ?_⟩
      · rw [excess_append, excess_open]
        omega
      · rw [excess_append, excess_open]
    · by_cases hclose : c = '}'
      · subst hclose
        rw [step_close, Bool.true_and] at hstep
        split at hstep
        · cases hstep
        · -- the block is not closed here, so more than its own brace is open
          rename_i hdepth
          obtain ⟨rfl, rfl⟩ := Progress.counting.inj hstep
          have hmany : excess inner + 1 - 1 ≠ 0 := by simpa using hdepth
          refine ⟨before, j, _, rfl, hopens, staysOpen_concat.2 ⟨hinner, ?_⟩, ?_⟩
          · rw [excess_append, excess_close]
            omega
          · rw [excess_append, excess_close]
            omega
      · rw [step_other hopen hclose] at hstep
        obtain ⟨rfl, rfl⟩ := Progress.counting.inj hstep
        have hsame := excess_other hopen hclose i
        refine ⟨before, j, _, rfl, hopens, staysOpen_concat.2 ⟨hinner, ?_⟩, ?_⟩
        · rw [excess_append, hsame]
          omega
        · rw [excess_append, hsame, Int.add_zero]

/-- **What the count knows of every text** in which no block is closed. -/
theorem reached_of_walk (h : walkPlaced .start text = .counting depth opened) :
    Reached text depth opened := by
  induction text using List.reverseRecOn generalizing depth opened with
  | nil =>
    obtain ⟨rfl, rfl⟩ := Progress.counting.inj h
    exact ⟨rfl, staysClosed_nil⟩
  | append_singleton text entry ih =>
    obtain ⟨c, i⟩ := entry
    rw [walkPlaced_append, walkPlaced_cons, walkPlaced_nil] at h
    cases hwalk : walkPlaced .start text with
    | closed =>
      rw [hwalk] at h
      cases h
    | counting depth opened =>
      rw [hwalk] at h
      exact (ih hwalk).step h i

/-- The count of a text that opens no block. -/
theorem walk_staysClosed (h : StaysClosed text) :
    walkPlaced .start text = .counting (excess text) false := by
  induction text using List.reverseRecOn with
  | nil => rfl
  | append_singleton text entry ih =>
    obtain ⟨c, i⟩ := entry
    obtain ⟨hclosed, hle⟩ := staysClosed_concat.1 h
    rw [walkPlaced_append, ih hclosed, walkPlaced_cons, walkPlaced_nil, excess_append]
    rw [excess_append] at hle
    by_cases hopen : c = '{'
    · subst hopen
      rw [excess_open] at hle ⊢
      rw [step_open, Bool.false_or, decide_eq_false (by omega)]
    · by_cases hclose : c = '}'
      · subst hclose
        rw [step_close, Bool.false_and, if_neg Bool.false_ne_true, excess_close]
        rfl
      · rw [step_other hopen hclose, excess_other hopen hclose, Int.add_zero]

/-- The count of a text in a block that it does not close. -/
theorem walk_staysOpen (h : StaysOpen text) :
    walkPlaced (.counting 1 true) text = .counting (excess text + 1) true := by
  induction text using List.reverseRecOn with
  | nil => rfl
  | append_singleton text entry ih =>
    obtain ⟨c, i⟩ := entry
    obtain ⟨hinner, hle⟩ := staysOpen_concat.1 h
    rw [walkPlaced_append, ih hinner, walkPlaced_cons, walkPlaced_nil, excess_append]
    rw [excess_append] at hle
    by_cases hopen : c = '{'
    · subst hopen
      rw [step_open, Bool.true_or, excess_open]
    · by_cases hclose : c = '}'
      · subst hclose
        rw [excess_close] at hle ⊢
        have hmany : ¬ (excess text + 1 - 1 = 0) := by omega
        rw [step_close, Bool.true_and, decide_eq_false hmany, if_neg Bool.false_ne_true]
        congr 1
        omega
      · rw [step_other hopen hclose, excess_other hopen hclose, Int.add_zero]

/-! ### The character that closes a block -/

/-- The line of the first character that closes the block. -/
def closingIn (progress : Progress) : List Placed → Option Nat
  | [] => none
  | (c, i) :: rest =>
    match progress.step c with
    | .closed => some i
    | next => closingIn next rest

theorem closingIn_cons_closed (h : progress.step c = .closed) :
    closingIn progress ((c, i) :: rest) = some i := by
  rw [closingIn, h]

theorem closingIn_cons_counting (h : progress.step c = .counting depth opened) :
    closingIn progress ((c, i) :: rest) = closingIn (.counting depth opened) rest := by
  rw [closingIn, h]

/-- The count goes on behind a text that does not close the block. -/
theorem closingIn_append_of_counting (h : walkPlaced progress front = .counting depth opened) :
    closingIn progress (front ++ rest) = closingIn (.counting depth opened) rest := by
  induction front generalizing progress with
  | nil =>
    rw [walkPlaced_nil] at h
    rw [h, List.nil_append]
  | cons entry front ih =>
    obtain ⟨c, i⟩ := entry
    rw [walkPlaced_cons] at h
    cases hstep : progress.step c with
    | closed =>
      rw [hstep, walkPlaced, walk_closed] at h
      cases h
    | counting depth' opened' =>
      rw [List.cons_append, closingIn_cons_counting hstep]
      exact ih (hstep ▸ h)

/-- The character that closes a block, and the count in front of it. -/
theorem exists_of_closingIn (h : closingIn (.counting depth opened) text = some k) :
    ∃ front c rest depth' opened', text = front ++ (c, k) :: rest ∧
      walkPlaced (.counting depth opened) front = .counting depth' opened' ∧
      (Progress.counting depth' opened').step c = .closed := by
  induction text generalizing depth opened with
  | nil => cases h
  | cons entry text ih =>
    obtain ⟨c, i⟩ := entry
    cases hstep : (Progress.counting depth opened).step c with
    | closed =>
      rw [closingIn_cons_closed hstep] at h
      obtain rfl := Option.some.inj h
      exact ⟨[], c, text, depth, opened, rfl, rfl, hstep⟩
    | counting depth' opened' =>
      rw [closingIn_cons_counting hstep] at h
      obtain ⟨front, d, rest, depth'', opened'', rfl, hwalk, hclosed⟩ := ih h
      refine ⟨(c, i) :: front, d, rest, depth'', opened'', rfl, ?_, hclosed⟩
      rw [walkPlaced_cons, hstep, hwalk]

/-- **The character that closes a block** is the brace that matches the one that opens it. -/
theorem closingIn_eq_some_iff : closingIn .start text = some k ↔ MatchedOn text k := by
  constructor
  · intro h
    obtain ⟨front, c, rest, depth, opened, rfl, hwalk, hclosed⟩ := exists_of_closingIn h
    have hreached := reached_of_walk hwalk
    by_cases hopen : c = '{'
    · subst hopen
      cases hclosed
    · by_cases hclose : c = '}'
      · subst hclose
        rw [step_close] at hclosed
        split at hclosed
        · rename_i hlast
          rw [Bool.and_eq_true, decide_eq_true_eq] at hlast
          obtain ⟨rfl, hdepth⟩ := hlast
          obtain ⟨before, i, inner, rfl, hopens, hinner, rfl⟩ := hreached
          refine ⟨before, i, inner, rest, by rw [List.append_assoc, List.cons_append], hopens, ?_, hinner⟩
          omega
        · cases hclosed
      · rw [step_other hopen hclose] at hclosed
        cases hclosed
  · rintro ⟨before, i, inner, after, rfl, hopens, hzero, hinner⟩
    have hfirst : walkPlaced .start before = .counting 0 false := by
      rw [walk_staysClosed hopens.1, hopens.excess_eq]
    have hlast : walkPlaced (.counting 1 true) inner = .counting 1 true := by
      rw [walk_staysOpen hinner, hzero]
      rfl
    rw [closingIn_append_of_counting hfirst, closingIn_cons_counting step_open]
    show closingIn (.counting 1 true) _ = _
    rw [closingIn_append_of_counting hlast, closingIn_cons_closed (by rw [step_close]; rfl)]

/-- Only one line holds the matching brace. -/
theorem MatchedOn.unique {k' : Nat} (h : MatchedOn text k) (h' : MatchedOn text k') : k = k' :=
  Option.some.inj ((closingIn_eq_some_iff.2 h).symm.trans (closingIn_eq_some_iff.2 h'))

/-- What follows the matching brace does not matter. -/
theorem MatchedOn.append (h : MatchedOn text k) (more : List Placed) : MatchedOn (text ++ more) k := by
  obtain ⟨before, i, inner, after, rfl, hopens, hinner⟩ := h
  exact ⟨before, i, inner, after ++ more, by simp, hopens, hinner⟩

theorem MatchedOn.mem (h : MatchedOn text k) : ('}', k) ∈ text := by
  obtain ⟨before, i, inner, after, rfl, -, -⟩ := h
  simp

/-- The matching brace stands in one of two texts. -/
theorem MatchedOn.of_append {more : List Placed} (h : MatchedOn (text ++ more) k) :
    MatchedOn text k ∨ ('}', k) ∈ more := by
  obtain ⟨before, i, inner, after, heq, hopens, hinner⟩ := h
  rw [← List.cons_append, ← List.append_assoc] at heq
  rcases List.append_eq_append_iff.1 heq with ⟨tail, -, hmore⟩ | ⟨tail, htext, hmore⟩
  · exact .inr (by rw [hmore]; simp)
  · cases tail with
    | nil => exact .inr (by rw [← List.nil_append more, ← hmore]; exact List.mem_cons_self)
    | cons entry tail =>
      rw [List.cons_append] at hmore
      obtain ⟨rfl, -⟩ := List.cons.inj hmore
      exact .inl ⟨before, i, inner, tail, by rw [htext, List.append_assoc, List.cons_append], hopens, hinner⟩

/-! ### The characters of lines -/

/-- How many bytes a text takes. -/
def bytes (text : List Char) : Nat := text.foldr (fun c n => c.utf8Size + n) 0

/-- What stands behind a number of bytes of a line; nothing if that place is inside a character or behind
the end. -/
def Behind (column : Nat) (line rest : List Char) : Prop :=
  (∃ front, line = front ++ rest ∧ bytes front = column) ∨
  (rest = [] ∧ ∀ front back, line = front ++ back → bytes front ≠ column)

/-- The characters of a line; a line that cannot be read has none. -/
def charsOf : Except DocumentError String → List Char
  | .ok text => text.toList
  | .error _ => []

/-- The characters of lines, numbered from `i`. -/
def placed (lines : List (Except DocumentError String)) (i : Nat) : List Placed :=
  (lines.zipIdx i).flatMap fun entry => (charsOf entry.1).map (·, entry.2)

/-- The characters of lines, numbered from `i`, from a byte of the first line on. -/
def placedFrom (column : Nat) (lines : List (Except DocumentError String)) (i : Nat) : List Placed :=
  match lines with
  | [] => []
  | first :: rest =>
    ((behindBytes? column (charsOf first)).getD []).map (·, i) ++ placed rest (i + 1)

variable {lines more : List (Except DocumentError String)} {line : List Char}

theorem bytes_cons (c : Char) (text : List Char) : bytes (c :: text) = c.utf8Size + bytes text := rfl

theorem utf8ByteSize_ofList (text : List Char) : (String.ofList text).utf8ByteSize = bytes text := by
  induction text with
  | nil => rfl
  | cons c rest ih =>
    rw [String.ofList_cons, String.utf8ByteSize_append, String.utf8ByteSize_singleton, ih, bytes_cons]

theorem behindBytes?_cons (hcolumn : column ≠ 0) (c : Char) (line : List Char) :
    behindBytes? column (c :: line) =
      if c.utf8Size ≤ column then behindBytes? (column - c.utf8Size) line else none := by
  rw [behindBytes?]
  exact hcolumn

/-- A text starts behind a number of bytes exactly if that many bytes come before it. -/
theorem behindBytes?_eq_some_iff {behind : List Char} :
    behindBytes? column line = some behind ↔ ∃ front, line = front ++ behind ∧ bytes front = column := by
  induction line generalizing column with
  | nil =>
    cases column with
    | zero => simp [behindBytes?, bytes, eq_comm]
    | succ n =>
      refine iff_of_false (by simp [behindBytes?]) ?_
      rintro ⟨front, hfront, hbytes⟩
      obtain ⟨rfl, -⟩ := List.append_eq_nil_iff.1 hfront.symm
      cases hbytes
  | cons c line ih =>
    cases column with
    | zero =>
      rw [behindBytes?_zero, Option.some.injEq]
      refine ⟨fun h => ⟨[], h, rfl⟩, ?_⟩
      rintro ⟨front, hfront, hbytes⟩
      cases front with
      | nil => exact hfront
      | cons d front =>
        have := d.utf8Size_pos
        rw [bytes_cons] at hbytes
        omega
    | succ n =>
      rw [behindBytes?_cons (Nat.succ_ne_zero n)]
      split
      · rename_i hle
        rw [ih]
        constructor
        · rintro ⟨front, hfront, hbytes⟩
          exact ⟨c :: front, congrArg (c :: ·) hfront, by rw [bytes_cons]; omega⟩
        · rintro ⟨front, hfront, hbytes⟩
          cases front with
          | nil => cases hbytes
          | cons d front =>
            obtain ⟨rfl, htail⟩ := List.cons.inj hfront
            rw [bytes_cons] at hbytes
            exact ⟨front, htail, by omega⟩
      · rename_i hlt
        refine iff_of_false (by simp) ?_
        rintro ⟨front, hfront, hbytes⟩
        cases front with
        | nil => cases hbytes
        | cons d front =>
          obtain ⟨rfl, -⟩ := List.cons.inj hfront
          rw [bytes_cons] at hbytes
          omega

/-- What stands behind a number of bytes. -/
theorem behind_iff {behind : List Char} :
    Behind column line behind ↔ behind = (behindBytes? column line).getD [] := by
  cases h : behindBytes? column line with
  | some found =>
    obtain ⟨front, hfront, hbytes⟩ := behindBytes?_eq_some_iff.1 h
    rw [Option.getD_some]
    refine ⟨fun hbehind => ?_, fun heq => .inl ⟨front, heq ▸ hfront, hbytes⟩⟩
    rcases hbehind with hbehind | ⟨-, hnone⟩
    · exact Option.some.inj ((behindBytes?_eq_some_iff.2 hbehind).symm.trans h)
    · exact absurd hbytes (hnone front found hfront)
  | none =>
    have hnone : ∀ front back, line = front ++ back → bytes front ≠ column := by
      intro front back hfront hbytes
      rw [behindBytes?_eq_some_iff.2 ⟨front, hfront, hbytes⟩] at h
      cases h
    rw [Option.getD_none]
    refine ⟨fun hbehind => ?_, fun heq => .inr ⟨heq, hnone⟩⟩
    rcases hbehind with ⟨front, hfront, hbytes⟩ | ⟨heq, -⟩
    · exact absurd hbytes (hnone front behind hfront)
    · exact heq

/-! ### The walk over lines -/

theorem placed_cons (first : Except DocumentError String) (i : Nat) :
    placed (first :: lines) i = (charsOf first).map (·, i) ++ placed lines (i + 1) := rfl

theorem placedFrom_cons (column : Nat) (first : Except DocumentError String) (i : Nat) :
    placedFrom column (first :: lines) i =
      ((behindBytes? column (charsOf first)).getD []).map (·, i) ++ placed lines (i + 1) := rfl

theorem placed_append (i : Nat) :
    placed (lines ++ more) i = placed lines i ++ placed more (i + lines.length) := by
  rw [placed, List.zipIdx_append, List.flatMap_append]
  rfl

theorem placedFrom_append (hsome : lines ≠ []) (column i : Nat) :
    placedFrom column (lines ++ more) i = placedFrom column lines i ++ placed more (i + lines.length) := by
  cases lines with
  | nil => exact absurd rfl hsome
  | cons first rest =>
    have hnext : i + 1 + rest.length = i + (rest.length + 1) := by omega
    rw [List.cons_append, placedFrom_cons, placedFrom_cons, placed_append, List.append_assoc,
      List.length_cons, hnext]

/-- Characters stand on the lines that they are placed on. -/
theorem mem_placed {entry : Placed} (h : entry ∈ placed lines i) :
    i ≤ entry.2 ∧ entry.2 < i + lines.length := by
  obtain ⟨⟨line, j⟩, hline, hentry⟩ := List.mem_flatMap.1 h
  obtain ⟨c, -, rfl⟩ := List.mem_map.1 hentry
  obtain ⟨hle, hlt, -⟩ := List.mem_zipIdx hline
  exact ⟨hle, hlt⟩

theorem mem_placedFrom {entry : Placed} (h : entry ∈ placedFrom column lines i) :
    i ≤ entry.2 ∧ entry.2 < i + lines.length := by
  cases lines with
  | nil => cases h
  | cons first rest =>
    rw [List.length_cons]
    rcases List.mem_append.1 h with h | h
    · obtain ⟨c, -, rfl⟩ := List.mem_map.1 h
      exact ⟨Nat.le_refl i, by omega⟩
    · obtain ⟨hle, hlt⟩ := mem_placed h
      exact ⟨by omega, by omega⟩

/-- A line that closes the block. -/
theorem closingIn_line_of_closed (h : walk (.counting depth opened) line = .closed) (i : Nat) :
    closingIn (.counting depth opened) (line.map (·, i) ++ rest) = some i := by
  induction line generalizing depth opened with
  | nil => cases h
  | cons c line ih =>
    cases hstep : (Progress.counting depth opened).step c with
    | closed => exact closingIn_cons_closed hstep
    | counting depth' opened' =>
      rw [List.map_cons, List.cons_append, closingIn_cons_counting hstep]
      exact ih (by rw [← h, walk, walk, List.foldl_cons, hstep])

/-- A line that does not close the block. -/
theorem closingIn_line_of_counting (h : walk (.counting depth opened) line = .counting depth' opened')
    (i : Nat) : closingIn (.counting depth opened) (line.map (·, i) ++ rest) =
      closingIn (.counting depth' opened') rest := by
  refine closingIn_append_of_counting ?_
  rw [walkPlaced, List.map_map, show ((·.1) ∘ (·, i) : Char → Char) = id from rfl, List.map_id, h]

/-- **The walk from line to line** closes the block where the walk over the characters does. -/
theorem closingLine_eq_closingIn (texts : List String) (i : Nat) :
    closingLine (.counting depth opened) i texts =
      closingIn (.counting depth opened) (placed (texts.map .ok) i) := by
  induction texts generalizing depth opened i with
  | nil => rfl
  | cons text texts ih =>
    rw [List.map_cons, placed_cons, charsOf, closingLine]
    cases hwalk : walk (.counting depth opened) text.toList with
    | closed => rw [closingIn_line_of_closed hwalk]
    | counting depth' opened' =>
      rw [closingIn_line_of_counting hwalk]
      exact ih (i + 1)

theorem closingFrom_eq_closingIn (column : Nat) (texts : List String) (i : Nat) :
    closingFrom column i texts = closingIn .start (placedFrom column (texts.map .ok) i) := by
  cases texts with
  | nil => rfl
  | cons first texts =>
    rw [List.map_cons, placedFrom_cons, charsOf, closingFrom]
    cases hwalk : walk .start ((behindBytes? column first.toList).getD []) with
    | closed => rw [Progress.start, closingIn_line_of_closed hwalk]
    | counting depth opened =>
      rw [Progress.start, closingIn_line_of_counting hwalk, ← closingLine_eq_closingIn]

/-- Lines up to one that cannot be read, and the lines from there on. -/
theorem placedFrom_error (column : Nat) (texts : List String) (e : DocumentError) (i : Nat) :
    placedFrom column (texts.map .ok ++ .error e :: lines) i =
      placedFrom column (texts.map .ok) i ++ placed lines (i + texts.length + 1) := by
  cases texts with
  | nil =>
    have hnone : (behindBytes? column (charsOf (.error e))).getD [] = [] := by cases column <;> rfl
    rw [List.map_nil, List.nil_append, placedFrom_cons, hnone]
    rfl
  | cons first texts =>
    rw [placedFrom_append (by simp), List.length_map]
    rfl

end Block

namespace Document

open Block

variable {d d' : Document} {start column i k : Nat} {text : List Placed}

/-! ### Blocks of documents -/

/-- The characters whose braces are counted for a block: those of its first line from a byte on, and those
of all later lines. -/
def CountsFrom (d : Document) (start column : Nat) (text : List Placed) : Prop :=
  ∃ first, Behind column (charsOf (d.line start)) first ∧
    text = first.map (·, start) ++ placed (d.lines.drop (start + 1)) (start + 1)

/-- Where a block ends: on the line of the brace that matches the one that opens it, on the last line if
there is none. -/
def EndsOn (d : Document) (text : List Placed) (k : Nat) : Prop :=
  MatchedOn text k ∨ (∀ i, ¬ MatchedOn text i) ∧ k = d.lastLine

/-- The first of the lines from `start` to `k` that cannot be read. -/
structure FirstFailure (d : Document) (start k i : Nat) (e : DocumentError) : Prop where
  /-- It is one of these lines. -/
  mem : start ≤ i ∧ i ≤ k
  /-- It cannot be read. -/
  fails : d.FailsOn i e
  /-- Those before it can. -/
  first : ∀ j, start ≤ j → j < i → ∀ e', ¬ d.FailsOn j e'

theorem countsFrom_iff (hstart : start < d.lineCount) :
    d.CountsFrom start column text ↔ text = placedFrom column (d.lines.drop start) start := by
  have hline : d.line start = d.lines[start] := by rw [line, List.getElem?_eq_getElem hstart]
  rw [List.drop_eq_getElem_cons hstart, placedFrom, CountsFrom, hline]
  simp only [behind_iff, exists_eq_left]

theorem endsOn_iff : d.EndsOn text k ↔ k = (closingIn .start text).getD d.lastLine := by
  cases h : closingIn .start text with
  | some j =>
    have hmatched := closingIn_eq_some_iff.1 h
    refine ⟨fun hends => ?_, fun heq => .inl (heq ▸ hmatched)⟩
    rcases hends with hends | ⟨hnone, -⟩
    · exact hends.unique hmatched
    · exact absurd hmatched (hnone j)
  | none =>
    have hnone : ∀ j, ¬ MatchedOn text j := by
      intro j hmatched
      rw [closingIn_eq_some_iff.2 hmatched] at h
      cases h
    refine ⟨fun hends => ?_, fun heq => .inr ⟨hnone, heq⟩⟩
    rcases hends with hends | ⟨-, hlast⟩
    · exact absurd hends (hnone k)
    · exact hlast

/-- All lines of a list can be read, or there is a first one that cannot. -/
theorem readable_split (lines : List (Except DocumentError String)) :
    (∃ texts, lines = texts.map .ok ∧ readable lines = (texts, none)) ∨
    ∃ texts e rest, lines = texts.map .ok ++ .error e :: rest ∧ readable lines = (texts, some e) := by
  induction lines with
  | nil => exact .inl ⟨[], rfl, rfl⟩
  | cons line rest ih =>
    cases line with
    | error e => exact .inr ⟨[], e, rest, rfl, rfl⟩
    | ok text =>
      rcases ih with ⟨texts, hrest, hread⟩ | ⟨texts, e, behind, hrest, hread⟩
      · exact .inl ⟨text :: texts, by rw [hrest]; rfl, by rw [readable_ok_cons, hread]⟩
      · exact .inr ⟨text :: texts, e, behind, by rw [hrest]; rfl, by rw [readable_ok_cons, hread]⟩

theorem not_failsOn_of_drop {texts : List String} {more : List (Except DocumentError String)}
    (hdrop : d.lines.drop start = texts.map .ok ++ more) (hle : start ≤ i)
    (hlt : i < start + texts.length) (e : DocumentError) : ¬ d.FailsOn i e := by
  have hpart : d.lines[i]? = (texts.map Except.ok ++ more)[i - start]? := by
    rw [← hdrop, List.getElem?_drop, Nat.add_sub_cancel' hle]
  rw [List.getElem?_append_left (by rw [List.length_map]; omega), List.getElem?_map] at hpart
  intro hfails
  rw [FailsOn, hpart] at hfails
  obtain ⟨text, -, htext⟩ := Option.map_eq_some_iff.1 hfails
  cases htext

/-- A block is found among the lines that can be read. -/
theorem blockFrom_of_readable {texts : List String} {failure : Option DocumentError}
    (hstart : start < d.lineCount) (hread : readable (d.lines.drop start) = (texts, failure)) :
    d.blockFrom start column = (closingIn .start (placedFrom column (texts.map .ok) start)).elim
      (failure.elim (.ok ⟨start, d.lastLine⟩) .error) fun k => .ok ⟨start, k⟩ := by
  have hlast : max d.lastLine start = d.lastLine := by
    rw [lastLine]
    omega
  rw [blockFrom, hread, ← closingFrom_eq_closingIn, hlast]
  dsimp only
  cases closingFrom column start texts <;> cases failure <;> rfl

/-- **How a block is found.** The lines are read up to the line that the block ends on, and the first of
them that cannot be read is reported. -/
theorem blockFrom_cases (hstart : start < d.lineCount) (htext : d.CountsFrom start column text)
    (hends : d.EndsOn text k) :
    (d.blockFrom start column = .ok ⟨start, k⟩ ∧ ∀ i, start ≤ i → i ≤ k → ∀ e, ¬ d.FailsOn i e) ∨
    ∃ i e, d.blockFrom start column = .error e ∧ d.FirstFailure start k i e := by
  obtain rfl := (countsFrom_iff hstart).1 htext
  rcases readable_split (d.lines.drop start) with ⟨texts, hlines, hread⟩ | ⟨texts, e, rest, hlines, hread⟩
  · obtain rfl := endsOn_iff.1 hends
    refine .inl ⟨?_, fun i hle hge e hfails => ?_⟩
    · rw [blockFrom_of_readable hstart hread, hlines]
      cases closingIn .start (placedFrom column (texts.map .ok) start) <;> rfl
    · have hlength := congrArg List.length hlines
      rw [List.length_drop, List.length_map] at hlength
      have hlt := hfails.lt
      rw [lineCount] at hlt
      have hdrop : d.lines.drop start = texts.map .ok ++ [] := by rw [hlines, List.append_nil]
      exact not_failsOn_of_drop hdrop hle (by omega) e hfails
  · have hfails : d.FailsOn (start + texts.length) e := by
      rw [FailsOn, ← List.getElem?_drop, hlines, List.getElem?_append_right (by simp)]
      simp
    have hreadable := fun i hle hlt e => not_failsOn_of_drop (i := i) hlines hle hlt e
    rw [hlines, placedFrom_error] at hends
    rw [blockFrom_of_readable hstart hread]
    cases hclosing : closingIn .start (placedFrom column (texts.map .ok) start) with
    | some j =>
      -- the block ends before the first line that cannot be read
      have hmatched := closingIn_eq_some_iff.1 hclosing
      have hj : j = k := by
        rcases hends with hends | ⟨hnone, -⟩
        · exact (hmatched.append _).unique hends
        · exact absurd (hmatched.append _) (hnone j)
      subst hj
      have hbound := (mem_placedFrom hmatched.mem).2
      rw [List.length_map] at hbound
      exact .inl ⟨rfl, fun i hle hge => hreadable i hle (Nat.lt_of_le_of_lt hge hbound)⟩
    | none =>
      have hk : start + texts.length ≤ k := by
        rcases hends with hends | ⟨-, rfl⟩
        · rcases hends.of_append with hmatched | hbrace
          · rw [closingIn_eq_some_iff.2 hmatched] at hclosing
            cases hclosing
          · have := (mem_placed hbrace).1
            omega
        · have := hfails.lt
          rw [lastLine]
          omega
      refine .inr ⟨start + texts.length, e, rfl, ⟨⟨Nat.le_add_right .., hk⟩, hfails, ?_⟩⟩
      exact hreadable

theorem FirstFailure.unique {j : Nat} {e e' : DocumentError} (h : d.FirstFailure start k i e)
    (h' : d.FirstFailure start k j e') : i = j ∧ e = e' := by
  have hij : i = j := by
    rcases Nat.lt_trichotomy i j with hlt | heq | hlt
    · exact absurd h.fails (h'.first i h.mem.1 hlt e)
    · exact heq
    · exact absurd h'.fails (h.first j h'.mem.1 hlt e')
  subst hij
  have hsame := h.fails.symm.trans h'.fails
  exact ⟨rfl, Except.error.inj (Option.some.inj hsame)⟩

/-- A block is found if all lines up to its end can be read. -/
theorem blockFrom_eq_ok_iff (hstart : start < d.lineCount) (htext : d.CountsFrom start column text)
    (hends : d.EndsOn text k) (b : Block) : d.blockFrom start column = .ok b ↔
      b = ⟨start, k⟩ ∧ ∀ i, start ≤ i → i ≤ k → ∀ e, ¬ d.FailsOn i e := by
  rcases blockFrom_cases hstart htext hends with ⟨hok, hread⟩ | ⟨i, e, herror, hfirst⟩
  · rw [hok, Except.ok.injEq, eq_comm, and_iff_left hread]
  · rw [herror]
    exact iff_of_false nofun fun h => h.2 i hfirst.mem.1 hfirst.mem.2 e hfirst.fails

/-- A block is not found if a line up to its end cannot be read, and the first such line is reported. -/
theorem blockFrom_eq_error_iff (hstart : start < d.lineCount) (htext : d.CountsFrom start column text)
    (hends : d.EndsOn text k) (e : DocumentError) :
    d.blockFrom start column = .error e ↔ ∃ i, d.FirstFailure start k i e := by
  rcases blockFrom_cases hstart htext hends with ⟨hok, hread⟩ | ⟨i, e', herror, hfirst⟩
  · rw [hok]
    refine iff_of_false nofun fun ⟨i, hfirst⟩ => ?_
    exact hread i hfirst.mem.1 hfirst.mem.2 e hfirst.fails
  · rw [herror, Except.error.injEq]
    refine ⟨fun heq => ⟨i, heq ▸ hfirst⟩, fun ⟨j, hfirst'⟩ => (hfirst.unique hfirst').2⟩

/-! ### What a block depends on -/

theorem blockFrom_congr_above (hstart : start < d.lineCount)
    (hlines : ∀ i, start ≤ i → d'.lines[i]? = d.lines[i]?) :
    d'.blockFrom start column = d.blockFrom start column := by
  have hdrop : d'.lines.drop start = d.lines.drop start := by
    refine List.ext_getElem? fun i => ?_
    rw [List.getElem?_drop, List.getElem?_drop, hlines _ (Nat.le_add_right ..)]
  have hlast : max d'.lastLine start = max d.lastLine start := by
    have hlength := congrArg List.length hdrop
    rw [List.length_drop, List.length_drop] at hlength
    rw [lastLine, lastLine, lineCount, lineCount]
    rw [lineCount] at hstart
    omega
  rw [blockFrom, blockFrom, hdrop, hlast]

/-- Where the block of a document ends does not depend on the lines behind its end. -/
theorem exists_countsFrom_congr (hstart : start < d.lineCount) (htext : d.CountsFrom start column text)
    (hmatched : MatchedOn text k) (hlines : ∀ i, start ≤ i → i ≤ k → d'.lines[i]? = d.lines[i]?) :
    start < d'.lineCount ∧ ∃ text', d'.CountsFrom start column text' ∧ MatchedOn text' k := by
  obtain rfl := (countsFrom_iff hstart).1 htext
  obtain ⟨hle, hlt⟩ := mem_placedFrom hmatched.mem
  have hstart' : start < d'.lineCount := by
    have hline := (hlines start (Nat.le_refl _) hle).trans (List.getElem?_eq_getElem hstart)
    exact (List.getElem?_eq_some_iff.1 hline).1
  let part := (d.lines.drop start).take (k + 1 - start)
  have hpart : (d'.lines.drop start).take (k + 1 - start) = part := by
    refine List.ext_getElem? fun i => ?_
    rw [getElem?_part, getElem?_part]
    split
    · exact hlines _ (by omega) (by omega)
    · rfl
  have hlength : part.length = k + 1 - start := by
    rw [List.length_take]
    rw [List.length_drop] at hlt ⊢
    omega
  have hsome : part ≠ [] := List.ne_nil_of_length_pos (by omega)
  have hnext : start + part.length = k + 1 := by omega
  refine ⟨hstart', _, (countsFrom_iff hstart').2 rfl, ?_⟩
  rw [← List.take_append_drop (k + 1 - start) (d.lines.drop start), placedFrom_append hsome, hnext]
    at hmatched
  rw [← List.take_append_drop (k + 1 - start) (d'.lines.drop start), hpart, placedFrom_append hsome]
  rcases hmatched.of_append with hmatched | hbrace
  · exact hmatched.append _
  · have := (mem_placed hbrace).1
    omega

/-- A block with a matching brace depends on the lines from its first to its last one alone. -/
theorem blockFrom_congr_matched (hstart : start < d.lineCount) (htext : d.CountsFrom start column text)
    (hmatched : MatchedOn text k) (hlines : ∀ i, start ≤ i → i ≤ k → d'.lines[i]? = d.lines[i]?) :
    d'.blockFrom start column = d.blockFrom start column := by
  obtain ⟨hstart', text', htext', hmatched'⟩ := exists_countsFrom_congr hstart htext hmatched hlines
  have hfails : ∀ i e, start ≤ i → i ≤ k → (d'.FailsOn i e ↔ d.FailsOn i e) := by
    intro i e hle hge
    rw [FailsOn, FailsOn, hlines i hle hge]
  rcases blockFrom_cases hstart htext (.inl hmatched) with ⟨hok, hread⟩ | ⟨i, e, herror, hfirst⟩
  · rw [hok, blockFrom_eq_ok_iff hstart' htext' (.inl hmatched')]
    exact ⟨rfl, fun i hle hge e hfail => hread i hle hge e ((hfails i e hle hge).1 hfail)⟩
  · rw [herror, blockFrom_eq_error_iff hstart' htext' (.inl hmatched')]
    obtain ⟨⟨hle, hge⟩, hfail, hbefore⟩ := hfirst
    refine ⟨i, ⟨hle, hge⟩, (hfails i e hle hge).2 hfail, fun j hj hlt e' hfail' => ?_⟩
    exact hbefore j hj hlt e' ((hfails j e' hj (by omega)).1 hfail')

end Document

/-- **A block ends at the matching brace.** Let a block start on a line of a document, and let `text` be the
characters from a byte of this line on and those of all later lines, where a line that cannot be read has
none. There is one such text, and one line `k` that the block ends on: the line of the brace that matches the
first one at which more braces are open than closed, and the last line if there is none. Then the block is
found exactly if all lines from its first to `k` can be read, and it ends on `k`; otherwise the first of them
that cannot be read is reported. Lines above the block make no difference, and if there is a matching brace,
neither do lines behind `k`. -/
theorem block_ends_at_matching_brace (d : Document) (start column : Nat) (hstart : start < d.lineCount) :
    ∃ text k, (∀ text', d.CountsFrom start column text' ↔ text' = text) ∧
      (∀ k', d.EndsOn text k' ↔ k' = k) ∧
      (∀ b, d.blockFrom start column = .ok b ↔
        b = ⟨start, k⟩ ∧ ∀ i, start ≤ i → i ≤ k → ∀ e, ¬ d.FailsOn i e) ∧
      (∀ e, d.blockFrom start column = .error e ↔ ∃ i, d.FirstFailure start k i e) ∧
      (∀ d' : Document, (∀ i, start ≤ i → d'.lines[i]? = d.lines[i]?) →
        d'.blockFrom start column = d.blockFrom start column) ∧
      (Block.MatchedOn text k → ∀ d' : Document,
        (∀ i, start ≤ i → i ≤ k → d'.lines[i]? = d.lines[i]?) →
        d'.blockFrom start column = d.blockFrom start column) := by
  let text := Block.placedFrom column (d.lines.drop start) start
  let k := (Block.closingIn .start text).getD d.lastLine
  have htext : d.CountsFrom start column text := (Document.countsFrom_iff hstart).2 rfl
  have hends : d.EndsOn text k := Document.endsOn_iff.2 rfl
  refine ⟨text, k, fun _ => Document.countsFrom_iff hstart, fun _ => Document.endsOn_iff,
    Document.blockFrom_eq_ok_iff hstart htext hends, Document.blockFrom_eq_error_iff hstart htext hends,
    ?_, ?_⟩
  · intro d' hlines
    exact Document.blockFrom_congr_above hstart hlines
  · intro hmatched d' hlines
    exact Document.blockFrom_congr_matched hstart htext hmatched hlines

/-- A clause behind a brace that it does not belong to, between two lines that cannot be read. -/
def brokenAround : Document :=
  ⟨"javascript", [.error (.binaryFile "a.js"), .ok "é\x7d else \x7b", .ok "f(\x7b\x7d);", .ok "\x7d",
    .error (.binaryFile "a.js")]⟩

/-- Counted from behind its first brace, the block of the clause ends two lines below. -/
theorem block_ends_at_matching_brace_brokenAround :
    1 < brokenAround.lineCount ∧ ∃ text, brokenAround.CountsFrom 1 3 text ∧ brokenAround.EndsOn text 3 ∧
      ∀ i, 1 ≤ i → i ≤ 3 → ∀ e, ¬ brokenAround.FailsOn i e := by
  have hstart : 1 < brokenAround.lineCount := by decide
  have hfound : brokenAround.blockFrom 1 3 = .ok ⟨1, 3⟩ := by decide +kernel
  obtain ⟨text, k, htext, hends, hok, -⟩ := block_ends_at_matching_brace brokenAround 1 3 hstart
  obtain ⟨hblock, hread⟩ := (hok _).1 hfound
  obtain rfl : 3 = k := congrArg Block.closing hblock
  exact ⟨hstart, text, (htext text).2 rfl, (hends 3).2 rfl, hread⟩

/-- A place inside a character leaves nothing of the line, so that the block of the next line is found. -/
example : (⟨"javascript", [.ok "é\x7b", .ok "\x7b\x7d", .ok "\x7d"]⟩ : Document).blockFrom 0 1 =
    .ok ⟨0, 1⟩ := by
  decide +kernel

end LineKin
