import LineKin.Proofs.Document.Reading
import LineKin.Proofs.Line.Padding
import Mathlib.Order.Monotone.Basic

/-!
# Documents in another layout

`Relaid s i j lines relaid` says that the second list shows the lines of the first in another layout:
each line may be padded, and lines of blanks may stand between the lines and in front of them, but not
behind the last one. The lines are numbered from `i` and from `j`, and line `i` is shown as line `s i`.

A whole document in another layout is a `TextDocument.Relayout`. Two ways to come by one are to insert
a line of blanks (`relayout_insertLine`) and to pad lines (`relayout_of_padded`).

The lemmas say how the two lists correspond: the parts from a line on (`Relaid.drop`) and up to a line
(`Relaid.take`), single lines in both directions, and the searches and folds that pass lines of blanks
by.
-/

namespace LineKin

open Line Text

/-- The second list shows the lines of the first in another layout. -/
inductive Relaid (s : Nat → Nat) : Nat → Nat → List String → List String → Prop where
  /-- No lines. -/
  | nil {i j : Nat} : Relaid s i j [] []
  /-- A line, padded. -/
  | line {i j : Nat} {text padded : String} {lines relaid : List String} : s i = j →
      Padded text padded → Relaid s (i + 1) (j + 1) lines relaid →
      Relaid s i j (text :: lines) (padded :: relaid)
  /-- A line of blanks in front of a line. -/
  | blank {i j : Nat} {blanks : String} {lines relaid : List String} : isBlankText blanks = true →
      lines ≠ [] → Relaid s i (j + 1) lines relaid → Relaid s i j lines (blanks :: relaid)

namespace Relaid

variable {s : Nat → Nat} {i j k m : Nat} {text padded : String} {lines relaid : List String}
  {α β : Type}

/-! ### Parts of the lists -/

theorem eq_nil (h : Relaid s i j [] relaid) : relaid = [] := by
  cases h with
  | nil => rfl
  | blank _ hne _ => exact absurd rfl hne

theorem le_apply (h : Relaid s i j lines relaid) (hk : k < lines.length) : j ≤ s (i + k) := by
  induction h generalizing k with
  | nil => simp at hk
  | line hs _ _ ih =>
    cases k with
    | zero => exact Nat.le_of_eq hs.symm
    | succ k =>
      have := ih (Nat.lt_of_succ_lt_succ hk)
      rw [Nat.add_right_comm] at this
      exact Nat.le_of_succ_le this
  | blank _ _ _ ih => exact Nat.le_of_succ_le (ih hk)

/-- What begins at the number of a line begins with that line. -/
theorem head (h : Relaid s i (s i) (text :: lines) relaid) :
    ∃ padded rest, relaid = padded :: rest ∧ Padded text padded ∧
      Relaid s (i + 1) (s i + 1) lines rest := by
  generalize hj : s i = j at h
  cases h with
  | line _ hpadded hrest => exact ⟨_, _, rfl, hpadded, hrest⟩
  | blank _ _ hrest =>
    have hle : _ ≤ s i := hrest.le_apply (k := 0) (Nat.zero_lt_succ lines.length)
    omega

theorem drop (h : Relaid s i j lines relaid) (hk : k < lines.length) :
    Relaid s (i + k) (s (i + k)) (lines.drop k) (relaid.drop (s (i + k) - j)) := by
  induction h generalizing k with
  | nil => simp at hk
  | line hs hpadded hrest ih =>
    cases k with
    | zero =>
      rw [Nat.add_zero, hs, Nat.sub_self]
      exact .line hs hpadded hrest
    | succ k =>
      have hle := hrest.le_apply (Nat.lt_of_succ_lt_succ hk)
      have ih := ih (Nat.lt_of_succ_lt_succ hk)
      rw [Nat.add_right_comm] at hle ih
      rw [← Nat.add_assoc, ← Nat.succ_sub_succ, Nat.succ_sub hle]
      exact ih
  | blank _ _ hrest ih =>
    have hle := hrest.le_apply hk
    rw [← Nat.succ_sub_succ, Nat.succ_sub hle]
    exact ih hk

theorem take (h : Relaid s i j lines relaid) (hk : k < lines.length) :
    Relaid s i j (lines.take (k + 1)) (relaid.take (s (i + k) + 1 - j)) := by
  induction h generalizing k with
  | nil => simp at hk
  | @line i j _ _ _ _ hs hpadded hrest ih =>
    cases k with
    | zero =>
      have hone : s i + 1 - j = 1 := by omega
      show Relaid s i j [_] (List.take (s i + 1 - j) _)
      rw [hone]
      exact .line hs hpadded .nil
    | succ k =>
      have hle := hrest.le_apply (Nat.lt_of_succ_lt_succ hk)
      have ih := ih (Nat.lt_of_succ_lt_succ hk)
      rw [Nat.add_right_comm] at hle ih
      rw [← Nat.add_assoc, Nat.succ_sub (Nat.le_of_succ_le hle), ← Nat.succ_sub_succ]
      exact .line hs hpadded ih
  | blank hblank hne hrest ih =>
    have hle := hrest.le_apply hk
    rw [Nat.succ_sub (Nat.le_of_succ_le hle), ← Nat.succ_sub_succ]
    refine .blank hblank ?_ (ih hk)
    simpa using hne

theorem getElem?_apply (h : Relaid s i j lines relaid) (hk : lines[k]? = some text) :
    ∃ padded, relaid[s (i + k) - j]? = some padded ∧ Padded text padded := by
  obtain ⟨hlt, rfl⟩ := List.getElem?_eq_some_iff.1 hk
  have hdrop := h.drop hlt
  rw [List.drop_eq_getElem_cons hlt] at hdrop
  obtain ⟨padded, rest, heq, hpadded, -⟩ := hdrop.head
  exact ⟨padded, by rw [← List.head?_drop, heq, List.head?_cons], hpadded⟩

/-- Each line of the new layout is a line of blanks or a line of the old one. -/
theorem blank_or_exists (h : Relaid s i j lines relaid) (hm : relaid[m]? = some padded) :
    isBlankText padded = true ∨
      ∃ k text, lines[k]? = some text ∧ s (i + k) = j + m ∧ Padded text padded := by
  induction h generalizing m with
  | nil => simp at hm
  | line hs hpadded _ ih =>
    cases m with
    | zero =>
      obtain rfl := Option.some.inj hm
      exact .inr ⟨0, _, rfl, hs, hpadded⟩
    | succ m =>
      refine (ih hm).imp_right ?_
      rintro ⟨k, text, hk, hsk, hpadded⟩
      exact ⟨k + 1, text, hk, by rw [← Nat.add_assoc, Nat.add_right_comm, hsk]; omega, hpadded⟩
  | blank hblank _ _ ih =>
    cases m with
    | zero =>
      obtain rfl := Option.some.inj hm
      exact .inl hblank
    | succ m =>
      refine (ih hm).imp_right ?_
      rintro ⟨k, text, hk, hsk, hpadded⟩
      exact ⟨k, text, hk, by rw [hsk]; omega, hpadded⟩

/-- The last line stays the last line. -/
theorem apply_last (h : Relaid s i j lines relaid) (hne : lines ≠ []) :
    s (i + (lines.length - 1)) + 1 = j + relaid.length := by
  induction h with
  | nil => exact absurd rfl hne
  | @line i j _ _ lines relaid hs _ hrest ih =>
    cases lines with
    | nil =>
      rw [hrest.eq_nil, ← hs]
      rfl
    | cons text lines =>
      have ih := ih (List.cons_ne_nil text lines)
      simp only [List.length_cons, Nat.add_sub_cancel] at ih ⊢
      rw [Nat.add_right_comm] at ih
      rw [← Nat.add_assoc, ih]
      omega
  | blank _ _ _ ih =>
    rw [ih hne, List.length_cons]
    omega

/-! ### Searches and folds -/

/-- A search by a test that no line of blanks passes. -/
theorem findIdx?_eq (h : Relaid s i j lines relaid) (test : String → Bool)
    (hline : ∀ {text padded}, Padded text padded → test padded = test text)
    (hblank : ∀ {blanks}, isBlankText blanks = true → test blanks = false) :
    (relaid.findIdx? test).map (j + ·) = (lines.findIdx? test).map fun k => s (i + k) := by
  have hshift : ∀ (found : Option Nat) (j : Nat),
      (found.map (· + 1)).map (j + ·) = found.map (j + 1 + ·) := by
    intro found j
    rw [Option.map_map]
    exact congrArg (Option.map · found) (funext fun k => (Nat.add_right_comm j 1 k ▸ rfl))
  induction h with
  | nil => rfl
  | @line i j text padded lines relaid hs hpadded _ ih =>
    rw [List.findIdx?_cons, List.findIdx?_cons, hline hpadded]
    cases test text with
    | true => exact congrArg some hs.symm
    | false =>
      simp only [Bool.false_eq_true, if_false]
      rw [hshift, ih, Option.map_map]
      exact congrArg (Option.map · _) (funext fun k => congrArg s (by simp only; omega))
  | blank hb _ _ ih =>
    rw [List.findIdx?_cons, hblank hb]
    simp only [Bool.false_eq_true, if_false]
    rw [hshift, ih]

/-- A fold that lines of blanks do not change. -/
theorem foldl_eq {f : α → String → α} (h : Relaid s i j lines relaid) (a : α)
    (hline : ∀ {a text padded}, Padded text padded → f a padded = f a text)
    (hblank : ∀ {a blanks}, isBlankText blanks = true → f a blanks = a) :
    relaid.foldl f a = lines.foldl f a := by
  induction h generalizing a with
  | nil => rfl
  | line _ hpadded _ ih => rw [List.foldl_cons, List.foldl_cons, hline hpadded, ih]
  | blank hb _ _ ih => rw [List.foldl_cons, hblank hb, ih]

/-- A fold over numbered lines keeps a relation that each line keeps. -/
theorem foldl_zipIdx {r : α → β → Prop} {f : α → String × Nat → α} {g : β → String × Nat → β} {a : α}
    {b : β} (h : Relaid s i j lines relaid) (hr : r a b)
    (hline : ∀ {a b text padded} (i : Nat), r a b → Padded text padded →
      r (f a (text, i)) (g b (padded, s i)))
    (hblank : ∀ {a b blanks} (j : Nat), r a b → isBlankText blanks = true → r a (g b (blanks, j))) :
    r (lines.zipIdx i |>.foldl f a) (relaid.zipIdx j |>.foldl g b) := by
  induction h generalizing a b with
  | nil => exact hr
  | @line i j _ _ _ _ hs hpadded _ ih =>
    rw [List.zipIdx_cons, List.zipIdx_cons, List.foldl_cons, List.foldl_cons]
    exact ih (hs ▸ hline i hr hpadded)
  | @blank _ j _ _ _ hb _ _ ih =>
    rw [List.zipIdx_cons, List.foldl_cons]
    exact ih (hblank j hr hb)

/-- The last line on which a reading finds something, if it finds nothing on lines of blanks. -/
theorem findSome?_reverse {reading : String → Option α} (h : Relaid s i j lines relaid)
    (hline : ∀ {text padded}, Padded text padded → reading padded = reading text)
    (hblank : ∀ {blanks}, isBlankText blanks = true → reading blanks = none) :
    ((relaid.zipIdx j).reverse.findSome? fun entry => (reading entry.1).map (entry.2, ·)) =
      ((lines.zipIdx i).reverse.findSome? fun entry => (reading entry.1).map (entry.2, ·)).map
        (Prod.map s id) := by
  induction h with
  | nil => rfl
  | @line i j text padded _ _ hs hpadded _ ih =>
    simp only [List.zipIdx_cons, List.reverse_cons, List.findSome?_append, ih, Option.map_or,
      List.findSome?_cons, List.findSome?_nil, hline hpadded]
    cases reading text with
    | none => rfl
    | some found =>
      rw [← hs]
      rfl
  | blank hb _ _ ih =>
    simp only [List.zipIdx_cons, List.reverse_cons, List.findSome?_append, ih, List.findSome?_cons,
      List.findSome?_nil, hblank hb, Option.map_none, Option.or_none]

end Relaid

/-! ### Documents -/

namespace TextDocument

/-- The second document is the first one in another layout; line `i` is shown as line `s i`. -/
structure Relayout (s : Nat → Nat) (d d' : TextDocument) : Prop where
  /-- The lines keep their order. -/
  strictMono : StrictMono s
  /-- The language is the same. -/
  languageId_eq : d'.languageId = d.languageId
  /-- The lines. -/
  lines : Relaid s 0 0 d.lines d'.lines

namespace Relayout

variable {s : Nat → Nat} {d d' : TextDocument} {i j : Nat} {text padded : String} {α : Type}

theorem exists_padded (h : Relayout s d d') (hi : d.lines[i]? = some text) :
    ∃ padded, d'.lines[s i]? = some padded ∧ Line.Padded text padded := by
  have := h.lines.getElem?_apply hi
  rwa [Nat.zero_add] at this

theorem blank_or_exists (h : Relayout s d d') (hj : d'.lines[j]? = some padded) :
    isBlankText padded = true ∨
      ∃ i text, d.lines[i]? = some text ∧ s i = j ∧ Line.Padded text padded := by
  have := h.lines.blank_or_exists hj
  simpa only [Nat.zero_add] using this

theorem drop (h : Relayout s d d') (hi : i < d.lineCount) :
    Relaid s i (s i) (d.lines.drop i) (d'.lines.drop (s i)) := by
  have := h.lines.drop hi
  rwa [Nat.zero_add] at this

theorem take (h : Relayout s d d') (hi : i < d.lineCount) :
    Relaid s 0 0 (d.lines.take (i + 1)) (d'.lines.take (s i + 1)) := by
  have := h.lines.take hi
  rwa [Nat.zero_add] at this

theorem apply_last (h : Relayout s d d') (hi : i < d.lineCount) :
    s (d.lineCount - 1) = d'.lineCount - 1 := by
  have := h.lines.apply_last (List.ne_nil_of_length_pos (Nat.zero_lt_of_lt hi))
  rw [Nat.zero_add, Nat.zero_add] at this
  exact Nat.eq_sub_of_add_eq this

theorem apply_lt_iff (h : Relayout s d d') : s i < d'.lineCount ↔ i < d.lineCount := by
  constructor
  · intro hlt
    obtain ⟨padded, hpadded⟩ : ∃ padded, d'.lines[s i]? = some padded :=
      ⟨_, List.getElem?_eq_getElem hlt⟩
    by_contra hge
    cases hcount : d.lineCount with
    | zero =>
      have hnil := List.eq_nil_of_length_eq_zero hcount
      have hnil' := (hnil ▸ h.lines).eq_nil
      simp [hnil'] at hpadded
    | succ count =>
      have hlast := h.apply_last (i := count) (by omega)
      rw [hcount, Nat.add_sub_cancel] at hlast
      have := h.strictMono (a := count) (b := i) (by omega)
      omega
  · intro hlt
    obtain ⟨padded, hpadded, -⟩ := h.exists_padded (List.getElem?_eq_getElem hlt)
    exact (List.getElem?_eq_some_iff.1 hpadded).1

/-- What is read of a line, if it is read of the padded line as well. -/
theorem bind_apply {reading : String → Option α} (h : Relayout s d d')
    (hline : ∀ {text padded}, Line.Padded text padded → reading padded = reading text) (i : Nat) :
    d'.lines[s i]?.bind reading = d.lines[i]?.bind reading := by
  cases hi : d.lines[i]? with
  | some text =>
    obtain ⟨padded, hpadded, hpad⟩ := h.exists_padded hi
    rw [hpadded, Option.bind_some, Option.bind_some, hline hpad]
  | none =>
    have hge : ¬ s i < d'.lineCount := by
      rw [h.apply_lt_iff]
      exact Nat.not_lt.2 (List.getElem?_eq_none_iff.1 hi)
    rw [List.getElem?_eq_none (Nat.not_lt.1 hge)]

/-- Only lines of the old layout show what lines of blanks do not. -/
theorem exists_of_bind {reading : String → Option α} {found : α} (h : Relayout s d d')
    (hblank : ∀ {blanks}, isBlankText blanks = true → reading blanks = none)
    (hj : d'.lines[j]?.bind reading = some found) : ∃ i, s i = j := by
  obtain ⟨padded, hpadded, hfound⟩ := Option.bind_eq_some_iff.1 hj
  rcases h.blank_or_exists hpadded with hb | ⟨i, text, -, hsi, -⟩
  · rw [hblank hb] at hfound
    simp at hfound
  · exact ⟨i, hsi⟩

/-- The last line above on which a reading finds something is the same. -/
theorem foundAbove_apply {reading : String → Option α} (h : Relayout s d d')
    (hline : ∀ {text padded}, Line.Padded text padded → reading padded = reading text)
    (hblank : ∀ {blanks}, isBlankText blanks = true → reading blanks = none) (hi : i < d.lineCount) :
    d'.foundAbove reading (s i) = (d.foundAbove reading i).map (Prod.map s id) :=
  (h.take hi).findSome?_reverse hline hblank

end Relayout

/-- The document with a line put in front of the line with a number. -/
def insertLine (d : TextDocument) (number : Nat) (line : String) : TextDocument :=
  ⟨d.languageId, d.lines.insertIdx number line⟩

/-- The number of a line once another one was put in front of the line with the given number. -/
def shift (number i : Nat) : Nat := if i < number then i else i + 1

theorem strictMono_shift (number : Nat) : StrictMono (shift number) := by
  intro i j hij
  simp only [shift]
  split <;> split <;> omega

theorem relaid_same {s : Nat → Nat} {j : Nat} (lines : List String) {i : Nat}
    (hs : ∀ k, i ≤ k → s k + i = k + j) : Relaid s i j lines lines := by
  induction lines generalizing i j with
  | nil => exact .nil
  | cons line lines ih =>
    have hi := hs i (Nat.le_refl i)
    exact .line (by omega) (.refl line) (ih fun k hk => by have := hs k (by omega); omega)

theorem relaid_insertIdx {number i : Nat} {blanks : String} {lines : List String}
    (hblanks : isBlankText blanks = true) (hlt : number < lines.length) :
    Relaid (shift (i + number)) i i lines (lines.insertIdx number blanks) := by
  induction number generalizing i lines with
  | zero =>
    rw [List.insertIdx_zero]
    refine .blank hblanks (List.ne_nil_of_length_pos hlt) (relaid_same lines fun k hk => ?_)
    rw [shift, if_neg (by omega)]
    omega
  | succ number ih =>
    obtain ⟨line, lines, rfl⟩ := List.exists_cons_of_length_pos (Nat.zero_lt_of_lt hlt)
    rw [List.insertIdx_succ_cons]
    refine .line (if_pos (by omega)) (.refl line) ?_
    rw [← Nat.add_assoc, Nat.add_right_comm]
    exact ih (Nat.lt_of_succ_lt_succ hlt)

/-- A line of blanks put in front of a line makes another layout. -/
theorem relayout_insertLine {d : TextDocument} {number : Nat} {blanks : String}
    (hblanks : isBlankText blanks = true) (hlt : number < d.lineCount) :
    Relayout (shift number) d (d.insertLine number blanks) :=
  ⟨strictMono_shift number, rfl, by
    have h := relaid_insertIdx (i := 0) hblanks hlt
    rwa [Nat.zero_add] at h⟩

/-- The second document is the first one with blanks put around its lines. -/
structure Padded (d d' : TextDocument) : Prop where
  /-- The language is the same. -/
  languageId_eq : d'.languageId = d.languageId
  /-- The lines, each with any blanks in front and at its end. -/
  lines : List.Forall₂ Line.Padded d.lines d'.lines

theorem relaid_of_forall₂ {i : Nat} {lines padded : List String}
    (h : List.Forall₂ Line.Padded lines padded) : Relaid id i i lines padded := by
  induction h generalizing i with
  | nil => exact .nil
  | cons hpadded _ ih => exact .line rfl hpadded ih

theorem relayout_of_padded {d d' : TextDocument} (h : Padded d d') : Relayout id d d' :=
  ⟨strictMono_id, h.languageId_eq, relaid_of_forall₂ h.lines⟩

end TextDocument

end LineKin
