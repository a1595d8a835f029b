import LineKin.Proofs.Document.Cutting
import LineKin.Proofs.Document.Reading
import LineKin.Proofs.File.Tree
import Mathlib.Data.List.Basic

/-!
# Reading, writing and creating folders

A walk goes from folder to folder of one tree (`Location.IsIn`), and in a tree that keeps the folders it goes
through the same places (`SamePlace.walk`). So a path ends at the same place before and after something
was put in (`target_keeps`), from which follows what a caller of the operations sees:

* a file that was written is read as it was written (`read_write`);
* a file is read in the same way in every tree that keeps it (`Keeps.read_eq`).
-/

namespace LineKin

/-- No piece of a path has a slash in it. -/
theorem Path.slash_not_mem_of_mem_pieces {path piece : String} (h : piece ∈ pieces path) :
    '/' ∉ piece.toList := by
  rw [pieces, List.mem_map] at h
  obtain ⟨chars, hchars, rfl⟩ := h
  rw [String.toList_ofList]
  exact fun hslash => (TextDocument.mem_and_ne_of_mem_splitOn hchars hslash).2 rfl

namespace FileTree

variable {t t' found : FileTree} {path piece name last : String} {before : List String} {slash : Bool}
  {p p' q q' : Location} {x : Target} {content : ByteArray}

/-! ### Locations of a tree -/

namespace Location

/-- A walk through the folders of a tree has come to the location. -/
inductive IsIn (t : FileTree) : Location → Prop
  | start (h : t.isFolder = true) : IsIn t ⟨t, []⟩
  | enter {p : Location} {name : String} {child : FileTree} (hp : IsIn t p)
      (hchild : p.here.child? name = some child) (hfolder : child.isFolder = true) :
      IsIn t (p.enter name child)

@[simp] theorem names_enter (p : Location) (name : String) (child : FileTree) :
    (p.enter name child).names = p.names ++ [name] := by
  simp [names, Location.enter]

theorem IsIn.isFolder (h : p.IsIn t) : p.here.isFolder = true := by
  cases h with
  | start h => exact h
  | enter hp hchild hfolder => exact hfolder

theorem IsIn.at?_names (h : p.IsIn t) : t.at? p.names = some p.here := by
  induction h with
  | start h => rfl
  | enter hp hchild hfolder ih => rw [names_enter, at?_concat, ih, Option.bind_some, hchild, Location.enter]

theorem IsIn.hasFolder (h : p.IsIn t) : t.HasFolder p.names := ⟨p.here, h.at?_names, h.isFolder⟩

theorem IsIn.at?_concat (h : p.IsIn t) (name : String) :
    t.at? (p.names ++ [name]) = p.here.child? name := by
  rw [FileTree.at?_concat, h.at?_names, Option.bind_some]

theorem IsIn.hasFolder_concat (h : p.IsIn t) : t.HasFolder (p.names ++ [name]) ↔
    ∃ child, p.here.child? name = some child ∧ child.isFolder = true := by
  rw [HasFolder, h.at?_concat]

theorem IsIn.enter_outside (ht : t.IsSound) (h : p.IsIn t) (hname : IsOutside name) :
    (p.enter name ((p.here.child? name).getD empty)).IsIn t := by
  obtain ⟨child, hchild, hfolder⟩ := h.hasFolder_concat.1 (ht.hasFolder_outside h.hasFolder hname)
  rw [hchild, Option.getD_some]
  exact h.enter hchild hfolder

theorem up_enter (p : Location) (name : String) (child : FileTree) : (p.enter name child).up =
    if name == rootName then p.enter name child
    else if name == aboveName then
      (p.enter name child).enter aboveName (((p.enter name child).here.child? aboveName).getD empty)
    else p := rfl

theorem IsIn.up (ht : t.IsSound) (h : p.IsIn t) : p.up.IsIn t := by
  cases h with
  | start hfolder => exact (IsIn.start hfolder).enter_outside ht (.inr rfl)
  | enter hp hchild hfolder =>
    have hself := hp.enter hchild hfolder
    rw [up_enter]
    split
    · exact hself
    · split
      · exact hself.enter_outside ht (.inr rfl)
      · exact hp

/-- Where the way up leads depends only on the names. -/
theorem names_up_congr (h : p'.names = p.names) : p'.up.names = p.up.names := by
  have htrail : p'.trail.map (·.1) = p.trail.map (·.1) := List.reverse_inj.1 h
  have hnames (name : String) (c c' : FileTree) : (p'.enter name c').names = (p.enter name c).names := by
    rw [names_enter, names_enter, h]
  rw [Location.up, Location.up]
  cases hp : p.trail with
  | nil =>
    rw [hp, List.map_nil, List.map_eq_nil_iff] at htrail
    rw [htrail]
    exact hnames ..
  | cons first trail =>
    cases hp' : p'.trail with
    | nil => simp [hp, hp'] at htrail
    | cons first' trail' =>
      obtain ⟨name, above⟩ := first
      obtain ⟨name', above'⟩ := first'
      rw [hp, hp', List.map_cons, List.map_cons, List.cons.injEq] at htrail
      obtain ⟨rfl, htrail⟩ := htrail
      dsimp only
      split
      · exact h
      · split
        · exact hnames ..
        · exact congrArg List.reverse htrail

/-! ### Steps -/

theorem find?_eq_ok_iff {o : Option FileTree} :
    p.find? name = .ok o ↔ name.utf8ByteSize ≤ nameLimit ∧ p.here.child? name = o := by
  rw [find?]
  split
  · rename_i hlong
    exact iff_of_false (fun h => by cases h) (fun h => absurd h.1 (Nat.not_le.2 hlong))
  · rename_i hshort
    rw [Except.ok.injEq, and_iff_right (Nat.le_of_not_lt hshort)]

/-- All that a step can do. -/
theorem step_eq_ok_iff : p.step piece = .ok q ↔
    (piece = "." ∧ q = p) ∨ (piece = ".." ∧ q = p.up) ∨
    (piece ≠ "." ∧ piece ≠ ".." ∧ ∃ child, p.find? piece = .ok (some child) ∧ child.isFolder = true ∧
      q = p.enter piece child) := by
  by_cases hdot : piece = "."
  · subst hdot
    have hself : p.step "." = .ok p := rfl
    rw [hself, Except.ok.injEq, eq_comm]
    simp
  · by_cases hdots : piece = ".."
    · subst hdots
      have hup : p.step ".." = .ok p.up := rfl
      rw [hup, Except.ok.injEq, eq_comm]
      simp
    · simp only [step, hdot, hdots, beq_iff_eq, if_false, false_and, false_or, not_false_eq_true, true_and,
        ne_eq]
      constructor
      · intro h
        obtain ⟨o, ho, h⟩ := eq_ok_of_bind h
        cases o with
        | none => cases h
        | some child =>
          dsimp only at h
          split at h
          · rename_i hfolder
            exact ⟨child, ho, hfolder, (Except.ok.inj h).symm⟩
          · cases h
      · rintro ⟨child, hchild, hfolder, rfl⟩
        rw [hchild, ok_bind]
        exact if_pos hfolder

theorem IsIn.step (ht : t.IsSound) (hp : p.IsIn t) (h : p.step piece = .ok q) : q.IsIn t := by
  rcases step_eq_ok_iff.1 h with ⟨-, rfl⟩ | ⟨-, rfl⟩ | ⟨-, -, child, hchild, hfolder, rfl⟩
  · exact hp
  · exact hp.up ht
  · exact hp.enter (find?_eq_ok_iff.1 hchild).2 hfolder

end Location

open Location

/-- Two locations are the same place, one in each of two trees. -/
structure SamePlace (t t' : FileTree) (p p' : Location) : Prop where
  /-- The first is in the first tree. -/
  left : p.IsIn t
  /-- The second is in the second tree. -/
  right : p'.IsIn t'
  /-- The same names lead to both. -/
  names : p'.names = p.names

/-- A step goes to the same place in a tree that keeps the folders. -/
theorem SamePlace.step (ht : t.IsSound) (ht' : t'.IsSound) (hkeeps : t.KeepsFolders t')
    (hp : SamePlace t t' p p') (h : p.step piece = .ok q) :
    ∃ q', p'.step piece = .ok q' ∧ SamePlace t t' q q' := by
  have hq := hp.left.step ht h
  rcases step_eq_ok_iff.1 h with ⟨hdot, rfl⟩ | ⟨hdots, rfl⟩ | ⟨hdot, hdots, child, hchild, hfolder, rfl⟩
  · exact ⟨p', step_eq_ok_iff.2 (.inl ⟨hdot, rfl⟩), hp⟩
  · exact ⟨p'.up, step_eq_ok_iff.2 (.inr (.inl ⟨hdots, rfl⟩)), hq, hp.right.up ht',
      names_up_congr hp.names⟩
  · obtain ⟨hshort, hchild⟩ := find?_eq_ok_iff.1 hchild
    have hthere := hkeeps _ (hp.left.hasFolder_concat.2 ⟨child, hchild, hfolder⟩)
    rw [← hp.names, hp.right.hasFolder_concat] at hthere
    obtain ⟨child', hchild', hfolder'⟩ := hthere
    refine ⟨p'.enter piece child', ?_, hq, hp.right.enter hchild' hfolder', ?_⟩
    · exact step_eq_ok_iff.2 (.inr (.inr
        ⟨hdot, hdots, child', find?_eq_ok_iff.2 ⟨hshort, hchild'⟩, hfolder', rfl⟩))
    · rw [names_enter, names_enter, hp.names]

/-- A walk goes through the same places in a tree that keeps the folders. -/
theorem SamePlace.walk (ht : t.IsSound) (ht' : t'.IsSound) (hkeeps : t.KeepsFolders t')
    {pieces : List String} (hp : SamePlace t t' p p') (h : pieces.foldlM Location.step p = .ok q) :
    ∃ q', pieces.foldlM Location.step p' = .ok q' ∧ SamePlace t t' q q' := by
  induction pieces generalizing p p' with
  | nil =>
    obtain rfl := Except.ok.inj h
    exact ⟨p', rfl, hp⟩
  | cons piece pieces ih =>
    rw [List.foldlM_cons] at h
    obtain ⟨r, hr, h⟩ := eq_ok_of_bind h
    obtain ⟨r', hr', hsame⟩ := hp.step ht ht' hkeeps hr
    obtain ⟨q', hq', hsame⟩ := ih hsame h
    exact ⟨q', by rw [List.foldlM_cons, hr', ok_bind, hq'], hsame⟩

theorem samePlace_start (ht : t.IsSound) (ht' : t'.IsSound) (path : String) :
    SamePlace t t' (t.start path) (t'.start path) := by
  have hroot {t : FileTree} (ht : t.IsSound) := (IsIn.start ht.isFolder).enter_outside ht (.inl rfl)
  rw [start, start]
  split
  · exact ⟨hroot ht, hroot ht', by rw [names_enter, names_enter]; rfl⟩
  · exact ⟨.start ht.isFolder, .start ht'.isFolder, rfl⟩

/-! ### Targets -/

/-- The pieces of a path that a walk takes notice of. -/
def steps (path : String) : List String := (Path.pieces path).filter fun piece => piece != ""

/-- Where a path ends whose last piece is taken at a location. -/
def arrival (path last : String) (p : Location) : Target :=
  if last == "." then .folder p
  else if last == ".." then .folder p.up
  else .entry p last (Path.endsWithSlash path)

theorem target_of_steps_nil (hcheck : checkPath path = .ok ()) (hsteps : steps path = []) :
    t.target path = .ok (.folder (t.start path)) := by
  rw [target, hcheck, ok_bind, ← steps, hsteps]
  rfl

theorem target_of_steps_concat (hcheck : checkPath path = .ok ())
    (hsteps : steps path = before ++ [last]) :
    t.target path = (before.foldlM Location.step (t.start path)).map (arrival path last) := by
  rw [target, hcheck, ok_bind, ← steps, hsteps, List.reverse_concat]
  simp only [List.reverse_reverse]
  cases before.foldlM Location.step (t.start path) with
  | error e => rfl
  | ok p =>
    rw [ok_bind, Except.map, arrival]
    split
    · rfl
    · split <;> rfl

/-- All that a path can end at. -/
theorem target_cases (h : t.target path = .ok x) :
    checkPath path = .ok () ∧ ((steps path = [] ∧ x = .folder (t.start path)) ∨
      ∃ before last p, steps path = before ++ [last] ∧
        before.foldlM Location.step (t.start path) = .ok p ∧ x = arrival path last p) := by
  have hcheck : checkPath path = .ok () := by
    obtain ⟨⟨⟩, hcheck, -⟩ := eq_ok_of_bind h
    exact hcheck
  refine ⟨hcheck, ?_⟩
  rcases List.eq_nil_or_concat' (steps path) with hsteps | ⟨before, last, hsteps⟩
  · rw [target_of_steps_nil hcheck hsteps] at h
    exact .inl ⟨hsteps, (Except.ok.inj h).symm⟩
  · rw [target_of_steps_concat hcheck hsteps] at h
    cases hwalk : before.foldlM Location.step (t.start path) with
    | error e =>
      rw [hwalk] at h
      cases h
    | ok p =>
      rw [hwalk] at h
      exact .inr ⟨before, last, p, hsteps, hwalk, (Except.ok.inj h).symm⟩

/-- Two targets are the same, one in each of two trees. -/
inductive SameTarget (t t' : FileTree) : Target → Target → Prop
  | folder {p p' : Location} (h : SamePlace t t' p p') : SameTarget t t' (.folder p) (.folder p')
  | entry {p p' : Location} {name : String} {slash : Bool} (h : SamePlace t t' p p') :
      SameTarget t t' (.entry p name slash) (.entry p' name slash)

theorem SamePlace.arrival (ht : t.IsSound) (ht' : t'.IsSound) (h : SamePlace t t' p p')
    (path last : String) : SameTarget t t' (arrival path last p) (arrival path last p') := by
  rw [FileTree.arrival, FileTree.arrival]
  split
  · exact .folder h
  · split
    · exact .folder ⟨h.left.up ht, h.right.up ht', names_up_congr h.names⟩
    · exact .entry h

/-- A path ends at the same place in a tree that keeps the folders. -/
theorem target_keeps (ht : t.IsSound) (ht' : t'.IsSound) (hkeeps : t.KeepsFolders t')
    (h : t.target path = .ok x) : ∃ x', t'.target path = .ok x' ∧ SameTarget t t' x x' := by
  have hstart := samePlace_start ht ht' path
  obtain ⟨hcheck, ⟨hsteps, rfl⟩ | ⟨before, last, p, hsteps, hwalk, rfl⟩⟩ := target_cases h
  · exact ⟨_, target_of_steps_nil hcheck hsteps, .folder hstart⟩
  · obtain ⟨p', hwalk', hsame⟩ := hstart.walk ht ht' hkeeps hwalk
    refine ⟨_, ?_, hsame.arrival ht ht' path last⟩
    rw [target_of_steps_concat hcheck hsteps, hwalk']
    rfl

theorem isIn_of_target (ht : t.IsSound) (h : t.target path = .ok (.entry p name slash)) : p.IsIn t := by
  obtain ⟨x', -, hsame⟩ := target_keeps ht ht (fun _ h => h) h
  cases hsame with
  | entry hsame => exact hsame.left

theorem isIn_of_target_folder (ht : t.IsSound) (h : t.target path = .ok (.folder p)) : p.IsIn t := by
  obtain ⟨x', -, hsame⟩ := target_keeps ht ht (fun _ h => h) h
  cases hsame with
  | folder hsame => exact hsame.left

/-- The name that a path ends at is not a name of what is outside. -/
theorem not_isOutside_of_target (h : t.target path = .ok (.entry p name slash)) : ¬ IsOutside name := by
  obtain ⟨-, ⟨-, heq⟩ | ⟨before, last, q, hsteps, -, heq⟩⟩ := target_cases h
  · cases heq
  · rw [arrival] at heq
    split at heq
    · cases heq
    · split at heq
      · cases heq
      · rename_i hdots
        obtain ⟨rfl, rfl, rfl⟩ := Target.entry.inj heq
        rintro (hroot | habove)
        · have hmem : name ∈ Path.pieces path := by
            have hmem : name ∈ steps path := by simp [hsteps]
            exact (List.mem_filter.1 hmem).1
          refine Path.slash_not_mem_of_mem_pieces hmem ?_
          rw [hroot]
          decide
        · exact hdots (by simp [habove, aboveName])

/-! ### Files -/

/-- A name in a folder is the name of a file or of nothing. -/
def Location.IsFree (p : Location) (name : String) : Prop :=
  ∃ o, p.find? name = .ok o ∧ ∀ found, o = some found → found.isFolder = false

theorem Location.IsIn.not_hasFolder (h : p.IsIn t) (hfree : p.IsFree name) :
    ¬ t.HasFolder (p.names ++ [name]) := by
  obtain ⟨o, hfind, ho⟩ := hfree
  rw [h.hasFolder_concat]
  rintro ⟨child, hchild, hfolder⟩
  have hfile := ho child ((find?_eq_ok_iff.1 hfind).2.symm.trans hchild)
  rw [hfolder] at hfile
  cases hfile

/-- A path leads to a name in a folder that is the name of a file or of nothing. -/
def TakesFile (t : FileTree) (path : String) : Prop :=
  ∃ p name, t.target path = .ok (.entry p name false) ∧ p.IsFree name

theorem read_eq_ok_iff (ht : t.IsSound) : t.read path = .ok content ↔
    ∃ p name, t.target path = .ok (.entry p name false) ∧ p.find? name = .ok (some (file content)) := by
  constructor
  · intro h
    obtain ⟨found, hget, h⟩ := eq_ok_of_bind h
    cases found with
    | folder => cases h
    | file bytes =>
      obtain rfl := Except.ok.inj h
      obtain ⟨x, htarget, hget⟩ := eq_ok_of_bind hget
      cases x with
      | folder p =>
        have hfolder := (isIn_of_target_folder ht htarget).isFolder
        rw [Except.ok.inj hget] at hfolder
        cases hfolder
      | entry p name slash =>
        obtain ⟨o, hfind, hget⟩ := eq_ok_of_bind hget
        cases o with
        | none => cases hget
        | some found =>
          dsimp only at hget
          split at hget
          · cases hget
          · rename_i hslash
            obtain rfl := Except.ok.inj hget
            obtain rfl : slash = false := by simpa using hslash
            exact ⟨p, name, htarget, hfind⟩
  · rintro ⟨p, name, htarget, hfind⟩
    have hget : t.get path = .ok (file content) := by
      rw [get, htarget, ok_bind]
      dsimp only
      rw [hfind, ok_bind]
      rfl
    rw [read, hget, ok_bind]

theorem pathExists_of_read (h : t.read path = .ok content) : t.pathExists path = true := by
  obtain ⟨found, hfound, -⟩ := eq_ok_of_bind h
  rw [pathExists, hfound]
  rfl

theorem write_eq_ok_iff : t.write path content = .ok t' ↔
    ∃ p name, t.target path = .ok (.entry p name false) ∧ p.IsFree name ∧
      t' = t.put (p.names ++ [name]) (file content) := by
  constructor
  · intro h
    obtain ⟨x, htarget, h⟩ := eq_ok_of_bind h
    cases x with
    | folder p => cases h
    | entry p name slash =>
      cases slash with
      | true => cases h
      | false =>
        obtain ⟨o, hfind, h⟩ := eq_ok_of_bind h
        refine ⟨p, name, htarget, ⟨o, hfind, ?_⟩, ?_⟩
        · rintro found rfl
          cases found with
          | file => rfl
          | folder => cases h
        · cases o with
          | none => exact (Except.ok.inj h).symm
          | some found =>
            cases found with
            | file => exact (Except.ok.inj h).symm
            | folder => cases h
  · rintro ⟨p, name, htarget, ⟨o, hfind, ho⟩, rfl⟩
    rw [write, htarget, ok_bind]
    dsimp only
    rw [hfind, ok_bind]
    cases o with
    | none => rfl
    | some found =>
      cases found with
      | file => rfl
      | folder => exact absurd (ho _ rfl) (by simp)

/-- There is a file at a path, so there can be one. -/
theorem takesFile_of_read (ht : t.IsSound) (h : t.read path = .ok content) : t.TakesFile path := by
  obtain ⟨p, name, htarget, hfind⟩ := (read_eq_ok_iff ht).1 h
  refine ⟨p, name, htarget, _, hfind, ?_⟩
  rintro found ⟨⟩
  rfl

theorem TakesFile.exists_write (h : t.TakesFile path) (content : ByteArray) :
    ∃ t', t.write path content = .ok t' := by
  obtain ⟨p, name, htarget, hfree⟩ := h
  exact ⟨_, write_eq_ok_iff.2 ⟨p, name, htarget, hfree, rfl⟩⟩

theorem IsSound.write (ht : t.IsSound) (h : t.write path content = .ok t') : t'.IsSound := by
  obtain ⟨p, name, htarget, hfree, rfl⟩ := write_eq_ok_iff.1 h
  have hp := isIn_of_target ht htarget
  refine ht.put (hp.not_hasFolder hfree) hp.hasFolder fun more content' hmore => ?_
  cases more with
  | nil => exact ⟨rfl, not_isOutside_of_target htarget⟩
  | cons => cases hmore

/-- **A file that was written is read as it was written.** -/
theorem read_write (ht : t.IsSound) (h : t.write path content = .ok t') : t'.read path = .ok content := by
  have ht' := ht.write h
  obtain ⟨p, name, htarget, hfree, rfl⟩ := write_eq_ok_iff.1 h
  have hp := isIn_of_target ht htarget
  have hkeeps : t.KeepsFolders (t.put (p.names ++ [name]) (file content)) :=
    fun names hnames => hnames.put (hp.not_hasFolder hfree) hp.hasFolder _
  obtain ⟨x', htarget', hsame⟩ := target_keeps ht ht' hkeeps htarget
  cases hsame with
  | @entry _ p' _ _ hsame =>
    obtain ⟨o, hfind, -⟩ := hfree
    have hshort := (find?_eq_ok_iff.1 hfind).1
    refine (read_eq_ok_iff ht').2 ⟨p', name, htarget', find?_eq_ok_iff.2 ⟨hshort, ?_⟩⟩
    rw [← hsame.right.at?_concat, hsame.names, at?_put_self hp.hasFolder]

/-- A file is read in every tree that keeps it. -/
theorem Keeps.read_eq (ht : t.IsSound) (hkeeps : t.Keeps t') (h : t.read path = .ok content) :
    t'.read path = .ok content := by
  obtain ⟨p, name, htarget, hfind⟩ := (read_eq_ok_iff ht).1 h
  obtain ⟨x', htarget', hsame⟩ := target_keeps ht hkeeps.isSound hkeeps.folders htarget
  cases hsame with
  | @entry _ p' _ _ hsame =>
    obtain ⟨hshort, hfile⟩ := find?_eq_ok_iff.1 hfind
    refine (read_eq_ok_iff hkeeps.isSound).2 ⟨p', name, htarget', find?_eq_ok_iff.2 ⟨hshort, ?_⟩⟩
    rw [← hsame.left.at?_concat] at hfile
    rw [← hsame.right.at?_concat, hsame.names]
    exact hkeeps.files _ _ hfile

end FileTree

end LineKin
