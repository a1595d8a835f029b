import LineKin.Proofs.File.Operations

/-!
# Creating the folders on the way

Folders are created one after the other, and that may fail when some of them are there. **Nothing is lost
in either case** (`keeps_tryParents`): a file that could be read can be read afterwards and has the same
bytes.

A path that leads somewhere needs no folders created (`tryParents_of_target`). The way to it consists of
beginnings of the path, and each of them leads to a folder.
-/

namespace LineKin

/-! ### Pieces of paths -/

namespace Path

variable {path last : String} {before rest ps : List String}

theorem ofPieces_pieces (path : String) : ofPieces (pieces path) = path := by
  have hchars : (ofPieces (pieces path)).toList = path.toList := by
    rw [ofPieces, String.toList_intercalate, pieces, List.map_map]
    have hself : (path.toList.splitOn '/').map (String.toList ∘ String.ofList) = path.toList.splitOn '/' :=
      (List.map_congr_left fun chars _ => String.toList_ofList).trans (List.map_id _)
    rw [hself]
    exact List.intercalate_splitOn '/'
  exact String.toList_inj.1 hchars

theorem pieces_ofPieces (hps : ∀ piece ∈ ps, '/' ∉ piece.toList) (hsome : ps ≠ []) :
    pieces (ofPieces ps) = ps := by
  have hsplit : ("/".intercalate ps).toList.splitOn '/' = ps.map String.toList :=
    TextDocument.splitOn_toList_intercalate rfl hps hsome
  rw [pieces, ofPieces, hsplit, List.map_map]
  exact (List.map_congr_left fun piece _ => String.ofList_toList).trans (List.map_id _)

/-- A beginning of a path has the first pieces of it. -/
theorem pieces_beginning (h : pieces path = before ++ last :: rest) :
    pieces (ofPieces (before ++ [last])) = before ++ [last] := by
  refine pieces_ofPieces (fun piece hpiece => ?_) (by simp)
  have hmem : piece ∈ pieces path := by
    rw [h, List.append_cons]
    exact List.mem_append_left _ hpiece
  exact slash_not_mem_of_mem_pieces hmem

theorem eq_beginning_append (h : pieces path = before ++ last :: rest) (hrest : rest ≠ []) :
    path = ofPieces (before ++ [last]) ++ ("/" ++ ofPieces rest) := by
  calc path = ofPieces (before ++ [last] ++ rest) := by rw [← List.append_cons, ← h, ofPieces_pieces]
    _ = ofPieces (before ++ [last]) ++ "/" ++ ofPieces rest :=
      String.intercalate_append_of_ne_nil (by simp) hrest
    _ = ofPieces (before ++ [last]) ++ ("/" ++ ofPieces rest) := String.append_assoc

/-- What is left without the pieces at the end that lead nowhere ends with a piece that leads somewhere. -/
theorem dropIdleEnd_cases (ps : List String) :
    dropIdleEnd ps = [] ∨ ∃ before last idle, ps = before ++ last :: idle ∧ isIdle last = false ∧
      dropIdleEnd ps = before ++ [last] := by
  have hcut := List.takeWhile_append_dropWhile (p := isIdle) (l := ps.reverse)
  have hfirst := List.head?_dropWhile_not isIdle ps.reverse
  rw [dropIdleEnd]
  cases hrest : ps.reverse.dropWhile isIdle with
  | nil => exact .inl rfl
  | cons last before =>
    rw [hrest] at hcut hfirst
    refine .inr ⟨before.reverse, last, (ps.reverse.takeWhile isIdle).reverse, ?_, hfirst, by simp⟩
    simpa using (congrArg List.reverse hcut).symm

end Path

namespace FileTree

variable {t t' : FileTree} {path last : String} {before rest ps : List String} {p : Location} {x : Target}

theorem Attempt.result_eq_ok_iff {ε : Type} {a : Attempt ε} :
    a.result = .ok t ↔ a.failure = none ∧ a.tree = t := by
  rw [Attempt.result]
  cases a.failure with
  | none => simp
  | some e => simp

/-! ### Nothing is lost -/

theorem makeFolder_eq_ok (h : t.makeFolder path = .ok t') :
    ∃ p name slash, t.target path = .ok (.entry p name slash) ∧ p.find? name = .ok none ∧
      t' = t.put (p.names ++ [name]) empty := by
  obtain ⟨x, htarget, h⟩ := eq_ok_of_bind h
  cases x with
  | folder p => cases h
  | entry p name slash =>
    obtain ⟨o, hfind, h⟩ := eq_ok_of_bind h
    cases o with
    | none => exact ⟨p, name, slash, htarget, hfind, (Except.ok.inj h).symm⟩
    | some found => cases h

theorem keeps_makeFolder (ht : t.IsSound) (h : t.makeFolder path = .ok t') : t.Keeps t' := by
  obtain ⟨p, name, slash, htarget, hfind, rfl⟩ := makeFolder_eq_ok h
  have hp := isIn_of_target ht htarget
  have hnothing : t.at? (p.names ++ [name]) = none := by
    rw [hp.at?_concat, (Location.find?_eq_ok_iff.1 hfind).2]
  have hfree : ¬ t.HasFolder (p.names ++ [name]) := by
    rintro ⟨found, hfound, -⟩
    rw [hnothing] at hfound
    cases hfound
  refine ⟨?_, fun names hnames => hnames.put hfree hp.hasFolder _, fun names content hfile => ?_⟩
  · exact ht.put hfree hp.hasFolder fun more content hmore => absurd hmore (at?_empty_ne_file more content)
  · refine at?_put_of_file hfree hp.hasFolder _ hfile ?_
    rintro rfl
    rw [hnothing] at hfile
    cases hfile

theorem keeps_ensureFolder (ht : t.IsSound) (h : t.ensureFolder path = .ok t') : t.Keeps t' := by
  rw [ensureFolder] at h
  split at h
  · split at h
    · obtain rfl := Except.ok.inj h
      exact ht.keeps_self
    · cases h
  · exact keeps_makeFolder ht h

/-- Nothing is lost when folders are created, also if that fails when some of them are there. -/
theorem keeps_tryFolders (ht : t.IsSound) (ps : List String) : t.Keeps (t.tryFolders ps).tree := by
  induction ps with
  | nil => exact ht.keeps_self
  | cons piece above ih =>
    rw [tryFolders]
    split
    · exact ih
    · dsimp only
      split
      · rename_i made hmade
        exact keeps_ensureFolder ht hmade
      · split
        · exact ih
        · split
          · rename_i made hmade
            exact ih.trans (keeps_ensureFolder ih.isSound hmade)
          · exact ih
      · exact ht.keeps_self

theorem keeps_tryParents (ht : t.IsSound) (path : String) : t.Keeps (t.tryParents path).tree :=
  keeps_tryFolders ht _

theorem keeps_makeParents (ht : t.IsSound) (h : t.makeParents path = .ok t') : t.Keeps t' := by
  obtain ⟨-, rfl⟩ := Attempt.result_eq_ok_iff.1 h
  exact keeps_tryParents ht path

/-! ### Folders that are there -/

/-- Nothing is done for a folder that is there. -/
theorem ensureFolder_of_walk (ht : t.IsSound) (hcheck : checkPath path = .ok ())
    (hsteps : steps path = before ++ [last]) (hlast : last ≠ ".")
    (hwalk : (before ++ [last]).foldlM Location.step (t.start path) = .ok p) :
    t.ensureFolder path = .ok t := by
  rw [List.foldlM_append] at hwalk
  obtain ⟨q, hq, hwalk⟩ := eq_ok_of_bind hwalk
  rw [List.foldlM_cons] at hwalk
  obtain ⟨r, hr, -⟩ := eq_ok_of_bind hwalk
  have htarget : t.target path = .ok (arrival path last q) := by
    rw [target_of_steps_concat hcheck hsteps, hq]
    rfl
  have hthere : t.makeFolder path = .error .present ∧ t.isFolderAt path = true := by
    rcases Location.step_eq_ok_iff.1 hr with
      ⟨hdot, -⟩ | ⟨rfl, -⟩ | ⟨hdot, hdots, child, hchild, hfolder, -⟩
    · exact absurd hdot hlast
    · have hup : t.target path = .ok (.folder q.up) := htarget
      have hget : t.get path = .ok q.up.here := by rw [get, hup, ok_bind]
      refine ⟨by rw [makeFolder, hup, ok_bind], ?_⟩
      rw [isFolderAt, hget]
      exact (isIn_of_target_folder ht hup).isFolder
    · rw [arrival, if_neg (by simpa using hdot), if_neg (by simpa using hdots)] at htarget
      have hget : t.get path = .ok child := by
        rw [get, htarget, ok_bind]
        dsimp only
        rw [hchild, ok_bind]
        simp [hfolder]
      refine ⟨?_, by rw [isFolderAt, hget]; exact hfolder⟩
      rw [makeFolder, htarget, ok_bind]
      dsimp only
      rw [hchild, ok_bind]
  rw [ensureFolder, hthere.1]
  exact if_pos hthere.2

/-- Nothing is done if all folders on the way are there. -/
theorem tryFolders_of_ensureFolder
    (h : ∀ before last, before ++ [last] <+: ps.reverse → Path.isIdle last = false →
      t.ensureFolder (Path.ofPieces (before ++ [last])) = .ok t) :
    t.tryFolders ps = { tree := t } := by
  induction ps with
  | nil => rfl
  | cons piece above ih =>
    rw [tryFolders]
    split
    · refine ih fun before last hprefix => h before last ?_
      rw [List.reverse_cons]
      exact hprefix.trans (List.prefix_append _ _)
    · rename_i hidle
      have hmade := h above.reverse piece (by simp) (by simpa using hidle)
      rw [← List.reverse_cons] at hmade
      simp only [hmade]

theorem checkPath_eq_ok_iff : checkPath path = .ok () ↔
    '\x00' ∉ path.toList ∧ path ≠ "" ∧ path.utf8ByteSize ≤ pathLimit := by
  rw [checkPath]
  split
  · simp_all
  · split
    · simp_all
    · split
      · simp_all
      · simp_all

/-- A beginning of a path that a file system looks at is looked at too, and starts at the same place. -/
theorem checkPath_of_append {behind : String} (hcheck : checkPath (path ++ behind) = .ok ())
    (hsome : path ≠ "") : checkPath path = .ok () ∧ t.start path = t.start (path ++ behind) := by
  obtain ⟨hnul, -, hsize⟩ := checkPath_eq_ok_iff.1 hcheck
  rw [String.toList_append, List.mem_append, not_or] at hnul
  rw [String.utf8ByteSize_append] at hsize
  refine ⟨checkPath_eq_ok_iff.2 ⟨hnul.1, hsome, by omega⟩, ?_⟩
  have habsolute : Path.isAbsolute (path ++ behind) = Path.isAbsolute path := by
    have hchars : path.toList ≠ [] := by simpa using hsome
    rw [Path.isAbsolute, Path.isAbsolute, String.toList_append, List.head?_append_of_ne_nil _ hchars]
  rw [start, start, habsolute]

/-- A walk to the end of a path comes past each folder on the way. -/
theorem exists_walk_beginning (h : t.target path = .ok x)
    (hpieces : Path.pieces path = before ++ last :: rest) (hlast : last ≠ "")
    (hrest : ∃ piece ∈ rest, piece ≠ "") :
    ∃ p, (before.filter (· != "") ++ [last]).foldlM Location.step (t.start path) = .ok p := by
  have hall : steps path = before.filter (· != "") ++ last :: rest.filter (· != "") := by
    rw [steps, hpieces, List.filter_append, List.filter_cons_of_pos (by simpa using hlast)]
  obtain ⟨-, ⟨hnone, -⟩ | ⟨walked, arrived, q, hsteps, hwalk, -⟩⟩ := target_cases h
  · simp [hall] at hnone
  · rcases List.eq_nil_or_concat' (rest.filter (· != "")) with hnone | ⟨front, z, hfront⟩
    · obtain ⟨piece, hpiece, hne⟩ := hrest
      exact absurd (List.filter_eq_nil_iff.1 hnone piece hpiece) (by simpa using hne)
    · have hconcat : (before.filter (· != "") ++ [last] ++ front) ++ [z] = walked ++ [arrived] := by
        rw [← hsteps, hall, hfront]
        simp
      rw [← (List.append_inj' hconcat rfl).1, List.foldlM_append] at hwalk
      obtain ⟨p, hp, -⟩ := eq_ok_of_bind hwalk
      exact ⟨p, hp⟩

/-- A folder on the way of a path that leads somewhere is there. -/
theorem ensureFolder_beginning (ht : t.IsSound) (h : t.target path = .ok x)
    (hpieces : Path.pieces path = before ++ last :: rest) (hlast : Path.isIdle last = false)
    (hrest : ∃ piece ∈ rest, piece ≠ "") :
    t.ensureFolder (Path.ofPieces (before ++ [last])) = .ok t := by
  obtain ⟨hempty, hdot⟩ : last ≠ "" ∧ last ≠ "." := by simpa [Path.isIdle] using hlast
  have hown := Path.pieces_beginning hpieces
  have hsome : Path.ofPieces (before ++ [last]) ≠ "" := by
    intro hnothing
    have hpiece : Path.pieces "" = [""] := rfl
    rw [hnothing, hpiece] at hown
    exact hempty (by simpa using congrArg List.getLast? hown.symm)
  obtain ⟨p, hwalk⟩ := exists_walk_beginning h hpieces hempty hrest
  have hcheck := (target_cases h).1
  rw [Path.eq_beginning_append hpieces (by rintro rfl; simp at hrest)] at hcheck hwalk
  obtain ⟨hcheck, hstart⟩ := checkPath_of_append (t := t) hcheck hsome
  rw [← hstart] at hwalk
  refine ensureFolder_of_walk ht hcheck ?_ hdot hwalk
  rw [steps, hown, List.filter_append, List.filter_cons_of_pos (by simpa using hempty), List.filter_nil]

/-- **A path that leads somewhere needs no folders created.** -/
theorem tryParents_of_target (ht : t.IsSound) (h : t.target path = .ok x) :
    t.tryParents path = { tree := t } := by
  refine tryFolders_of_ensureFolder fun before last hprefix hlast => ?_
  rw [List.reverse_reverse] at hprefix
  obtain ⟨more, hmore⟩ := hprefix
  rcases Path.dropIdleEnd_cases (Path.pieces path) with hnone | ⟨init, z, idle, hpieces, hz, hdropped⟩
  · rw [hnone] at hmore
    simp at hmore
  · rw [hdropped, List.dropLast_concat] at hmore
    obtain ⟨hz, -⟩ : z ≠ "" ∧ z ≠ "." := by simpa [Path.isIdle] using hz
    have hrest : Path.pieces path = before ++ last :: (more ++ z :: idle) := by
      rw [hpieces, ← hmore]
      simp
    exact ensureFolder_beginning ht h hrest hlast ⟨z, by simp, hz⟩

theorem makeParents_of_target (ht : t.IsSound) (h : t.target path = .ok x) : t.makeParents path = .ok t := by
  rw [makeParents, tryParents_of_target ht h]
  rfl

end FileTree

end LineKin
