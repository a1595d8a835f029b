import LineKin.File.Tree

/-!
# What names lead to

A list of names leads from folder to folder (`FileTree.at?`). Putting a tree where names lead changes what
is there and nothing beside it: other names lead to what they led to, or to the folder that they led to,
which has then got a new entry somewhere in it (`at?_put_cases`). So if there was no folder at the names, no
folder and no other file is lost (`HasFolder.put`, `at?_put_of_file`).

A tree is sound if what is outside of the folder that a program works in is made of folders
(`IsSound`). In a sound tree there is always a way up.
-/

namespace LineKin.FileTree

variable {t t' t'' new found : FileTree} {name : String} {names more other : List String}
  {content : ByteArray}

/-! ### Entries -/

@[simp] theorem isFolder_file (content : ByteArray) : (file content).isFolder = false := rfl

@[simp] theorem isFolder_folder (entries : List (String × FileTree)) : (folder entries).isFolder = true := rfl

@[simp] theorem isFolder_setChild (t : FileTree) (name : String) (new : FileTree) :
    (t.setChild name new).isFolder = t.isFolder := by
  cases t <;> rfl

/-- Only a folder has something in it. -/
theorem isFolder_of_child? (h : t.child? name = some found) : t.isFolder = true := by
  cases t with
  | file => cases h
  | folder => rfl

theorem child?_setChild_self (ht : t.isFolder = true) (name : String) (new : FileTree) :
    (t.setChild name new).child? name = some new := by
  cases t with
  | file => cases ht
  | folder entries => simp [setChild, child?]

theorem lookup_filter_of_ne {n : String} (h : n ≠ name) (entries : List (String × FileTree)) :
    (entries.filter fun entry => entry.1 != name).lookup n = entries.lookup n := by
  induction entries with
  | nil => rfl
  | cons entry entries ih =>
    obtain ⟨key, t⟩ := entry
    by_cases hkey : key = name
    · subst hkey
      simp [List.lookup_cons, beq_eq_false_iff_ne.2 h, ih]
    · simp [List.lookup_cons, hkey, ih]

theorem child?_setChild_of_ne {n : String} (h : n ≠ name) (t new : FileTree) :
    (t.setChild name new).child? n = t.child? n := by
  cases t with
  | file => rfl
  | folder entries =>
    simp [setChild, child?, List.lookup_cons, beq_eq_false_iff_ne.2 h, lookup_filter_of_ne h]

/-! ### Names -/

/-- What names lead to. -/
def at? : FileTree → List String → Option FileTree
  | t, [] => some t
  | t, name :: names => (t.child? name).bind fun child => child.at? names

@[simp] theorem at?_nil (t : FileTree) : t.at? [] = some t := rfl

theorem at?_cons (t : FileTree) (name : String) (names : List String) :
    t.at? (name :: names) = (t.child? name).bind fun child => child.at? names := rfl

theorem at?_append (t : FileTree) (names more : List String) :
    t.at? (names ++ more) = (t.at? names).bind fun found => found.at? more := by
  induction names generalizing t with
  | nil => rfl
  | cons name names ih =>
    rw [List.cons_append, at?_cons, at?_cons, Option.bind_assoc]
    exact congrArg _ (funext ih)

theorem at?_concat (t : FileTree) (names : List String) (name : String) :
    t.at? (names ++ [name]) = (t.at? names).bind fun found => found.child? name := by
  simp [at?_append, at?_cons]

/-- Names lead to a folder. -/
def HasFolder (t : FileTree) (names : List String) : Prop :=
  ∃ found, t.at? names = some found ∧ found.isFolder = true

theorem hasFolder_nil : t.HasFolder [] ↔ t.isFolder = true := by simp [HasFolder]

theorem hasFolder_cons :
    t.HasFolder (name :: names) ↔ ∃ child, t.child? name = some child ∧ child.HasFolder names := by
  simp only [HasFolder, at?_cons, Option.bind_eq_some_iff]
  constructor
  · rintro ⟨found, ⟨child, hchild, hfound⟩, hfolder⟩
    exact ⟨child, hchild, found, hfound, hfolder⟩
  · rintro ⟨child, hchild, found, hfound, hfolder⟩
    exact ⟨found, ⟨child, hchild, hfound⟩, hfolder⟩

/-- What lies behind names lies in a folder. -/
theorem hasFolder_of_at?_append (hmore : more ≠ []) (h : t.at? (names ++ more) = some found) :
    t.HasFolder names := by
  obtain ⟨name, more, rfl⟩ := List.exists_cons_of_ne_nil hmore
  rw [at?_append, Option.bind_eq_some_iff] at h
  obtain ⟨above, habove, hfound⟩ := h
  rw [at?_cons, Option.bind_eq_some_iff] at hfound
  obtain ⟨child, hchild, -⟩ := hfound
  exact ⟨above, habove, isFolder_of_child? hchild⟩

theorem HasFolder.of_append (h : t.HasFolder (names ++ more)) : t.HasFolder names := by
  obtain ⟨found, hfound, hfolder⟩ := h
  by_cases hmore : more = []
  · subst hmore
    rw [List.append_nil] at hfound
    exact ⟨found, hfound, hfolder⟩
  · exact hasFolder_of_at?_append hmore hfound

/-- A file is no folder. -/
theorem not_hasFolder_of_file (h : t.at? names = some (file content)) : ¬ t.HasFolder names := by
  rintro ⟨found, hfound, hfolder⟩
  obtain rfl := Option.some.inj (h.symm.trans hfound)
  cases hfolder

/-! ### Putting a tree in -/

/-- The step of all inductions below: the first name leads to a folder, which the rest is put into. -/
theorem put_cons (h : t.child? name = some found) (names : List String) (new : FileTree) :
    t.put (name :: names) new = t.setChild name (found.put names new) := by
  rw [put, h, Option.getD_some]

theorem at?_put_self (h : t.HasFolder names) (name : String) (new : FileTree) :
    (t.put (names ++ [name]) new).at? (names ++ [name]) = some new := by
  induction names generalizing t with
  | nil =>
    rw [List.nil_append, put, put, at?_cons, child?_setChild_self (hasFolder_nil.1 h)]
    rfl
  | cons first names ih =>
    obtain ⟨child, hchild, hnames⟩ := hasFolder_cons.1 h
    rw [List.cons_append, put_cons hchild, at?_cons,
      child?_setChild_self (isFolder_of_child? hchild), Option.bind_some]
    exact ih hnames

/-- What is beside the names stays what it was, and what is above them stays a folder. -/
theorem at?_put_cases (h : t.HasFolder names) (hother : ¬ names ++ [name] <+: other) (new : FileTree) :
    (t.put (names ++ [name]) new).at? other = t.at? other ∨
      t.HasFolder other ∧ (t.put (names ++ [name]) new).HasFolder other := by
  induction names generalizing t other with
  | nil =>
    have hfolder := hasFolder_nil.1 h
    rw [List.nil_append, put, put]
    cases other with
    | nil => exact .inr ⟨h, hasFolder_nil.2 (by rw [isFolder_setChild, hfolder])⟩
    | cons first other =>
      have hne : first ≠ name := by
        rintro rfl
        exact hother ⟨other, rfl⟩
      exact .inl (by rw [at?_cons, child?_setChild_of_ne hne, at?_cons])
  | cons first names ih =>
    obtain ⟨child, hchild, hnames⟩ := hasFolder_cons.1 h
    have hfolder := isFolder_of_child? hchild
    rw [List.cons_append, put_cons hchild]
    cases other with
    | nil => exact .inr ⟨hasFolder_nil.2 hfolder, hasFolder_nil.2 (by rw [isFolder_setChild, hfolder])⟩
    | cons n other =>
      by_cases hn : n = first
      · subst hn
        have hbeside : ¬ names ++ [name] <+: other := by
          rintro ⟨rest, rfl⟩
          exact hother ⟨rest, rfl⟩
        have hself := child?_setChild_self hfolder n (child.put (names ++ [name]) new)
        rcases ih hnames hbeside with hsame | ⟨hbefore, hafter⟩
        · refine .inl ?_
          rw [at?_cons, hself, at?_cons, hchild]
          exact hsame
        · exact .inr ⟨hasFolder_cons.2 ⟨child, hchild, hbefore⟩, hasFolder_cons.2 ⟨_, hself, hafter⟩⟩
      · exact .inl (by rw [at?_cons, child?_setChild_of_ne hn, at?_cons])

/-- No folder is lost if a tree is put where no folder was. -/
theorem HasFolder.put (hother : t.HasFolder other) (hfree : ¬ t.HasFolder (names ++ [name]))
    (h : t.HasFolder names) (new : FileTree) : (t.put (names ++ [name]) new).HasFolder other := by
  have hbeside : ¬ names ++ [name] <+: other := by
    rintro ⟨more, rfl⟩
    exact hfree hother.of_append
  rcases at?_put_cases h hbeside new with hsame | ⟨-, hafter⟩
  · rwa [HasFolder, hsame]
  · exact hafter

/-- No other file is lost if a tree is put where no folder was. -/
theorem at?_put_of_file (hfree : ¬ t.HasFolder (names ++ [name])) (h : t.HasFolder names)
    (new : FileTree) (hother : t.at? other = some (file content)) (hne : other ≠ names ++ [name]) :
    (t.put (names ++ [name]) new).at? other = some (file content) := by
  have hbeside : ¬ names ++ [name] <+: other := by
    rintro ⟨more, rfl⟩
    have hmore : more ≠ [] := by
      rintro rfl
      exact hne (List.append_nil _)
    exact hfree (hasFolder_of_at?_append hmore hother)
  rcases at?_put_cases h hbeside new with hsame | ⟨hbefore, -⟩
  · rw [hsame, hother]
  · exact absurd hbefore (not_hasFolder_of_file hother)

/-- A file that is there after a tree was put in is in that tree, or it was there before. -/
theorem file_of_at?_put (h : t.HasFolder names)
    (hother : (t.put (names ++ [name]) new).at? other = some (file content)) :
    t.at? other = some (file content) ∨
      ∃ more, other = names ++ [name] ++ more ∧ new.at? more = some (file content) := by
  by_cases hbehind : names ++ [name] <+: other
  · obtain ⟨more, rfl⟩ := hbehind
    rw [at?_append, at?_put_self h, Option.bind_some] at hother
    exact .inr ⟨more, rfl, hother⟩
  · rcases at?_put_cases h hbehind new with hsame | ⟨-, hafter⟩
    · exact .inl (hsame.symm.trans hother)
    · exact absurd hafter (not_hasFolder_of_file hother)

/-! ### Sound trees -/

/-- The names of what is outside of a folder. -/
def IsOutside (name : String) : Prop := name = rootName ∨ name = aboveName

/-- The folder that a program works in is a folder, and no file is called like what is outside. -/
structure IsSound (t : FileTree) : Prop where
  /-- It is a folder. -/
  isFolder : t.isFolder = true
  /-- No file is called like what is outside. -/
  outside : ∀ names name content, t.at? (names ++ [name]) = some (file content) → ¬ IsOutside name

theorem exists_child?_of_isOutside (ht : t.isFolder = true) (hname : IsOutside name) :
    ∃ child, t.child? name = some child := by
  cases t with
  | file => cases ht
  | folder entries =>
    rw [child?]
    cases entries.lookup name with
    | some child => exact ⟨child, rfl⟩
    | none => exact ⟨empty, if_pos (by simpa [IsOutside] using hname)⟩

/-- There is always a way outside. -/
theorem IsSound.hasFolder_outside (ht : t.IsSound) (h : t.HasFolder names) (hname : IsOutside name) :
    t.HasFolder (names ++ [name]) := by
  obtain ⟨found, hfound, hfolder⟩ := h
  obtain ⟨child, hchild⟩ := exists_child?_of_isOutside hfolder hname
  have hat : t.at? (names ++ [name]) = some child := by rw [at?_concat, hfound, Option.bind_some, hchild]
  cases child with
  | folder entries => exact ⟨_, hat, rfl⟩
  | file content => exact absurd hname (ht.outside names name content hat)

theorem at?_empty_ne_file (names : List String) (content : ByteArray) :
    empty.at? names ≠ some (file content) := by
  induction names with
  | nil =>
    intro h
    cases h
  | cons name names ih =>
    rw [at?_cons, empty, child?, List.lookup_nil]
    split
    · rename_i heq
      cases heq
    · split
      · exact ih
      · intro h
        cases h

theorem isSound_empty : empty.IsSound :=
  ⟨rfl, fun names name content h => absurd h (at?_empty_ne_file (names ++ [name]) content)⟩

/-- A tree stays sound if something is put in that has no file in it, unless it is a file itself and has a
name of its own. -/
theorem IsSound.put (ht : t.IsSound) (hfree : ¬ t.HasFolder (names ++ [name])) (h : t.HasFolder names)
    (hnew : ∀ more content, new.at? more = some (file content) → more = [] ∧ ¬ IsOutside name) :
    (t.put (names ++ [name]) new).IsSound := by
  refine ⟨hasFolder_nil.1 ((hasFolder_nil.2 ht.isFolder).put hfree h new), fun other n content hfile => ?_⟩
  rcases file_of_at?_put h hfile with hbefore | ⟨more, heq, hin⟩
  · exact ht.outside other n content hbefore
  · obtain ⟨rfl, hname⟩ := hnew more content hin
    rw [List.append_nil] at heq
    rwa [List.singleton_inj.1 (List.append_inj' heq rfl).2]

/-! ### Trees that keep what others have -/

/-- All folders of a tree are in another one. -/
def KeepsFolders (t t' : FileTree) : Prop := ∀ names, t.HasFolder names → t'.HasFolder names

/-- All files of a tree are in another one, with their bytes. -/
def KeepsFiles (t t' : FileTree) : Prop :=
  ∀ names content, t.at? names = some (file content) → t'.at? names = some (file content)

/-- Another sound tree has all that a tree has. -/
structure Keeps (t t' : FileTree) : Prop where
  /-- The other one is sound. -/
  isSound : t'.IsSound
  /-- The folders are there. -/
  folders : t.KeepsFolders t'
  /-- The files are there. -/
  files : t.KeepsFiles t'

theorem IsSound.keeps_self (ht : t.IsSound) : t.Keeps t := ⟨ht, fun _ h => h, fun _ _ h => h⟩

theorem Keeps.trans (h : t.Keeps t') (h' : t'.Keeps t'') : t.Keeps t'' :=
  ⟨h'.isSound, fun names hnames => h'.folders names (h.folders names hnames),
    fun names content hfile => h'.files names content (h.files names content hfile)⟩

end LineKin.FileTree
