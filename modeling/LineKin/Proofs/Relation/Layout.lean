import LineKin.Proofs.Relation.FlowLayout
import LineKin.Proofs.Relation.Variables
import LineKin.Relation.Functions
import LineKin.Relation.Imports
import LineKin.Relation.Members

/-!
# Heuristics in another layout

Each heuristic proposes for a line in another layout of a document the image of what it proposes for
the line: shared variables (`sharingLines_image`), definitions of what is called
(`definingLines_image`), imports (`importLines_image`, if the lines that are searched for imports are
the same), and members of a class (`proposedMembers_image`).
-/

namespace LineKin

open Line Text LineSet

/-! ### Names that are followed -/

namespace Relation

variable {lines : List String} {text : String}

theorem isName_of_mem_followedNames : ∀ name ∈ followedNames lines text, IsName name :=
  fun _ hname => (mem_followedNames.1 hname).isIdentifier.isName

theorem isName_of_mem_lookedUpCalls : ∀ name ∈ (lookedUpCalls text).eraseDups, IsName name :=
  fun name hname =>
    isName_of_mem_called name (List.mem_filter.1 (List.mem_eraseDups.1 hname)).1

end Relation

namespace TextDocument.Relayout

open LineKin.Relation

variable {s : Nat → Nat} {d d' : TextDocument} {t : Nat} {text padded : String}

/-- Lines chosen by a test that no line of blanks passes. -/
theorem linesWhere_image {test test' : Nat → String → Bool} (hd : Relayout s d d')
    (hline : ∀ {i text padded}, Line.Padded text padded → test' (s i) padded = test i text)
    (hblank : ∀ {j blanks}, isBlankText blanks = true → test' j blanks = false) :
    IsImage s (linesWhere d.lines test) (linesWhere d'.lines test') := by
  intro j
  simp only [mem_linesWhere]
  constructor
  · rintro ⟨padded, hj, hpass⟩
    rcases hd.blank_or_exists hj with hb | ⟨i, text, hi, rfl, hpad⟩
    · rw [hblank hb] at hpass
      exact Bool.noConfusion hpass
    · exact ⟨i, ⟨text, hi, hline hpad ▸ hpass⟩, rfl⟩
  · rintro ⟨i, ⟨text, hi, hpass⟩, rfl⟩
    obtain ⟨padded, hj, hpad⟩ := hd.exists_padded hi
    exact ⟨padded, hj, (hline hpad).trans hpass⟩

theorem followedNames_eq (hd : Relayout s d d') (hpad : Line.Padded text padded) :
    followedNames d'.lines padded = followedNames d.lines text := by
  rw [followedNames, followedNames, words_padded hpad, variableNames_padded hpad]
  refine hd.lines.foldl_eq _ (fun hline => ?_) fun hblank => ?_
  · rw [declared_padded hline]
  · rw [declared_blank hblank]
    rfl

theorem sharingLines_image (hd : Relayout s d d') (hpad : Line.Padded text padded) :
    IsImage s (sharingLines d.lines t text) (sharingLines d'.lines (s t) padded) := by
  rw [sharingLines, sharingLines, hd.followedNames_eq hpad]
  have hnames : ∀ name ∈ followedNames d.lines text, IsName name := isName_of_mem_followedNames
  refine hd.linesWhere_image (fun {i} _ _ hline => ?_) fun hblank => ?_
  · have hne : (s i != s t) = (i != t) := by
      rw [Bool.eq_iff_iff, bne_iff_ne, bne_iff_ne]
      exact not_congr hd.strictMono.injective.eq_iff
    rw [hne, any_eq_of_forall_mem fun name hname => mentions_padded (hnames name hname) hline]
  · rw [Bool.and_eq_false_iff]
    exact .inr (List.any_eq_false.2 fun name hname =>
      Bool.eq_false_iff.1 (mentions_blank (hnames name hname) hblank))

theorem definingLines_image (hd : Relayout s d d') (hpad : Line.Padded text padded) :
    IsImage s (definingLines d.lines t text) (definingLines d'.lines (s t) padded) := by
  have hcalls : lookedUpCalls padded = lookedUpCalls text := by
    rw [lookedUpCalls, lookedUpCalls, called_padded hpad]
  rw [definingLines, definingLines, hcalls]
  have hnames : ∀ name ∈ (lookedUpCalls text).eraseDups, IsName name := isName_of_mem_lookedUpCalls
  refine hd.linesWhere_image (fun hline => ?_) fun hblank => ?_
  · exact any_eq_of_forall_mem fun name hname => defines_padded (hnames name hname) hline
  · exact List.any_eq_false.2 fun name hname =>
      Bool.eq_false_iff.1 (defines_blank (hnames name hname) hblank)

end TextDocument.Relayout

/-! ### Imports -/

/-- The second catalogue has the numbers of the first one under the same names, renumbered. -/
def Catalog.Renumbered (s : Nat → Nat) (c c' : Catalog Nat) : Prop :=
  ∀ name, c'.find? name = (c.find? name).map s

namespace Relation.ImportIndex

open Catalog

variable {s : Nat → Nat} {c c' : Catalog Nat} {index index' : ImportIndex} {text padded name : String}
  {line : Nat}

theorem addNames_renumbered {names names' : List String} (line : Nat)
    (h : Catalog.Renumbered s c c') (hnames : names' = names) :
    Catalog.Renumbered s (addNames line c names) (addNames (s line) c' names') := by
  subst hnames
  induction names' generalizing c c' with
  | nil => exact h
  | cons first names ih =>
    refine ih fun name => ?_
    rw [find?_putNew, find?_putNew, h first, h name]
    split
    · rw [Option.map_some, Option.getD_map]
    · rfl

/-- Each form of the second index is that of the first one, renumbered. -/
structure Renumbered (s : Nat → Nat) (index index' : ImportIndex) : Prop where
  /-- Imports by name. -/
  named : Catalog.Renumbered s index.named index'.named
  /-- Imports of default exports. -/
  byDefault : Catalog.Renumbered s index.byDefault index'.byDefault
  /-- Imports of whole modules. -/
  wholeModule : Catalog.Renumbered s index.wholeModule index'.wholeModule
  /-- Results of `require` and parts of them. -/
  required : Catalog.Renumbered s index.required index'.required

theorem Renumbered.addLine (h : Renumbered s index index') (hpad : Padded text padded) :
    Renumbered s (index.addLine text line) (index'.addLine padded (s line)) := by
  constructor <;> simp only [ImportIndex.addLine]
  · exact addNames_renumbered line h.named (namedImports_padded hpad)
  · exact addNames_renumbered line h.byDefault (defaultImports_padded hpad)
  · exact addNames_renumbered line h.wholeModule (namespaceImports_padded hpad)
  · exact addNames_renumbered line h.required (requiredNames_padded hpad)

theorem addLine_blank (hblank : isBlankText text = true) : index.addLine text line = index := by
  rw [ImportIndex.addLine, namedImports_blank hblank, defaultImports_blank hblank,
    namespaceImports_blank hblank, requiredNames_blank hblank]
  rfl

theorem renumbered_ofLines {lines relaid : List String} (h : Relaid s 0 0 lines relaid) :
    Renumbered s (ofLines lines) (ofLines relaid) := by
  refine h.foldl_zipIdx ?_ (fun _ hindex hpad => hindex.addLine hpad) fun _ hindex hblank => ?_
  · exact ⟨fun _ => rfl, fun _ => rfl, fun _ => rfl, fun _ => rfl⟩
  · rwa [addLine_blank hblank]

theorem filterMap_find?_cons {forms forms' : List (Catalog Nat)} (h : Catalog.Renumbered s c c')
    (hforms : forms'.filterMap (·.find? name) = (forms.filterMap (·.find? name)).map s) :
    (c' :: forms').filterMap (·.find? name) = ((c :: forms).filterMap (·.find? name)).map s := by
  rw [List.filterMap_cons, List.filterMap_cons, h name]
  cases c.find? name with
  | none => exact hforms
  | some line => exact congrArg (s line :: ·) hforms

theorem Renumbered.lookup_eq (h : Renumbered s index index') (name : String) :
    index'.lookup name = (index.lookup name).map s :=
  filterMap_find?_cons h.named <| filterMap_find?_cons h.byDefault <|
    filterMap_find?_cons h.wholeModule <| filterMap_find?_cons h.required rfl

end Relation.ImportIndex

/-- What is proposed for a line of a text document as imports of the names on it. -/
theorem Relation.propose_imports {d : TextDocument} {t : Nat} {text : String} (count : Nat)
    (ht : d.lines[t]? = some text) : (imports count).propose d t =
      .ok (if (importableNames text).isEmpty then ∅
        else importLines count (importableNames text) d.lines) := by
  have hpropose : (imports count).propose d t = importsOf count d text := by
    simp only [imports, lineOf, TextDocument.line_view ht, mapError_ok, ok_bind]
  rw [hpropose, importsOf, allLinesOf, TextDocument.allLines_view]
  cases (importableNames text).isEmpty <;> rfl

namespace TextDocument.Relayout

open LineKin.Relation

variable {s : Nat → Nat} {d d' : TextDocument} {t : Nat} {text padded : String} {names : List String}

theorem importLines_image {count : Nat} (hd : Relayout s d d')
    (hscan : Relaid s 0 0 (d.lines.take count) (d'.lines.take count))
    (hnames : ∀ name ∈ names, IsName name) :
    IsImage s (importLines count names d.lines) (importLines count names d'.lines) := by
  have hindex := ImportIndex.renumbered_ofLines hscan
  refine .union ?_ (hd.linesWhere_image (fun hline => ?_) fun hblank => ?_)
  · rw [funext hindex.lookup_eq, ← List.map_flatMap]
    exact .ofList _
  · rw [isReExport_padded hline,
      any_eq_of_forall_mem fun name hname => holdsText_padded (hnames name hname) hline]
  · rw [isReExport_blank hblank, Bool.false_and]

end TextDocument.Relayout

/-! ### Members of a class -/

namespace Relation

variable {s : Nat → Nat} {names lines relaid body : List String} {text : String}
  {i j k m start line : Nat}

theorem mem_memberLines : line ∈ memberLines names start body ↔ ∃ k text, body[k]? = some text ∧
    (body.findIdx? isConstructor = some k ∨ ∃ name ∈ names, usesMember name text = true) ∧
      start + k = line := by
  simp only [memberLines, List.mem_filterMap, Prod.exists, List.mem_zipIdx_iff_getElem?]
  constructor
  · rintro ⟨text, k, htext, hmem⟩
    split at hmem
    · rename_i hchosen
      rw [Bool.or_eq_true, beq_iff_eq, List.any_eq_true] at hchosen
      exact ⟨k, text, htext, hchosen, Option.some.inj hmem⟩
    · exact absurd hmem (by simp)
  · rintro ⟨k, text, htext, hchosen, rfl⟩
    refine ⟨text, k, htext, if_pos ?_⟩
    rw [Bool.or_eq_true, beq_iff_eq, List.any_eq_true]
    exact hchosen

/-- The first constructor is the same. -/
theorem constructor_relaid (hs : StrictMono s) (h : Relaid s i j lines relaid)
    (hkm : s (i + k) = j + m) :
    relaid.findIdx? isConstructor = some m ↔ lines.findIdx? isConstructor = some k := by
  have hfirst := h.findIdx?_eq isConstructor isConstructor_padded isConstructor_blank
  constructor
  · intro hfound
    rw [hfound, Option.map_some, ← hkm] at hfirst
    obtain ⟨n, hn, heq⟩ := Option.map_eq_some_iff.1 hfirst.symm
    rw [hn, Nat.add_left_cancel (hs.injective heq)]
  · intro hfound
    rw [hfound, Option.map_some, hkm] at hfirst
    obtain ⟨n, hn, heq⟩ := Option.map_eq_some_iff.1 hfirst
    rw [hn, Nat.add_left_cancel heq]

/-- A line of blanks is neither the first constructor nor a use of a member. -/
theorem not_chosen_of_blank (hnames : ∀ name ∈ names, IsName name) (htext : body[k]? = some text)
    (hblank : isBlankText text = true) :
    ¬ (body.findIdx? isConstructor = some k ∨ ∃ name ∈ names, usesMember name text = true) := by
  rintro (hfound | ⟨name, hname, huse⟩)
  · obtain ⟨hlt, hcons, -⟩ := List.findIdx?_eq_some_iff_getElem.1 hfound
    obtain rfl : body[k] = text := Option.some.inj ((List.getElem?_eq_getElem hlt).symm.trans htext)
    rw [isConstructor_blank hblank] at hcons
    exact Bool.noConfusion hcons
  · rw [usesMember_blank (hnames name hname) hblank] at huse
    exact Bool.noConfusion huse

theorem memberLines_relaid (hs : StrictMono s) (h : Relaid s i j lines relaid)
    (hnames : ∀ name ∈ names, IsName name) :
    line ∈ memberLines names j relaid ↔ ∃ m ∈ memberLines names i lines, s m = line := by
  have huses : ∀ {text padded}, Padded text padded →
      ((∃ name ∈ names, usesMember name padded = true) ↔
        ∃ name ∈ names, usesMember name text = true) := fun hpad =>
    exists_congr fun name => and_congr_right fun hname => by
      rw [usesMember_padded (hnames name hname) hpad]
  simp only [mem_memberLines]
  constructor
  · rintro ⟨m, padded, hm, hchosen, rfl⟩
    rcases h.blank_or_exists hm with hb | ⟨k, text, hk, hkm, hpad⟩
    · exact absurd hchosen (not_chosen_of_blank hnames hm hb)
    · exact ⟨i + k, ⟨k, text, hk, hchosen.imp (constructor_relaid hs h hkm).1 (huses hpad).1, rfl⟩, hkm⟩
  · rintro ⟨_, ⟨k, text, hk, hchosen, rfl⟩, rfl⟩
    obtain ⟨padded, hm, hpad⟩ := h.getElem?_apply hk
    have hkm : s (i + k) = j + (s (i + k) - j) :=
      (Nat.add_sub_cancel' (h.le_apply (List.getElem?_eq_some_iff.1 hk).1)).symm
    exact ⟨_, padded, hm, hchosen.imp (constructor_relaid hs h hkm).2 (huses hpad).2, hkm.symm⟩

/-- The lines that share a member with a text, for a class declared on a line. -/
def linesOfClass (d : TextDocument) (text : String) (start : Nat) : LineSet :=
  let closing := (Block.closingFrom 0 start (d.lines.drop start)).getD (max (d.lineCount - 1) start)
  (LineSet.ofList (memberLines (memberNames text) start
    ((d.lines.drop start).take (closing + 1 - start)))).insert start

/-- A block ends on a line of the document. -/
theorem closing_bounds {d : TextDocument} (hstart : start < d.lineCount) :
    let closing := (Block.closingFrom 0 start (d.lines.drop start)).getD (max (d.lineCount - 1) start)
    start ≤ closing ∧ closing < d.lineCount := by
  cases hfound : Block.closingFrom 0 start (d.lines.drop start) with
  | none =>
    simp only [Option.getD_none]
    omega
  | some found =>
    obtain ⟨hlow, hhigh⟩ := Block.closingFrom_bounds hfound
    rw [List.length_drop] at hhigh
    simp only [Option.getD_some]
    unfold TextDocument.lineCount at hstart ⊢
    omega

theorem membersOf_view (d : TextDocument) (target : Nat) (text : String) :
    membersOf d target text =
      .ok (((d.foundAbove className? target).map fun found => linesOfClass d text found.1).getD ∅) := by
  rw [membersOf, enclosingClass, d.nearest_view, mapError_ok, ok_bind]
  cases d.foundAbove className? target with
  | none => rfl
  | some found =>
    simp only [d.blockFrom_view, d.slice_view, mapError_ok, ok_bind]
    rfl

/-- What is proposed for a line of a text document as members of its class. -/
theorem propose_classMembers {d : TextDocument} {t : Nat} (ht : d.lines[t]? = some text) :
    classMembers.propose d t =
      .ok (((d.foundAbove className? t).map fun found => linesOfClass d text found.1).getD ∅) := by
  rw [← membersOf_view]
  simp only [classMembers, lineOf, TextDocument.line_view ht, mapError_ok, ok_bind]

end Relation

namespace TextDocument.Relayout

open LineKin.Relation

variable {s : Nat → Nat} {d d' : TextDocument} {t start : Nat} {text padded : String}

theorem linesOfClass_image (hd : Relayout s d d') (hpad : Line.Padded text padded)
    (hstart : start < d.lineCount) :
    IsImage s (linesOfClass d text start) (linesOfClass d' padded (s start)) := by
  have hline : d.lines[start]? = some d.lines[start] := List.getElem?_eq_getElem hstart
  obtain ⟨head, hhead, hpadded⟩ := hd.exists_padded hline
  have hclosing := hd.closingFrom_apply 0 0 hline hhead (by
    rw [Block.behindBytes?_zero, Block.behindBytes?_zero]
    exact Block.walk_padded hpadded .start)
  rw [linesOfClass, linesOfClass, hclosing, memberNames_padded hpad]
  set closing := (Block.closingFrom 0 start (d.lines.drop start)).getD
    (max (d.lineCount - 1) start)
  have hbounds : start ≤ closing ∧ closing < d.lineCount := closing_bounds hstart
  -- the lines of the block, which ends on the same line
  have hbody : Relaid s start (s start) ((d.lines.drop start).take (closing + 1 - start))
      ((d'.lines.drop (s start)).take (s closing + 1 - s start)) := by
    have hlen : closing - start < (d.lines.drop start).length := by
      rw [List.length_drop]
      exact Nat.sub_lt_sub_right hbounds.1 hbounds.2
    have htake := (hd.drop hstart).take hlen
    rwa [Nat.add_sub_cancel' hbounds.1, ← Nat.sub_add_comm hbounds.1] at htake
  refine .insert fun j => ?_
  simp only [LineSet.mem_ofList]
  exact memberLines_relaid hd.strictMono hbody isName_of_mem_memberNames

theorem proposedMembers_image (hd : Relayout s d d') (ht : t < d.lineCount)
    (hpad : Line.Padded text padded) :
    IsImage s (((d.foundAbove className? t).map fun found => linesOfClass d text found.1).getD ∅)
      (((d'.foundAbove className? (s t)).map fun found => linesOfClass d' padded found.1).getD ∅) := by
  rw [hd.foundAbove_apply className?_padded className?_blank ht]
  cases hfound : d.foundAbove className? t with
  | none => exact .empty
  | some found => exact hd.linesOfClass_image hpad (lt_lineCount_of_foundAbove hfound)

end TextDocument.Relayout

end LineKin
