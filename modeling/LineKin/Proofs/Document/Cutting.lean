import LineKin.Document.File

/-!
# Cutting texts and joining lines

A text is cut into lines, and the lines of a document are joined to a text. The two undo each other as
far as line breaks are plain line feeds: lines that a cut could give are cut again as they were
(`linesOf_text`), and a text is got back exactly if none of its lines ends in a carriage return
(`text_ofText_eq_iff`).

A file can be opened exactly if it holds a text (`ofFile_eq_ok_iff`), and its document is that of the
text.
-/

namespace LineKin.TextDocument

variable {text languageId : String} {d : TextDocument}

/-! ### Pieces between line feeds -/

/-- What stands in a piece stands in the whole, and is not what the pieces are cut at. -/
theorem mem_and_ne_of_mem_splitOn {x c : Char} {xs piece : List Char} (hpiece : piece ∈ xs.splitOn x)
    (hc : c ∈ piece) : c ∈ xs ∧ c ≠ x := by
  induction xs generalizing piece with
  | nil =>
    simp only [List.splitOn_nil, List.mem_singleton] at hpiece
    subst hpiece
    cases hc
  | cons first rest ih =>
    rw [List.splitOn_cons_eq_if_modifyHead] at hpiece
    split at hpiece
    · rcases List.mem_cons.1 hpiece with rfl | hpiece
      · cases hc
      · exact (ih hpiece hc).imp_left (List.mem_cons_of_mem _)
    · rename_i hfirst
      -- the first character belongs to the first piece of the rest
      obtain ⟨head, pieces, hpieces⟩ := List.exists_cons_of_ne_nil (List.splitOn_ne_nil x rest)
      rw [hpieces] at hpiece ih
      rcases List.mem_cons.1 hpiece with rfl | hpiece
      · rcases List.mem_cons.1 hc with rfl | hc
        · exact ⟨List.mem_cons_self, by simpa using hfirst⟩
        · exact (ih List.mem_cons_self hc).imp_left (List.mem_cons_of_mem _)
      · exact (ih (List.mem_cons_of_mem _ hpiece) hc).imp_left (List.mem_cons_of_mem _)

/-- Texts that are put together are cut apart again. -/
theorem splitOn_toList_intercalate {separator : String} {c : Char} {pieces : List String}
    (hseparator : separator.toList = [c]) (hpieces : ∀ piece ∈ pieces, c ∉ piece.toList)
    (hsome : pieces ≠ []) :
    (separator.intercalate pieces).toList.splitOn c = pieces.map String.toList := by
  rw [String.toList_intercalate, hseparator]
  refine List.splitOn_intercalate c (fun chars hchars => ?_) (by simpa using hsome)
  obtain ⟨piece, hpiece, rfl⟩ := List.mem_map.1 hchars
  exact hpieces piece hpiece

theorem withoutReturn_eq_self_iff (line : List Char) :
    withoutReturn line = line ↔ line.getLast? ≠ some '\r' := by
  rw [withoutReturn]
  split
  · rename_i hreturn
    refine iff_of_false (fun heq => ?_) (fun hne => hne hreturn)
    have hpos : 0 < line.length := by
      cases line with
      | nil => cases hreturn
      | cons => exact Nat.zero_lt_succ _
    have hlength := congrArg List.length heq
    rw [List.length_dropLast] at hlength
    omega
  · rename_i hne
    exact iff_of_true rfl hne

theorem withoutReturn_subset (line : List Char) : withoutReturn line ⊆ line := by
  rw [withoutReturn]
  split
  · exact List.dropLast_subset line
  · exact List.Subset.refl line

/-- There is no line feed in a piece, with or without the carriage return at its end. -/
theorem not_mem_withoutReturn {xs piece : List Char} (hpiece : piece ∈ xs.splitOn '\n') :
    '\n' ∉ withoutReturn piece := by
  intro hfeed
  exact (mem_and_ne_of_mem_splitOn hpiece (withoutReturn_subset piece hfeed)).2 rfl

/-! ### Lines and texts -/

theorem toList_text (d : TextDocument) :
    d.text.toList = ['\n'].intercalate (d.lines.map String.toList) :=
  String.toList_intercalate

theorem splitOn_text (hsome : d.lines ≠ []) (hfeeds : ∀ line ∈ d.lines, '\n' ∉ line.toList) :
    d.text.toList.splitOn '\n' = d.lines.map String.toList :=
  splitOn_toList_intercalate rfl hfeeds hsome

/-- **Cutting undoes joining**, for lines that a cut could give. -/
theorem linesOf_text (hsome : d.lines ≠ [])
    (hlines : ∀ line ∈ d.lines, '\n' ∉ line.toList ∧ line.toList.getLast? ≠ some '\r') :
    linesOf d.text = d.lines := by
  have hpieces := splitOn_text hsome fun line hline => (hlines line hline).1
  have hkept : ∀ line ∈ d.lines, String.ofList (withoutReturn line.toList) = line := by
    intro line hline
    rw [(withoutReturn_eq_self_iff _).2 (hlines line hline).2, String.ofList_toList]
  rw [linesOf, hpieces, List.map_map]
  calc d.lines.map _ = d.lines.map id := List.map_congr_left hkept
    _ = d.lines := List.map_id _

/-- No line of a text ends in a carriage return. -/
def HasPlainBreaks (text : String) : Prop :=
  ∀ line ∈ text.toList.splitOn '\n', line.getLast? ≠ some '\r'

instance (text : String) : Decidable (HasPlainBreaks text) :=
  inferInstanceAs (Decidable (∀ _ ∈ _, _))

theorem hasPlainBreaks_of_not_mem (h : '\r' ∉ text.toList) : HasPlainBreaks text := by
  intro piece hpiece hlast
  exact h (mem_and_ne_of_mem_splitOn hpiece (List.mem_of_getLast? hlast)).1

theorem toList_text_ofText (text languageId : String) : (ofText text languageId).text.toList =
    ['\n'].intercalate ((text.toList.splitOn '\n').map withoutReturn) := by
  rw [toList_text, ofText, linesOf, List.map_map]
  exact congrArg _ (List.map_congr_left fun piece _ => String.toList_ofList)

/-- **Joining undoes cutting** exactly if all line breaks are plain. -/
theorem text_ofText_eq_iff (text languageId : String) :
    (ofText text languageId).text = text ↔ HasPlainBreaks text := by
  rw [← String.toList_inj, toList_text_ofText]
  constructor
  · intro hjoined piece hpiece
    have hfeeds : ∀ line ∈ (text.toList.splitOn '\n').map withoutReturn, '\n' ∉ line := by
      intro line hline
      obtain ⟨piece, hpiece, rfl⟩ := List.mem_map.1 hline
      exact not_mem_withoutReturn hpiece
    -- both sides are cut again
    have hsplit : (text.toList.splitOn '\n').map withoutReturn = (text.toList.splitOn '\n').map id := by
      rw [← List.splitOn_intercalate '\n' hfeeds (by simp), hjoined, List.map_id]
    exact (withoutReturn_eq_self_iff piece).1 (List.map_inj_left.1 hsplit piece hpiece)
  · intro hplain
    have hself : ∀ piece ∈ text.toList.splitOn '\n', withoutReturn piece = id piece := by
      intro piece hpiece
      exact (withoutReturn_eq_self_iff piece).2 (hplain piece hpiece)
    rw [List.map_congr_left hself, List.map_id, List.intercalate_splitOn]

/-! ### Files -/

variable {files : FileTree} {path : String} {maxFileSize : Nat}

/-- A file holds a text that can be opened: it is not too large, looks like text and is UTF-8. -/
def HoldsText (files : FileTree) (path : String) (maxFileSize : Nat) (text : String) : Prop :=
  ∃ bytes, files.read path = .ok bytes ∧ bytes.size ≤ maxFileSize ∧ looksLikeText bytes = true ∧
    Text.Utf8.decode bytes = .ok text

theorem decode_toUTF8 (text : String) : Text.Utf8.decode text.toUTF8 = .ok text := by
  have hread : String.fromUTF8? text.toUTF8 = some text := dif_pos text.isValidUTF8
  rw [Text.Utf8.decode, hread]

/-- A file that a text was written to holds the text. -/
theorem holdsText_toUTF8 (hread : files.read path = .ok text.toUTF8)
    (hsize : text.toUTF8.size ≤ maxFileSize) (hlooks : looksLikeText text.toUTF8 = true) :
    HoldsText files path maxFileSize text :=
  ⟨text.toUTF8, hread, hsize, hlooks, decode_toUTF8 text⟩

/-- A file becomes the document of the text that it holds. -/
theorem HoldsText.ofFile_eq (h : HoldsText files path maxFileSize text) :
    ofFile files path maxFileSize = .ok (ofText text (Language.ofPath path)) := by
  obtain ⟨bytes, hread, hsize, hlooks, hdecode⟩ := h
  simp [ofFile, hread, ofBytes, Nat.not_lt.2 hsize, hlooks, hdecode]

/-- **What can be opened**: the files that hold a text. -/
theorem ofFile_eq_ok_iff : ofFile files path maxFileSize = .ok d ↔
    ∃ text, HoldsText files path maxFileSize text ∧ d = ofText text (Language.ofPath path) := by
  constructor
  · intro h
    rw [ofFile] at h
    split at h
    · rename_i bytes hread
      rw [ofBytes] at h
      split at h
      · cases h
      · rename_i hsize
        split at h
        · cases h
        · rename_i hlooks
          split at h
          · rename_i text hdecode
            obtain rfl := Except.ok.inj h
            exact ⟨text, ⟨bytes, hread, Nat.not_lt.1 hsize, by simpa using hlooks, hdecode⟩, rfl⟩
          · cases h
    · cases h
  · rintro ⟨text, hholds, rfl⟩
    exact hholds.ofFile_eq

end LineKin.TextDocument
